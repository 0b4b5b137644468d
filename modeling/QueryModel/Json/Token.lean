import QueryModel.Json.Basic
import QueryModel.Text.Pieces

/-!
# JSON tokens

A text breaks at one place or at none.  It is *truncated* when it ends too early
and *malformed* when it goes wrong in any other way.

A value that is read and a value that is skipped are held to different rules.
Skipping checks the escapes of a text but not the pairing of its surrogates, and
the form of a number but not its size.  So a lexeme records both outcomes
(`Reading`).  A lexeme that cannot even be skipped ends the tokens.

`tokens` cuts a text into lexemes.  Which lexeme may stand where is settled
later, when a tree is made of them.
-/

namespace QueryModel.Json

/-- How a text breaks. -/
inductive Fault
  /-- The text ends before the value does. -/
  | truncated
  /-- The text goes wrong in any other way. -/
  | malformed
deriving DecidableEq, Repr

/-- What comes of a lexeme when it is read, and when it is skipped. -/
structure Reading (α : Type) where
  /-- The value, or the fault met when reading it. -/
  read : Except Fault α
  /-- The fault met when skipping it, if any. -/
  skip : Option Fault

/-- A lexeme without faults. -/
def Reading.ok {α : Type} (a : α) : Reading α := ⟨.ok a, none⟩

/-- A lexeme that breaks, whether read or skipped. -/
def Reading.broken {α : Type} (whenRead whenSkipped : Fault) : Reading α :=
  ⟨.error whenRead, some whenSkipped⟩

/-! ## Texts -/

/-- The value of a hexadecimal digit. -/
def hexDigit? (c : Char) : Option Nat :=
  if c.isDigit then some (c.toNat - 48)
  else if 'a' ≤ c ∧ c ≤ 'f' then some (c.toNat - 87)
  else if 'A' ≤ c ∧ c ≤ 'F' then some (c.toNat - 55)
  else none

/-- The number of four hexadecimal digits. -/
def hexWord? (a b c d : Char) : Option Nat := do
  return (((← hexDigit? a) * 16 + (← hexDigit? b)) * 16 + (← hexDigit? c)) * 16 + (← hexDigit? d)

/-- The fault of an escape with fewer than four characters after its `u`.  The
escape is cut short when fewer than four bytes are left. -/
def shortEscapeFault (rest : List Char) : Fault :=
  if Text.byteSize rest < 4 then .truncated else .malformed

/-- The character of a one-letter escape. -/
def plainEscape? (c : Char) : Option Char :=
  match c with
  | '"' => some '"'
  | '\\' => some '\\'
  | '/' => some '/'
  | 'b' => some '\x08'
  | 'f' => some '\x0c'
  | 'n' => some '\n'
  | 'r' => some '\r'
  | 't' => some '\t'
  | _ => none

/-- The number of characters of a text up to its closing quote, the quote
included.  This is what skipping sees. -/
def textSize : List Char → Except Fault Nat
  | [] => .error .truncated
  | '"' :: _ => .ok 1
  | '\\' :: 'u' :: a :: b :: c :: d :: rest =>
    match hexWord? a b c d with
    | some _ => (textSize rest).map (· + 6)
    | none => .error .malformed
  | '\\' :: 'u' :: rest => .error (shortEscapeFault rest)
  | '\\' :: e :: rest =>
    match plainEscape? e with
    | some _ => (textSize rest).map (· + 2)
    | none => .error .malformed
  | ['\\'] => .error .truncated
  | c :: rest => if c.toNat < 0x20 then .error .malformed else (textSize rest).map (· + 1)

/-- The characters of a text up to its closing quote.  An escaped high surrogate
has to be followed by an escaped low one. -/
def textValue : List Char → Except Fault (List Char)
  | [] => .error .truncated
  | '"' :: _ => .ok []
  | '\\' :: 'u' :: a :: b :: c :: d :: rest =>
    match hexWord? a b c d with
    | none => .error .malformed
    | some unit =>
      if 0xDC00 ≤ unit ∧ unit ≤ 0xDFFF then .error .malformed
      else if 0xD800 ≤ unit ∧ unit ≤ 0xDBFF then
        match rest with
        | [] => .error .truncated
        | ['\\'] => .error .truncated
        | '\\' :: 'u' :: a' :: b' :: c' :: d' :: rest' =>
          match hexWord? a' b' c' d' with
          | none => .error .malformed
          | some low =>
            if 0xDC00 ≤ low ∧ low ≤ 0xDFFF then
              (textValue rest').map
                (Char.ofNat ((unit - 0xD800) * 0x400 + (low - 0xDC00) + 0x10000) :: ·)
            else .error .malformed
        | '\\' :: 'u' :: rest' => .error (shortEscapeFault rest')
        | _ => .error .malformed
      else (textValue rest).map (Char.ofNat unit :: ·)
  | '\\' :: 'u' :: rest => .error (shortEscapeFault rest)
  | '\\' :: e :: rest =>
    match plainEscape? e with
    | some c => (textValue rest).map (c :: ·)
    | none => .error .malformed
  | ['\\'] => .error .truncated
  | c :: rest => if c.toNat < 0x20 then .error .malformed else (textValue rest).map (c :: ·)

/-! ## Numbers -/

/-- The parts of a number. -/
structure NumberParts where
  /-- Whether a minus sign stands in front. -/
  negative : Bool
  /-- The digits before the point. -/
  whole : List Nat
  /-- The digits after the point, if there is one. -/
  fraction : Option (List Nat)
  /-- The exponent, if there is one. -/
  exponent : Option Int
  /-- The number of characters. -/
  size : Nat

/-- The digits at the start of a text. -/
def leadingDigits (cs : List Char) : List Nat :=
  (cs.takeWhile Char.isDigit).map fun c => c.toNat - 48

/-- The fault of a number that lacks a digit where the given text starts. -/
def missingDigit (cs : List Char) : Fault := if cs.isEmpty then .truncated else .malformed

/-- The number of some digits. -/
def ofDigits (ds : List Nat) : Nat := ds.foldl (fun n d => n * 10 + d) 0

/-- The exponent at the start of a text, with the number of its characters. -/
def exponentPart (cs : List Char) : Except Fault (Option Int × Nat) :=
  match cs with
  | c :: rest =>
    if c == 'e' || c == 'E' then
      let signed := match rest with
        | s :: _ => s == '+' || s == '-'
        | [] => false
      let minus := rest.head? == some '-'
      let after := if signed then rest.drop 1 else rest
      let digits := leadingDigits after
      if digits.isEmpty then .error (missingDigit after)
      else
        let n : Int := ofDigits digits
        .ok (some (if minus then -n else n), 1 + (if signed then 1 else 0) + digits.length)
    else .ok (none, 0)
  | [] => .ok (none, 0)

/-- The parts of the number at the start of a text. -/
def numberParts (cs : List Char) : Except Fault NumberParts := do
  let negative := cs.head? == some '-'
  let start := if negative then cs.drop 1 else cs
  let whole := leadingDigits start
  if whole.isEmpty then throw (missingDigit start)
  if whole.head? == some 0 && 1 < whole.length then throw .malformed
  let afterWhole := start.drop whole.length
  let size := (if negative then 1 else 0) + whole.length
  if afterWhole.head? == some '.' then
    let fraction := leadingDigits (afterWhole.drop 1)
    if fraction.isEmpty then throw (missingDigit (afterWhole.drop 1))
    let (exponent, n) ← exponentPart (afterWhole.drop (1 + fraction.length))
    return ⟨negative, whole, some fraction, exponent, size + 1 + fraction.length + n⟩
  else
    let (exponent, n) ← exponentPart afterWhole
    return ⟨negative, whole, none, exponent, size + n⟩

/-- The value of a number.  Whole numbers within a signed or an unsigned 64-bit
word stay exact, except that negative zero is a double.  A double that would be
infinite is malformed. -/
def NumberParts.value (p : NumberParts) : Except Fault Number :=
  let (word, left) := Decimal.leadingWord 0 p.whole
  let asFloat (digits : Nat) (exponent : Int) : Except Fault Number :=
    match Decimal.scale (Float.ofNat digits) exponent with
    | some x => .ok (.float (if p.negative then -x else x))
    | none => .error .malformed
  match p.fraction, p.exponent with
  | none, none =>
    if left ≠ 0 then asFloat word left
    else if !p.negative then .ok (.int word)
    else if word = 0 ∨ Decimal.twoTo 63 < word then asFloat word 0
    else .ok (.int (-(word : Int)))
  | fraction, exponent =>
    let digits := fraction.getD []
    let (word', left') := Decimal.leadingWord word digits
    let used : Int := digits.length - left'
    asFloat word' (left - used + exponent.getD 0)

/-! ## Tokens -/

/-- A lexeme. -/
inductive Token
  /-- An opening brace. -/
  | leftBrace
  /-- A closing brace. -/
  | rightBrace
  /-- An opening bracket. -/
  | leftBracket
  /-- A closing bracket. -/
  | rightBracket
  /-- A colon. -/
  | colon
  /-- A comma. -/
  | comma
  /-- The word for null. -/
  | null
  /-- The word for a Boolean. -/
  | bool (b : Bool)
  /-- A number. -/
  | number (n : Reading Number)
  /-- A text. -/
  | text (s : Reading String)
  /-- Anything else. -/
  | stray (fault : Fault)

/-- The token of a text that starts after its opening quote, and the number of
its characters. -/
def textToken (cs : List Char) : Token × Nat :=
  let value := (textValue cs).map String.ofList
  match textSize cs with
  | .ok n => (.text ⟨value, none⟩, n)
  | .error fault => (.text ⟨value, some fault⟩, cs.length)

/-- The token of a number, and the number of its characters.  A number that
breaks is malformed when skipped. -/
def numberToken (cs : List Char) : Token × Nat :=
  match numberParts cs with
  | .ok parts => (.number ⟨parts.value, none⟩, parts.size)
  | .error fault => (.number (.broken fault .malformed), cs.length)

/-- The token of a word, if the text starts with the word. -/
def wordToken (word : String) (token : Token) (cs : List Char) : Token × Nat :=
  if word.toList.isPrefixOf cs then (token, word.length)
  else if cs.isPrefixOf word.toList then (.stray .truncated, cs.length)
  else (.stray .malformed, cs.length)

/-- The first token of a text that starts with the given character, and the
number of its characters after that one. -/
def firstToken (c : Char) (rest : List Char) : Token × Nat :=
  match c with
  | '\x7b' => (.leftBrace, 0)
  | '\x7d' => (.rightBrace, 0)
  | '[' => (.leftBracket, 0)
  | ']' => (.rightBracket, 0)
  | ':' => (.colon, 0)
  | ',' => (.comma, 0)
  | '"' => textToken rest
  | 'n' => wordToken "ull" .null rest
  | 't' => wordToken "rue" (.bool true) rest
  | 'f' => wordToken "alse" (.bool false) rest
  | _ =>
    if c == '-' || c.isDigit then
      let (token, n) := numberToken (c :: rest)
      (token, n - 1)
    else (.stray .malformed, rest.length)

/-- The blanks between tokens. -/
def isGap (c : Char) : Bool := c == ' ' || c == '\n' || c == '\t' || c == '\r'

/-- The tokens of a text. -/
def tokens : List Char → List Token
  | [] => []
  | c :: rest =>
    if isGap c then tokens rest
    else
      let (token, n) := firstToken c rest
      token :: tokens (rest.drop n)
termination_by cs => cs.length

end QueryModel.Json
