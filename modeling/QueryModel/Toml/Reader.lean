import QueryModel.Toml.Word

/-!
# TOML text

Reading a text into tables, by the rules of TOML 1.1.  Line ends inside long texts
stay as they are.  Lists and tables in braces nest to a fixed depth (`maxNesting`).

Each step gives what it found and how many characters it took, so that the text
that is left is always the end of the text that was given.
-/

namespace QueryModel.Toml

/-! ## Blanks, line ends and comments -/

/-- The control characters that may not stand in comments and texts. -/
def isForbidden (c : Char) : Bool := (c.toNat < 0x20 && c != '\t') || c.toNat == 0x7F

/-- The number of blanks at the start of a text. -/
def blankSize (cs : List Char) : Nat := (cs.takeWhile isInlineBlank).length

/-- The number of characters of a line end, if the text starts with one. -/
def newlineSize? : List Char → Option Nat
  | '\n' :: _ => some 1
  | '\r' :: '\n' :: _ => some 2
  | _ => none

/-- The number of characters of a comment after its mark. -/
def commentSize? : List Char → Option Nat
  | [] => some 0
  | c :: rest =>
    if (newlineSize? (c :: rest)).isSome then some 0
    else if isForbidden c then none
    else (commentSize? rest).map (· + 1)

/-- The number of characters up to the next line, if only blanks and a comment
stand before it.  The end of the text ends a line too. -/
def lineEndSize? (cs : List Char) : Option Nat := do
  let blanks := blankSize cs
  let afterBlanks := cs.drop blanks
  let comment ← match afterBlanks with
    | '#' :: rest => (commentSize? rest).map (· + 1)
    | _ => some 0
  let afterComment := afterBlanks.drop comment
  if afterComment.isEmpty then some (blanks + comment)
  else (newlineSize? afterComment).map (blanks + comment + ·)

/-- The number of blanks, line ends and comments at the start of a text. -/
def gapSize? (cs : List Char) : Option Nat :=
  match cs with
  | [] => some 0
  | c :: rest =>
    if isInlineBlank c then
      (gapSize? rest).map (· + 1)
    else if c = '#' then
      match commentSize? rest with
      | some n => (gapSize? (rest.drop n)).map (· + n + 1)
      | none => none
    else
      match newlineSize? (c :: rest) with
      | some n => (gapSize? (rest.drop (n - 1))).map (· + n)
      | none => some 0
termination_by cs.length

/-! ## Texts -/

/-- The character of a code point, if it has one. -/
def scalar? (n : Nat) : Option Char :=
  if h : n.isValidChar then some (Char.ofNatAux n h) else none

/-- The number of some hexadecimal digits. -/
def hexNumber? (digits : List Char) : Option Nat :=
  digits.foldlM (fun n c => (Json.hexDigit? c).map (n * 16 + ·)) 0

/-- The character of an escape after its backslash, and the number of characters
it takes. -/
def escape? : List Char → Option (Char × Nat)
  | 'b' :: _ => some ('\x08', 1)
  | 't' :: _ => some ('\t', 1)
  | 'n' :: _ => some ('\n', 1)
  | 'f' :: _ => some ('\x0c', 1)
  | 'r' :: _ => some ('\r', 1)
  | '"' :: _ => some ('"', 1)
  | '\\' :: _ => some ('\\', 1)
  | 'e' :: _ => some ('\x1b', 1)
  | 'x' :: rest => sized 2 rest
  | 'u' :: rest => sized 4 rest
  | 'U' :: rest => sized 8 rest
  | _ => none
where
  /-- A code point of a fixed number of digits. -/
  sized (count : Nat) (rest : List Char) : Option (Char × Nat) := do
    if rest.length < count then none
    else
      let c ← scalar? (← hexNumber? (rest.take count))
      return (c, count + 1)

/-- A text in double quotes, after the opening quote. -/
def basicText? (cs : List Char) : Option (List Char × Nat) :=
  match cs with
  | [] => none
  | '"' :: _ => some ([], 1)
  | '\\' :: rest =>
    match escape? rest with
    | some (c, n) => (basicText? (rest.drop n)).map fun (text, m) => (c :: text, m + n + 1)
    | none => none
  | c :: rest =>
    if isForbidden c then none
    else (basicText? rest).map fun (text, m) => (c :: text, m + 1)
termination_by cs.length

/-- A text in single quotes, after the opening quote. -/
def literalText? : List Char → Option (List Char × Nat)
  | [] => none
  | '\'' :: _ => some ([], 1)
  | c :: rest =>
    if isForbidden c then none
    else (literalText? rest).map fun (text, m) => (c :: text, m + 1)

/-- The number of blanks and line ends at the start of a text. -/
def foldSize (cs : List Char) : Nat :=
  match cs with
  | [] => 0
  | c :: rest =>
    if isInlineBlank c then
      foldSize rest + 1
    else
      match newlineSize? (c :: rest) with
      | some n => foldSize (rest.drop (n - 1)) + n
      | none => 0
termination_by cs.length

/-- The number of characters that a backslash at the end of a line removes after
itself, if it stands there. -/
def continuationSize? (cs : List Char) : Option Nat :=
  if (newlineSize? (cs.drop (blankSize cs))).isSome then some (foldSize cs) else none

/-- A text over several lines in three quotes, after the opening quotes.  One or
two quotes before the closing ones belong to the text.  `escapes` says whether
backslashes count. -/
def longText? (quote : Char) (escapes : Bool) (cs : List Char) : Option (List Char × Nat) :=
  if List.replicate 5 quote |>.isPrefixOf cs then some ([quote, quote], 5)
  else if List.replicate 4 quote |>.isPrefixOf cs then some ([quote], 4)
  else if List.replicate 3 quote |>.isPrefixOf cs then some ([], 3)
  else
    match cs with
    | [] => none
    | c :: rest =>
      if escapes && c == '\\' then
        match continuationSize? rest with
        | some n => (longText? quote escapes (rest.drop n)).map fun (text, m) => (text, m + n + 1)
        | none =>
          match escape? rest with
          | some (e, n) =>
            (longText? quote escapes (rest.drop n)).map fun (text, m) => (e :: text, m + n + 1)
          | none => none
      else
        match newlineSize? (c :: rest) with
        | some n =>
          (longText? quote escapes (rest.drop (n - 1))).map fun (text, m) =>
            ((c :: rest).take n ++ text, m + n)
        | none =>
          if isForbidden c then none
          else (longText? quote escapes rest).map fun (text, m) => (c :: text, m + 1)
termination_by cs.length

/-- A long text without the line end right after its opening quotes. -/
def longTextBody? (quote : Char) (escapes : Bool) (cs : List Char) : Option (List Char × Nat) :=
  let n := (newlineSize? cs).getD 0
  (longText? quote escapes (cs.drop n)).map fun (text, m) => (text, m + n)

/-! ## Keys -/

/-- The characters of a key without quotes. -/
def isBareKeyChar (c : Char) : Bool := c.isAlphanum || c == '_' || c == '-'

/-- One part of a key. -/
def keyPart? (cs : List Char) : Option (String × Nat) :=
  match cs with
  | '"' :: rest => (basicText? rest).map fun (text, n) => (String.ofList text, n + 1)
  | '\'' :: rest => (literalText? rest).map fun (text, n) => (String.ofList text, n + 1)
  | _ =>
    let bare := cs.takeWhile isBareKeyChar
    if bare.isEmpty then none else some (String.ofList bare, bare.length)

/-- A key with its parts, and the blanks after it. -/
def key? (cs : List Char) : Option (List String × Nat) :=
  match keyPart? cs with
  | none => none
  | some (part, n) =>
    let size := n + blankSize (cs.drop n)
    match h : cs.drop size with
    | '.' :: rest =>
      let blanks := blankSize rest
      have : rest.length < cs.length := by
        have := congrArg List.length h
        simp at this
        omega
      (key? (rest.drop blanks)).map fun (parts, m) => (part :: parts, size + 1 + blanks + m)
    | _ => some ([part], size)
termination_by cs.length

/-! ## Values -/

/-- How deep lists and tables in braces may nest. -/
def maxNesting : Nat := 80

mutual

/-- A value.  `room` is how many lists and tables may still open inside each
other. -/
def value? (room : Nat) (cs : List Char) : Option (Node × Nat) :=
  match cs with
  | '"' :: '"' :: '"' :: rest =>
    (longTextBody? '"' true rest).map fun (text, n) => (.text (String.ofList text), n + 3)
  | '"' :: rest => (basicText? rest).map fun (text, n) => (.text (String.ofList text), n + 1)
  | '\'' :: '\'' :: '\'' :: rest =>
    (longTextBody? '\'' false rest).map fun (text, n) => (.text (String.ofList text), n + 3)
  | '\'' :: rest => (literalText? rest).map fun (text, n) => (.text (String.ofList text), n + 1)
  | '[' :: rest =>
    match room with
    | 0 => none
    | room + 1 => (items? room rest).map fun (items, n) => (.list items false, n + 1)
  | '\x7b' :: rest =>
    match room with
    | 0 => none
    | room + 1 => (pairs? room [] rest).map fun (entries, n) => (.table .braces entries, n + 1)
  | _ =>
    let word := leadingWord cs
    (wordValue? word).map fun value => (value, word.length)
termination_by 2 * cs.length

/-- The items of a list after its opening bracket or a comma, up to the closing
bracket.  A comma may stand before the bracket. -/
def items? (room : Nat) (cs : List Char) : Option (List Node × Nat) :=
  match gapSize? cs with
  | none => none
  | some gap =>
    match cs.drop gap with
    | ']' :: _ => some ([], gap + 1)
    | _ =>
      match value? room (cs.drop gap) with
      | none => none
      | some (item, n) =>
        match gapSize? (cs.drop (gap + n)) with
        | none => none
        | some after =>
          match h : cs.drop (gap + n + after) with
          | ',' :: rest =>
            have : rest.length < cs.length := by
              have := congrArg List.length h
              simp at this
              omega
            (items? room rest).map fun (items, m) => (item :: items, gap + n + after + 1 + m)
          | ']' :: _ => some ([item], gap + n + after + 1)
          | _ => none
termination_by 2 * cs.length + 1

/-- The pairs of a table in braces after its opening brace or a comma, up to the
closing brace.  A comma may stand before the brace.  Line ends and comments may
stand wherever blanks may, except next to the dot of a key. -/
def pairs? (room : Nat) (entries : Entries) (cs : List Char) : Option (Entries × Nat) :=
  match gapSize? cs with
  | none => none
  | some gap =>
    match cs.drop gap with
    | '\x7d' :: _ => some (entries, gap + 1)
    | _ =>
      match key? (cs.drop gap) with
      | none => none
      | some (path, k) =>
        match gapSize? (cs.drop (gap + k)) with
        | none => none
        | some before =>
          match h : cs.drop (gap + k + before) with
          | '=' :: rest =>
            have : rest.length < cs.length := by
              have := congrArg List.length h
              simp at this
              omega
            match pairValue? room rest with
            | none => none
            | some (value, n) =>
              match assign value path entries with
              | none => none
              | some entries =>
                match h' : rest.drop n with
                | ',' :: rest' =>
                  have : rest'.length < cs.length := by
                    have := congrArg List.length h'
                    simp at this
                    omega
                  (pairs? room entries rest').map fun (entries, m) =>
                    (entries, gap + k + before + 1 + n + 1 + m)
                | '\x7d' :: _ => some (entries, gap + k + before + 1 + n + 1)
                | _ => none
          | _ => none
termination_by 2 * cs.length + 1

/-- The value of a pair in braces, and what stands around it. -/
def pairValue? (room : Nat) (cs : List Char) : Option (Node × Nat) :=
  match gapSize? cs with
  | none => none
  | some before =>
    match value? room (cs.drop before) with
    | none => none
    | some (value, n) =>
      (gapSize? (cs.drop (before + n))).map fun after => (value, before + n + after)
termination_by 2 * cs.length + 1

end

/-! ## Statements -/

/-- A header after its opening brackets, up to its closing ones. -/
def header? (closing : List Char) (cs : List Char) : Option (List String × Nat) := do
  let blanks := blankSize cs
  let (path, n) ← key? (cs.drop blanks)
  if closing.isPrefixOf (cs.drop (blanks + n)) then
    return (path, blanks + n + closing.length)
  else none

/-- A statement. -/
def statement? (cs : List Char) : Option (Statement × Nat) :=
  match cs with
  | '[' :: '[' :: rest => (header? [']', ']'] rest).map fun (path, n) => (.element path, n + 2)
  | '[' :: rest => (header? [']'] rest).map fun (path, n) => (.header path, n + 1)
  | _ => do
    let (path, k) ← key? cs
    match cs.drop k with
    | '=' :: rest =>
      let blanks := blankSize rest
      let (value, n) ← value? maxNesting (rest.drop blanks)
      return (.assign path value, k + 1 + blanks + n)
    | _ => none

/-- The statements of a text.  Each stands on lines of its own. -/
def statements? (cs : List Char) : Option (List Statement) :=
  match gapSize? cs with
  | none => none
  | some gap =>
    match h : cs.drop gap with
    | [] => some []
    | c :: rest =>
      match statement? (c :: rest) with
      | none => none
      | some (statement, n) =>
        have : (rest.drop (n - 1)).length < cs.length := by
          have := congrArg List.length h
          simp at this ⊢
          omega
        match lineEndSize? (rest.drop (n - 1)) with
        | none => none
        | some size =>
          (statements? ((rest.drop (n - 1)).drop size)).map (statement :: ·)
termination_by cs.length
decreasing_by
  simp_all
  omega

/-- The text without a byte order mark at its start. -/
def dropMark : List Char → List Char
  | '\ufeff' :: rest => rest
  | cs => cs

/-- The tables of a text. -/
def parse? (s : String) : Option Entries := do
  build [] [] (← statements? (dropMark s.toList))

end QueryModel.Toml
