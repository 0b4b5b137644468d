import QueryModel.Json.Token
import QueryModel.Toml.Basic

/-!
# Values without quotes

A value that starts with neither a quote nor a bracket is one word: a Boolean, a
number, a date or a time.  No setting takes a number, a date or a time, so these
keep the text of their word.

* A number is decimal, with a fraction and an exponent if it likes, or `inf` or
  `nan`.  Each of them may have a sign.  A whole number may also be written in
  another base after `0x`, `0o` or `0b`.  Underscores may stand between digits.
* A date has a year, a month and a day that the month has.  A time has hours and
  minutes, perhaps seconds, and perhaps a fraction of them.  A date with a time may
  have an offset.
-/

namespace QueryModel.Toml

/-! ## Numbers -/

/-- Whether a character is a sign. -/
def isSign (c : Char) : Bool := c == '+' || c == '-'

/-- The text after its sign, if it has one. -/
def dropSign : List Char → List Char
  | c :: rest => if isSign c then rest else c :: rest
  | [] => []

/-- The groups of characters between underscores. -/
def groups (cs : List Char) : List (List Char) := Text.splitWhere (· == '_') cs

/-- Digits of one kind in groups. -/
def isGroupedRun (isDigit : Char → Bool) (cs : List Char) : Bool :=
  (groups cs).all fun group => !group.isEmpty && group.all isDigit

/-- Whether the underscores of a number stand between digits.  Only the characters
next to them are looked at.  A single character before the first one counts as a
digit, since it may be the sign. -/
def isGrouped (isDigit : Char → Bool) (word : List Char) : Bool :=
  let parts := groups word
  parts.length == 1 ||
    (parts.all (!·.isEmpty) &&
      (parts.drop 1).all (fun part => part.head?.any isDigit) &&
      parts.dropLast.all fun part => part.length == 1 || part.getLast?.any isDigit)

/-- Decimal digits and underscores, with at least one digit. -/
def isRun (cs : List Char) : Bool :=
  cs.all (fun c => c.isDigit || c == '_') && cs.any Char.isDigit

/-- A run that does not start with zero, unless zero is its only digit. -/
def isWholeRun (cs : List Char) : Bool :=
  isRun cs && (cs.head? != some '0' || (cs.filter Char.isDigit).length == 1)

/-- The part of a decimal number before its exponent. -/
def isMantissa (cs : List Char) : Bool :=
  match Text.splitWhere (· == '.') cs with
  | [whole] => isWholeRun whole
  | [whole, fraction] => isWholeRun whole && isRun fraction
  | _ => false

/-- Nothing, or an exponent with its mark. -/
def isExponent : List Char → Bool
  | [] => true
  | _ :: rest => isRun (dropSign rest)

/-- A decimal number. -/
def isDecimal (word : List Char) : Bool :=
  let body := dropSign word
  let mantissa := body.takeWhile fun c => c != 'e' && c != 'E'
  isMantissa mantissa && isExponent (body.drop mantissa.length) && isGrouped Char.isDigit word

/-- Whether a character is a hexadecimal digit. -/
def isHexDigit (c : Char) : Bool := (Json.hexDigit? c).isSome

/-- A whole number with underscores.  After its first digits it is held to the rule
of underscores only, with hexadecimal digits, and may have neither a space nor the
marks of other decimal numbers. -/
def isLoose (word : List Char) : Bool :=
  let body := dropSign word
  body.head? != some '0' && (body.dropWhile Char.isDigit).head? == some '_' &&
    body.all (fun c => c != ' ' && c != '.' && c != 'e' && c != 'E') && isGrouped isHexDigit word

/-- A whole number in another base.  Its mark may stand alone. -/
def isBased : List Char → Bool
  | ['0', mark] => mark == 'x' || mark == 'o' || mark == 'b'
  | '0' :: 'x' :: digits => isGroupedRun isHexDigit digits
  | '0' :: 'o' :: digits => isGroupedRun (fun c => '0' ≤ c && c ≤ '7') digits
  | '0' :: 'b' :: digits => isGroupedRun (fun c => c == '0' || c == '1') digits
  | _ => false

/-- Whether a word is a number. -/
def isNumber (word : List Char) : Bool :=
  let body := dropSign word
  isDecimal word || isLoose word || isBased word || body == ['i', 'n', 'f'] ||
    body == ['n', 'a', 'n']

/-! ## Dates and times -/

/-- The number that some digits make. -/
def digitsValue (cs : List Char) : Nat := Json.ofDigits (Json.leadingDigits cs)

/-- A part of a date or a time: so many digits, with a value in a range. -/
def isField (size low high : Nat) (cs : List Char) : Bool :=
  cs.length == size && cs.all Char.isDigit && low ≤ digitsValue cs && digitsValue cs ≤ high

/-- The number of days of a month. -/
def monthDays (year month : Nat) : Nat :=
  if month = 2 then
    if year % 4 = 0 ∧ (year % 100 ≠ 0 ∨ year % 400 = 0) then 29 else 28
  else if month = 4 ∨ month = 6 ∨ month = 9 ∨ month = 11 then 30
  else 31

/-- A date. -/
def isDate (cs : List Char) : Bool :=
  match Text.splitWhere (· == '-') cs with
  | [year, month, day] =>
    isField 4 0 9999 year && isField 2 1 12 month &&
      isField 2 1 (monthDays (digitsValue year) (digitsValue month)) day
  | _ => false

/-- Hours and minutes. -/
def isClock (hour minute : List Char) : Bool := isField 2 0 23 hour && isField 2 0 59 minute

/-- Seconds and perhaps a fraction.  A leap second is one of them. -/
def isSecond (cs : List Char) : Bool :=
  match Text.splitWhere (· == '.') cs with
  | [whole] => isField 2 0 60 whole
  | [whole, fraction] => isField 2 0 60 whole && !fraction.isEmpty && fraction.all Char.isDigit
  | _ => false

/-- A time. -/
def isTime (cs : List Char) : Bool :=
  match Text.splitWhere (· == ':') cs with
  | [hour, minute] => isClock hour minute
  | [hour, minute, second] => isClock hour minute && isSecond second
  | _ => false

/-- Nothing, or an offset. -/
def isOffset : List Char → Bool
  | [] => true
  | ['Z'] => true
  | ['z'] => true
  | sign :: rest =>
    isSign sign &&
      match Text.splitWhere (· == ':') rest with
      | [hour, minute] => isClock hour minute
      | _ => false

/-- A time and perhaps an offset. -/
def isOffsetTime (cs : List Char) : Bool :=
  let time := cs.takeWhile fun c => !(isSign c || c == 'Z' || c == 'z')
  isTime time && isOffset (cs.drop time.length)

/-- The number of characters of a date. -/
def dateSize : Nat := 10

/-- A date with a time after it. -/
def isDateTime (cs : List Char) : Bool :=
  match cs.drop dateSize with
  | delimiter :: time =>
    isDate (cs.take dateSize) && (delimiter == 'T' || delimiter == 't' || delimiter == ' ') &&
      isOffsetTime time
  | [] => false

/-- Whether a word is a date, a time or both. -/
def isMoment (word : List Char) : Bool := isDate word || isTime word || isDateTime word

/-! ## Words -/

/-- The blanks inside a line. -/
def isInlineBlank (c : Char) : Bool := c == ' ' || c == '\t'

/-- The characters that end a word. -/
def endsWord (c : Char) : Bool := "=,[]\x7b\x7d#\r\n".toList.contains c

/-- Whether a text starts with a quote. -/
def startsQuoted (cs : List Char) : Bool := cs.head? == some '"' || cs.head? == some '\''

/-- The text up to the end of its first word, with the blanks after it.  A quote
after a blank starts another value. -/
def wordRun : List Char → List Char
  | [] => []
  | c :: rest =>
    if endsWord c || (isInlineBlank c && startsQuoted rest) then [] else c :: wordRun rest

/-- The word at the start of a text.  Blanks belong to it when more of it follows, as
between a date and a time. -/
def leadingWord (cs : List Char) : List Char := Text.dropEndWhile isInlineBlank (wordRun cs)

/-- The value of a word. -/
def wordValue? (word : List Char) : Option Node :=
  if word = ['t', 'r', 'u', 'e'] then some (.bool true)
  else if word = ['f', 'a', 'l', 's', 'e'] then some (.bool false)
  else if isNumber word then some (.number (String.ofList word))
  else if isMoment word then some (.moment (String.ofList word))
  else none

end QueryModel.Toml
