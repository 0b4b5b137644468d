import QueryModel.Text.Pieces

/-!
# Positions in a text

Positions count bytes of the UTF-8 form.  `byteOffset` turns a line and a column
into a position.  `keySpan` and `valueSpan` find where a key, or the quoted
value given to it, is written in a configuration text.  They look at the text
line by line and do not read it as a configuration, so they work on any text.
-/

namespace QueryModel.Text

/-- A stretch of a text, in bytes. -/
structure Span where
  /-- The position of the first byte. -/
  offset : Nat
  /-- The number of bytes. -/
  length : Nat
deriving DecidableEq, Repr

/-- The lines of a text.  Each keeps its line feed, and no line is empty. -/
def lines : List Char → List (List Char)
  | [] => []
  | c :: cs =>
    if c = '\n' then
      [c] :: lines cs
    else
      match lines cs with
      | [] => [[c]]
      | line :: rest => (c :: line) :: rest

/-- The position of a line and a column, both counted from one.  Column zero
stands for column one, lines past the end start at the end, and a position at
the end is moved to the last byte.  Line zero and positions past the end have no
offset. -/
def byteOffset (src : String) (line column : Nat) : Option Nat :=
  if line = 0 then
    none
  else
    let cs := src.toList
    let start := byteSize ((lines cs).take (line - 1)).flatten
    let offset := start + (column - 1)
    if offset ≤ byteSize cs then some (min offset (byteSize cs - 1)) else none

/-- The text after its first `n` bytes. -/
def dropBytes : Nat → List Char → List Char
  | _, [] => []
  | 0, c :: cs => c :: cs
  | n + 1, c :: cs => dropBytes (n + 1 - c.utf8Size) cs

/-- The position of the first occurrence of `needle`. -/
def findBytes (needle : List Char) : List Char → Option Nat
  | [] => if needle.isEmpty then some 0 else none
  | c :: cs =>
    if needle.isPrefixOf (c :: cs) then some 0
    else (findBytes needle cs).map (· + c.utf8Size)

/-- A text between double quotes, without escapes. -/
def inQuotes (cs : List Char) : List Char := '"' :: cs ++ ['"']

/-- Whether `written` stands at the start of a line and is followed by an equals
sign. -/
def assigns (line written : List Char) : Bool :=
  match written.isPrefixOf? line with
  | some rest => ['='].isPrefixOf (trimStart rest)
  | none => false

/-- The position in a line at which `key` is assigned, bare or in double
quotes. -/
def keyInLine? (key line : List Char) : Option Nat :=
  let trimmed := trimStart line
  let indent := byteSize line - byteSize trimmed
  if assigns trimmed key then some indent
  else if assigns trimmed (inQuotes key) then some (indent + 1)
  else none

/-- The position of `key` in the first line that assigns it.  The lines start at
`offset`. -/
def keyInLines? (key : List Char) (offset : Nat) : List (List Char) → Option Nat
  | [] => none
  | line :: rest =>
    match keyInLine? key line with
    | some position => some (offset + position)
    | none => keyInLines? key (offset + byteSize line) rest

/-- Where a key is written.  Quotes around the key do not belong to the span. -/
def keySpan (src key : String) : Option Span :=
  (keyInLines? key.toList 0 (lines src.toList)).map fun offset =>
    ⟨offset, byteSize key.toList⟩

/-- Where a value in double quotes is written after its key.  The quotes do not
belong to the span. -/
def valueSpan (src key value : String) : Option Span := do
  let found ← keySpan src key
  let after := found.offset + found.length
  let position ← findBytes (inQuotes value.toList) (dropBytes after src.toList)
  return ⟨after + position + 1, byteSize value.toList⟩

end QueryModel.Text
