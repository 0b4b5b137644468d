import QueryModel.Text.CaseMap
import QueryModel.Text.Pieces

/-!
# Case conventions

How the first letter of a name changes case, and two conventions for a
whole name: `PascalCase` for type names taken from file names, and
`CONSTANT_CASE` for the constants of scalars.
-/

namespace QueryModel.Text

/-- The name with its first character in upper case. -/
def capitalizeChars : List Char → List Char
  | [] => []
  | c :: cs => upperChar c ++ cs

/-- The name with its first character in lower case. -/
def decapitalizeChars : List Char → List Char
  | [] => []
  | c :: cs => lowerChar c ++ cs

/-- The name with its first character in upper case and the rest unchanged. -/
def capitalize (s : String) : String := String.ofList (capitalizeChars s.toList)

/-- The name with its first character in lower case and the rest unchanged. -/
def decapitalize (s : String) : String := String.ofList (decapitalizeChars s.toList)

/-- The characters that end a word inside a name, for `pascalCase`. -/
def isWordBreak (c : Char) : Bool := c == '_' || c == '-' || c == '.' || isBlank c

/-- The words of a name, each capitalized, written together. -/
def pascalCase (s : String) : String :=
  String.ofList ((splitWhere isWordBreak s.toList).flatMap capitalizeChars)

/-- A character of a constant: breaks become underscores, all else goes to upper
case. -/
def constantChar (c : Char) : List Char :=
  if c == '-' || c == '.' || isBlank c then ['_'] else upperChar c

/-- The name of a constant.  Exclamation marks at the end are dropped first. -/
def constantCase (s : String) : String :=
  String.ofList ((dropEndWhile (· == '!') s.toList).flatMap constantChar)

/-- The text in lower case, character by character. -/
def lower (cs : List Char) : List Char := cs.flatMap lowerChar

end QueryModel.Text
