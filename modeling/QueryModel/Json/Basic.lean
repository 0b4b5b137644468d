import QueryModel.Json.Decimal

/-!
# JSON values

A JSON object keeps its members in the order of the text, with repeated keys.
`Json.canonical` is the form in which a value is carried through from input to
output: members sorted by key, and of a repeated key the last value.
-/

namespace QueryModel

/-- A number.  Whole numbers that fit a 64-bit word stay exact. -/
inductive Json.Number
  /-- A whole number. -/
  | int (n : Int)
  /-- A double. -/
  | float (x : Float)
deriving DecidableEq, Repr

/-- A JSON value. -/
inductive Json
  /-- The null value. -/
  | null
  /-- A Boolean. -/
  | bool (b : Bool)
  /-- A number. -/
  | number (n : Json.Number)
  /-- A text. -/
  | text (s : String)
  /-- An array. -/
  | array (items : List Json)
  /-- An object. -/
  | object (members : List (String × Json))
deriving Repr

namespace Json

instance : Inhabited Json := ⟨.null⟩

/-- A whole number as JSON. -/
def nat (n : Nat) : Json := .number (.int n)

/-- A list of texts as JSON. -/
def texts (ss : List String) : Json := .array (ss.map .text)

/-- A text or null. -/
def optionalText : Option String → Json
  | some s => .text s
  | none => .null

/-- Puts a member into members sorted by key.  A member of the same key is
replaced. -/
def insertSorted (key : String) (value : Json) : List (String × Json) → List (String × Json)
  | [] => [(key, value)]
  | (k, v) :: rest =>
    if key = k then (key, value) :: rest
    else if key < k then (key, value) :: (k, v) :: rest
    else (k, v) :: insertSorted key value rest

mutual

/-- The value with the members of every object sorted by key, and of a repeated
key the last value only. -/
def canonical : Json → Json
  | .array items => .array (canonicalItems items)
  | .object members => .object (canonicalMembers members [])
  | .null => .null
  | .bool b => .bool b
  | .number n => .number n
  | .text s => .text s

/-- The canonical forms of a list of values. -/
def canonicalItems : List Json → List Json
  | [] => []
  | item :: items => item.canonical :: canonicalItems items

/-- Adds the canonical forms of members to sorted members. -/
def canonicalMembers : List (String × Json) → List (String × Json) → List (String × Json)
  | [], sorted => sorted
  | (key, value) :: rest, sorted => canonicalMembers rest (insertSorted key value.canonical sorted)

end

/-- Whether a value is null. -/
def isNull : Json → Bool
  | .null => true
  | _ => false

/-- The value of a member, the last one if the key is repeated. -/
def get? (key : String) : Json → Option Json
  | .object members => members.reverse.lookup key
  | _ => none

end Json

end QueryModel
