import QueryModel.Naming.Identifier

/-!
# Type expressions

A type expression is a name, a list of a type, or a type without null.  Lists
are written in brackets, and a type without null ends with an exclamation mark.
White space around the whole expression is ignored, white space inside is not
allowed.

A type expression is *well formed* when its name is a GraphQL name and no mark
is repeated.  `TypeExpr.parse` reads exactly the written forms of those.
-/

namespace QueryModel

open Text

/-- A type expression. -/
inductive TypeExpr
  /-- A type by its name. -/
  | named (name : String)
  /-- A list of a type. -/
  | list (inner : TypeExpr)
  /-- A type without null. -/
  | nonNull (inner : TypeExpr)
deriving DecidableEq, Repr

/-- Why a text is no type expression. -/
inductive TypeFault
  /-- There is no name. -/
  | empty
  /-- A mark is repeated. -/
  | repeatedMark
  /-- A bracket has no partner. -/
  | unbalanced
  /-- The name is not valid. -/
  | invalidName
deriving DecidableEq, Repr

/-- The reason in words. -/
def TypeFault.message : TypeFault → String
  | .empty => "empty type"
  | .repeatedMark => "repeated `!`"
  | .unbalanced => "unbalanced brackets"
  | .invalidName => "invalid type name"

namespace TypeExpr

/-- Whether null is excluded at the outside. -/
def isNonNull : TypeExpr → Bool
  | .nonNull _ => true
  | _ => false

/-- Whether a type is a list, with or without null. -/
def isList : TypeExpr → Bool
  | .list _ => true
  | .nonNull inner => inner.isList
  | .named _ => false

/-- The name at the bottom of a type. -/
def baseName : TypeExpr → String
  | .named name => name
  | .list inner => inner.baseName
  | .nonNull inner => inner.baseName

/-- Whether a text is the name of a type. -/
def isTypeName : List Char → Bool
  | [] => false
  | c :: cs => isNameStart c && cs.all isNameRest

/-- A type without null, made of a type that does not have the mark yet. -/
def mark : TypeExpr → Except TypeFault TypeExpr
  | .nonNull _ => .error .repeatedMark
  | t => .ok (.nonNull t)

/-- The type of a text without surrounding white space. -/
def parseChars (cs : List Char) : Except TypeFault TypeExpr :=
  match cs with
  | [] => .error .empty
  | c :: rest =>
    if (c :: rest).getLast? = some '!' then
      parseChars (c :: rest).dropLast >>= mark
    else if c = '[' then
      if rest.getLast? = some ']' then
        (parseChars rest.dropLast).map .list
      else
        .error .unbalanced
    else if (c :: rest).getLast? = some ']' then
      .error .unbalanced
    else if isTypeName (c :: rest) then
      .ok (.named (String.ofList (c :: rest)))
    else
      .error .invalidName
termination_by cs.length
decreasing_by
  · rw [List.length_dropLast, List.length_cons]
    omega
  · rw [List.length_dropLast, List.length_cons]
    omega

/-- The type of a text. -/
def parse (s : String) : Except TypeFault TypeExpr := parseChars (trim s.toList)

/-- The characters of a type. -/
def chars : TypeExpr → List Char
  | .named name => name.toList
  | .list inner => '[' :: inner.chars ++ [']']
  | .nonNull inner => inner.chars ++ ['!']

/-- A type as text. -/
def render (t : TypeExpr) : String := String.ofList t.chars

/-- A name is a GraphQL name and no mark is repeated. -/
def WellFormed : TypeExpr → Prop
  | .named name => isGraphqlName name = true
  | .list inner => inner.WellFormed
  | .nonNull inner => inner.isNonNull = false ∧ inner.WellFormed

end TypeExpr

/-- What is said about a text that is no type expression. -/
def typeFaultMessage (input : String) (fault : TypeFault) : String :=
  s!"invalid GraphQL type `{input}`: {fault.message}"

end QueryModel
