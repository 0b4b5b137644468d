import QueryModel.Text.Letter
import QueryModel.Text.Pieces

/-!
# Names

Two forms of names.  A GraphQL name is an ASCII letter or underscore followed by
ASCII letters, digits and underscores.  A qualified name is one or more
identifiers joined by dots, and its identifiers may use letters and digits of
any script and the dollar sign.
-/

namespace QueryModel

open Text

/-- Why a text is no GraphQL name. -/
inductive NameFault
  /-- The text is empty. -/
  | empty
  /-- The first character cannot start a name. -/
  | start
  /-- A later character cannot continue one. -/
  | rest
deriving DecidableEq, Repr

/-- The reason in words. -/
def NameFault.message : NameFault → String
  | .empty => "name cannot be empty"
  | .start => "name must start with a letter or underscore"
  | .rest => "name must contain only letters, numbers, and underscores"

/-- The characters that start a GraphQL name. -/
def isNameStart (c : Char) : Bool := c.isAlpha || c == '_'

/-- The characters that continue a GraphQL name. -/
def isNameRest (c : Char) : Bool := c.isAlphanum || c == '_'

/-- The first thing wrong with a GraphQL name, if any. -/
def nameFault? : List Char → Option NameFault
  | [] => some .empty
  | c :: cs =>
    if !isNameStart c then some .start
    else if !cs.all isNameRest then some .rest
    else none

/-- Whether a text is a GraphQL name. -/
def isGraphqlName (s : String) : Bool := (nameFault? s.toList).isNone

/-- Whether a text is one identifier of a qualified name. -/
def isIdentifier : List Char → Bool
  | [] => false
  | c :: cs =>
    (isAlphabetic c || c == '_' || c == '$') &&
      cs.all fun d => isAlphanumeric d || d == '_' || d == '$'

/-- Whether a text is a qualified name. -/
def isQualifiedName (s : String) : Bool :=
  (splitWhere (· == '.') s.toList).all isIdentifier

end QueryModel
