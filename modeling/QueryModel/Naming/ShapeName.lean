import QueryModel.Naming.Singular

/-!
# Names of nested shapes

A nested shape is named after the response name of its field, in the singular
when the field is a list.  The shape of an inline fragment is named after the
type it applies to.
-/

namespace QueryModel

open Text

/-- The name of the shape below a field. -/
def nestedShapeName (responseName : String) (isList : Bool) : String :=
  let name := capitalize responseName
  if isList then capitalize (singularize name) else name

/-- The name of the shape of an inline fragment. -/
def inlineShapeName (typeCondition : String) : String := "As" ++ capitalize typeCondition

end QueryModel
