import QueryModel.Json.Basic
import QueryModel.Text.Pieces

/-!
# Documents

A document holds operations, the fragments they spread, and the declared types
they use.  Selections are trees of fields.  A field may have a selection of its
own, spread fragments by name, and hold inline fragments.

Optional parts of the document stay optional here.  A field without a list of
nested fields differs from a field with an empty one.
-/

namespace QueryModel

/-! ## Selections -/

/-- A condition on a field: it is included when the variable differs from
`inverted`. -/
structure Condition where
  /-- The variable of the condition. -/
  variableName : String
  /-- Whether the condition asks for the variable to be false. -/
  inverted : Bool
deriving DecidableEq, Repr

/-- An inline fragment over fields of type `F`. -/
structure InlineOf (F : Type) where
  /-- The type the fragment applies to. -/
  typeCondition : String
  /-- The object types the fragment may apply to. -/
  possibleTypes : Option (List String)
  /-- The fields of the fragment. -/
  fields : List F
  /-- The fragments it spreads. -/
  fragmentSpreads : Option (List String)

/-- A selected field. -/
structure Field where
  /-- The name of the field in the response. -/
  responseName : String
  /-- The name of the field in the schema. -/
  fieldName : String
  /-- The type expression of the field. -/
  typeName : String
  /-- The description of the field. -/
  description : Option String
  /-- Whether the field is deprecated. -/
  isDeprecated : Option Bool
  /-- Why the field is deprecated. -/
  deprecationReason : Option String
  /-- The fields selected below it. -/
  fields : Option (List Field)
  /-- The fragments spread below it. -/
  fragmentSpreads : Option (List String)
  /-- The inline fragments below it. -/
  inlineFragments : Option (List (InlineOf Field))
  /-- The conditions of the field. -/
  conditions : Option (List Condition)

/-- An inline fragment. -/
abbrev InlineFragment := InlineOf Field

/-- A set of selected fields, spreads and inline fragments. -/
structure Selection where
  /-- The fields. -/
  fields : List Field := []
  /-- The names of the spread fragments. -/
  spreads : List String := []
  /-- The inline fragments. -/
  inlines : List InlineFragment := []

/-- Two selections, one after the other in each part. -/
def Selection.append (a b : Selection) : Selection :=
  ⟨a.fields ++ b.fields, a.spreads ++ b.spreads, a.inlines ++ b.inlines⟩

instance : Append Selection := ⟨Selection.append⟩

@[simp]
theorem Selection.fields_append (a b : Selection) : (a ++ b).fields = a.fields ++ b.fields := rfl

@[simp]
theorem Selection.spreads_append (a b : Selection) :
    (a ++ b).spreads = a.spreads ++ b.spreads := rfl

@[simp]
theorem Selection.inlines_append (a b : Selection) :
    (a ++ b).inlines = a.inlines ++ b.inlines := rfl

/-- The names of the object types an inline fragment may apply to. -/
def InlineOf.possible {F : Type} (i : InlineOf F) : List String := i.possibleTypes.getD []

/-- The names of the fragments an inline fragment spreads. -/
def InlineOf.spreads {F : Type} (i : InlineOf F) : List String := i.fragmentSpreads.getD []

/-- The selection of an inline fragment. -/
def InlineOf.selection (i : InlineFragment) : Selection :=
  { fields := i.fields, spreads := i.spreads }

namespace Field

/-- The selection below a field. -/
def selection (f : Field) : Selection :=
  { fields := f.fields.getD []
    spreads := f.fragmentSpreads.getD []
    inlines := f.inlineFragments.getD [] }

/-- The conditions of a field. -/
def conditionList (f : Field) : List Condition := f.conditions.getD []

/-- Whether a field has a selection below it.  An empty list of nested fields
counts, empty lists of spreads and of inline fragments do not. -/
def hasSelection (f : Field) : Bool :=
  f.fields.isSome || !f.selection.spreads.isEmpty || !f.selection.inlines.isEmpty

/-- Whether a field carries conditions. -/
def isConditional (f : Field) : Bool := !f.conditionList.isEmpty

/-- Whether a field is deprecated. -/
def deprecated (f : Field) : Bool := f.isDeprecated.getD false

end Field

/-! ## Operations and fragments -/

/-- Whether a type expression leaves out the mark of types without null. -/
def allowsNull (typeName : String) : Bool := !Text.endsWith typeName "!"

/-- A variable of an operation. -/
structure Variable where
  /-- The name. -/
  name : String
  /-- The type expression. -/
  typeName : String
deriving DecidableEq, Repr

/-- Whether a variable may be left out. -/
def Variable.optional (v : Variable) : Bool := allowsNull v.typeName

/-- A query, a mutation or a subscription. -/
structure Operation where
  /-- The name. -/
  operationName : String
  /-- The kind, as written. -/
  operationType : String
  /-- The variables. -/
  parameters : List Variable
  /-- The text of the operation. -/
  source : String
  /-- The fields at its root. -/
  fields : List Field
  /-- The file it comes from. -/
  filePath : String
  /-- The fragments its document has to hold. -/
  fragmentsReferenced : List String
  /-- Its identifier. -/
  operationId : String

/-- A named fragment. -/
structure Fragment where
  /-- The name. -/
  fragmentName : String
  /-- The text of the fragment. -/
  source : String
  /-- The type it applies to. -/
  typeCondition : String
  /-- The object types it may apply to. -/
  possibleTypes : List String
  /-- The fields. -/
  fields : List Field
  /-- The fragments it spreads. -/
  fragmentSpreads : List String
  /-- The inline fragments. -/
  inlineFragments : List InlineFragment
  /-- The fragments it refers to. -/
  fragmentsReferenced : List String
  /-- The file it comes from. -/
  filePath : Option String

/-- The selection of a fragment. -/
def Fragment.selection (f : Fragment) : Selection :=
  ⟨f.fields, f.fragmentSpreads, f.inlineFragments⟩

/-! ## Declared types -/

/-- A value of an enum. -/
structure EnumValue where
  /-- The name. -/
  name : String
  /-- The description. -/
  description : Option String
  /-- Whether the value is deprecated. -/
  isDeprecated : Option Bool
  /-- Why the value is deprecated. -/
  deprecationReason : Option String
deriving DecidableEq, Repr

/-- Whether a value is deprecated. -/
def EnumValue.deprecated (v : EnumValue) : Bool := v.isDeprecated.getD false

/-- A field of an input object. -/
structure InputField where
  /-- The name. -/
  name : String
  /-- The description. -/
  description : Option String
  /-- The type expression. -/
  typeName : String
  /-- The default value. -/
  defaultValue : Option Json

/-- Whether an input field may be left out. -/
def InputField.optional (f : InputField) : Bool := allowsNull f.typeName

/-- A declared type. -/
inductive Declaration
  /-- An enum. -/
  | enum (name : String) (description : Option String) (values : List EnumValue)
  /-- An input object. -/
  | inputObject (name : String) (description : Option String) (fields : List InputField)
  /-- A scalar. -/
  | scalar (name : String) (description : Option String)

namespace Declaration

/-- The name of a declared type. -/
def name : Declaration → String
  | .enum name _ _ => name
  | .inputObject name _ _ => name
  | .scalar name _ => name

/-- The description of a declared type. -/
def description : Declaration → Option String
  | .enum _ description _ => description
  | .inputObject _ description _ => description
  | .scalar _ description => description

/-- The word for the kind of a declared type. -/
def kind : Declaration → String
  | .enum .. => "EnumType"
  | .inputObject .. => "InputObjectType"
  | .scalar .. => "ScalarType"

/-- Whether a declared type is a scalar. -/
def isScalar : Declaration → Bool
  | .scalar .. => true
  | _ => false

/-- Whether a type of its own is generated for a declared type. -/
def isGenerated (d : Declaration) : Bool := !d.isScalar

end Declaration

/-! ## The document -/

/-- A document. -/
structure Document where
  /-- The operations. -/
  operations : List Operation := []
  /-- The fragments. -/
  fragments : List Fragment := []
  /-- The declared types. -/
  declarations : List Declaration := []

namespace Document

/-- The first fragment of a name. -/
def fragment? (d : Document) (name : String) : Option Fragment :=
  d.fragments.find? (·.fragmentName == name)

/-- The first declared type of a name. -/
def declaration? (d : Document) (name : String) : Option Declaration :=
  d.declarations.find? (·.name == name)

/-- Whether a document holds nothing. -/
def isEmpty (d : Document) : Bool :=
  d.operations.isEmpty && d.fragments.isEmpty && d.declarations.isEmpty

end Document

end QueryModel
