import QueryModel.Dict
import QueryModel.Model.Shape

/-!
# Generated types

What a run generates: a type per fragment, enum, input object and operation, and
one type that lists the scalars with their targets.
-/

namespace QueryModel

/-! ## Fragments and declared types -/

/-- The type of a fragment. -/
structure FragmentType where
  /-- The package. -/
  package : String
  /-- The name of the fragment. -/
  fragmentName : String
  /-- The type it applies to. -/
  typeCondition : String
  /-- The object types it may apply to. -/
  possibleTypes : List String
  /-- The text of the fragment. -/
  definition : String
  /-- The shape of its selection. -/
  shape : Shape

/-- A value of an enum type. -/
structure EnumConstant where
  /-- The name. -/
  name : String
  /-- The description. -/
  description : Option String
  /-- Whether it is deprecated. -/
  deprecated : Bool
  /-- Why it is deprecated. -/
  deprecationReason : Option String
deriving DecidableEq, Repr

/-- The type of an enum. -/
structure EnumType where
  /-- The name. -/
  name : String
  /-- The package. -/
  package : String
  /-- The description. -/
  description : Option String
  /-- The values. -/
  values : List EnumConstant
deriving DecidableEq, Repr

/-- A field of an input type. -/
structure InputMember where
  /-- The name. -/
  name : String
  /-- The type. -/
  type : ResolvedType
  /-- The description. -/
  description : Option String
  /-- The default value. -/
  defaultValue : Option Json

/-- The type of an input object. -/
structure InputType where
  /-- The name. -/
  name : String
  /-- The package. -/
  package : String
  /-- The description. -/
  description : Option String
  /-- The fields. -/
  fields : List InputMember
  /-- The builder. -/
  builder : Builder

/-- A scalar with its target. -/
structure ScalarConstant where
  /-- The name of the constant. -/
  name : String
  /-- The name of the scalar. -/
  graphqlName : String
  /-- The target. -/
  target : TypeRef

/-- The type that lists the scalars. -/
structure ScalarsType where
  /-- The name. -/
  name : String
  /-- The package. -/
  package : String
  /-- The scalars. -/
  constants : List ScalarConstant

/-! ## Operations -/

/-- What an operation does. -/
inductive OperationKind
  /-- It reads. -/
  | query
  /-- It writes. -/
  | mutation
  /-- It listens. -/
  | subscription
deriving DecidableEq, Repr

namespace OperationKind

/-- The name of a kind, which also ends the names of its operations. -/
def suffix : OperationKind → String
  | .query => "Query"
  | .mutation => "Mutation"
  | .subscription => "Subscription"

/-- The kind of a word.  The case of ASCII letters does not matter. -/
def ofWord? (s : String) : Option OperationKind :=
  [("query", query), ("mutation", mutation), ("subscription", subscription)].lookup
    (String.ofList (s.toList.map Char.toLower))

end OperationKind

/-- A variable of an operation. -/
structure VariableMember where
  /-- The name of the parameter. -/
  name : String
  /-- The name of the variable. -/
  graphqlName : String
  /-- The type. -/
  type : ResolvedType
  /-- Whether a value is checked for null. -/
  enforcedNonNull : Bool

/-- The variables of an operation. -/
structure VariablesType where
  /-- The name. -/
  name : String
  /-- The variables. -/
  members : List VariableMember

/-- The type of an operation. -/
structure OperationType where
  /-- The name. -/
  name : String
  /-- The package. -/
  package : String
  /-- What the operation does. -/
  kind : OperationKind
  /-- The name of the operation. -/
  operationName : String
  /-- The identifier of the operation. -/
  operationId : String
  /-- The text of the operation. -/
  definition : String
  /-- The text that is sent: the operation and its fragments. -/
  document : String
  /-- The variables, if there are any. -/
  parameters : Option VariablesType
  /-- The shape of the response. -/
  data : Shape
  /-- The type under which the response is handed out. -/
  dataWrapper : ResolvedType
  /-- The builder over the variables. -/
  builder : Builder

/-! ## Binding variables -/

/-- A variable without null has no value.  The name is that of its parameter. -/
structure VariableNull where
  /-- The name of the parameter. -/
  parameter : String
deriving DecidableEq, Repr

/-- The error in words. -/
def VariableNull.message (e : VariableNull) : String := s!"{e.parameter} == null"

namespace VariablesType

/-- Whether an enforced variable has no value or the value null. -/
def lacks (values : Dict Json) (v : VariableMember) : Bool :=
  v.enforcedNonNull && ((values.get? v.graphqlName).map Json.isNull).getD true

/-- The values of the declared variables, in the order of their declaration.
Enforced variables are checked first, and variables without a value are left
out. -/
def bind (t : VariablesType) (values : Dict Json) : Except VariableNull (Dict Json) :=
  match t.members.find? (lacks values) with
  | some v => .error ⟨v.name⟩
  | none =>
    .ok (.ofList (t.members.filterMap fun v =>
      (values.get? v.graphqlName).map fun value => (v.graphqlName, value)))

end VariablesType

/-! ## All generated types -/

/-- A generated type. -/
inductive GeneratedType
  /-- The type of a fragment. -/
  | fragment (t : FragmentType)
  /-- The type of an enum. -/
  | enum (t : EnumType)
  /-- The type of an input object. -/
  | inputObject (t : InputType)
  /-- The type that lists the scalars. -/
  | scalars (t : ScalarsType)
  /-- The type of an operation. -/
  | operation (t : OperationType)

namespace GeneratedType

/-- The name of a generated type. -/
def name : GeneratedType → String
  | .fragment t => t.shape.name
  | .enum t => t.name
  | .inputObject t => t.name
  | .scalars t => t.name
  | .operation t => t.name

/-- The package of a generated type. -/
def package : GeneratedType → String
  | .fragment t => t.package
  | .enum t => t.package
  | .inputObject t => t.package
  | .scalars t => t.package
  | .operation t => t.package

/-- The class of a generated type. -/
def className (t : GeneratedType) : ClassName := ⟨t.package, t.name⟩

end GeneratedType

end QueryModel
