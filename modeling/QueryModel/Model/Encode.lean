import QueryModel.Document.Encode
import QueryModel.Model.Generated

/-!
# Generated types as JSON

Every part of a generated type has one JSON form, with its members in a fixed
order.  Absent parts and most empty lists are left out.  A generated type begins
with its kind.  The type of an operation has a second member of that name, for
what the operation does.
-/

namespace QueryModel

/-! ## Members that may be left out -/

/-- The member of a value, if there is one. -/
def presentMember (key : String) : Option Json → List (String × Json)
  | some value => [(key, value)]
  | none => []

/-- The member of a list, unless it is empty. -/
def filledMember (key : String) : List Json → List (String × Json)
  | [] => []
  | items => [(key, .array items)]

/-! ## Types -/

/-- A wrapping as JSON. -/
def Wrapping.toJson : Wrapping → Json
  | .none => .object [("kind", .text "none")]
  | .nonNull => .object [("kind", .text "non_null")]
  | .nullable policy =>
    .object [("kind", .text "nullable"), ("policy", .text policy.word)]

/-- A reference in JSON, with its wrapping, as JSON. -/
def Wrapping.around (w : Wrapping) (deprecated : Bool) (base : Json) : Json :=
  .object ([("base", base), ("wrapping", w.toJson)] ++
    if deprecated then [("deprecated", .bool true)] else [])

/-- A class as JSON. -/
def ClassName.toJson (c : ClassName) : Json :=
  .object [("package", .text c.package), ("name", .text c.name)]

/-- A reference as JSON. -/
def TypeRef.toJson : TypeRef → Json
  | .primitive p => .object [("kind", .text "primitive"), ("of", .text p.word)]
  | .boxed p => .object [("kind", .text "boxed"), ("of", .text p.word)]
  | .text => .object [("kind", .text "string")]
  | .named c => .object [("kind", .text "class"), ("of", c.toJson)]
  | .shape name => .object [("kind", .text "shape"), ("of", .text name)]
  | .list { base, wrapping, deprecated } =>
    .object [("kind", .text "list"), ("of", wrapping.around deprecated base.toJson)]

/-- A type as JSON. -/
def Wrapped.toJson (t : ResolvedType) : Json := t.wrapping.around t.deprecated t.base.toJson

/-! ## Shapes -/

/-- The kind of a property as JSON. -/
def PropertyKind.toJson : PropertyKind → Json
  | .value => .object [("kind", .text "value")]
  | .object shape => .object [("kind", .text "object"), ("shape", .text shape)]
  | .inlineFragment shape => .object [("kind", .text "inline_fragment"), ("shape", .text shape)]

/-- A property as JSON. -/
def Property.toJson (p : Property) : Json :=
  .object ([("name", .text p.name), ("field_name", .text p.fieldName), ("ty", p.type.toJson),
    ("kind", p.kind.toJson), ("optional", .bool p.optional)] ++
    presentMember "description" (p.description.map .text) ++
    presentMember "deprecation_reason" (p.deprecationReason.map .text) ++
    filledMember "conditions" (p.conditions.map Condition.toJson))

/-- An accessor as JSON. -/
def Accessor.toJson (a : Accessor) : Json :=
  .object [("name", .text a.name), ("returns", a.returns.toJson)]

/-- A setter as JSON. -/
def Setter.toJson (s : Setter) : Json :=
  .object ([("name", .text s.name), ("ty", s.type.toJson), ("required", .bool s.required)] ++
    presentMember "default_value" s.defaultValue)

/-- A builder as JSON. -/
def Builder.toJson (b : Builder) : Json :=
  .object [("target", .text b.target), ("setters", listJson Setter.toJson b.setters)]

mutual

/-- A shape as JSON. -/
def Shape.toJson : Shape → Json
  | { name, typeCondition, possibleTypes, properties, accessors, nested, builder } =>
    .object ([("name", .text name)] ++
      presentMember "type_condition" (typeCondition.map .text) ++
      filledMember "possible_types" (possibleTypes.map .text) ++
      [("properties", listJson Property.toJson properties)] ++
      filledMember "accessors" (accessors.map Accessor.toJson) ++
      filledMember "nested" (Shape.allToJson nested) ++
      presentMember "builder" (builder.map Builder.toJson))

/-- Each shape as JSON. -/
def Shape.allToJson : List Shape → List Json
  | [] => []
  | shape :: rest => shape.toJson :: Shape.allToJson rest

end

/-! ## Generated types -/

/-- The members of the type of a fragment. -/
def FragmentType.members (t : FragmentType) : List (String × Json) :=
  [("package", .text t.package), ("fragment_name", .text t.fragmentName),
    ("type_condition", .text t.typeCondition), ("possible_types", .texts t.possibleTypes),
    ("definition", .text t.definition), ("shape", t.shape.toJson)]

/-- A value of an enum type as JSON. -/
def EnumConstant.toJson (v : EnumConstant) : Json :=
  .object ([("name", .text v.name)] ++
    presentMember "description" (v.description.map .text) ++
    [("deprecated", .bool v.deprecated)] ++
    presentMember "deprecation_reason" (v.deprecationReason.map .text))

/-- The members of the type of an enum. -/
def EnumType.members (t : EnumType) : List (String × Json) :=
  [("name", .text t.name), ("package", .text t.package)] ++
    presentMember "description" (t.description.map .text) ++
    [("values", listJson EnumConstant.toJson t.values)]

/-- A field of an input type as JSON. -/
def InputMember.toJson (m : InputMember) : Json :=
  .object ([("name", .text m.name), ("ty", m.type.toJson)] ++
    presentMember "description" (m.description.map .text) ++
    presentMember "default_value" m.defaultValue)

/-- The members of the type of an input object. -/
def InputType.members (t : InputType) : List (String × Json) :=
  [("name", .text t.name), ("package", .text t.package)] ++
    presentMember "description" (t.description.map .text) ++
    [("fields", listJson InputMember.toJson t.fields), ("builder", t.builder.toJson)]

/-- A scalar as JSON. -/
def ScalarConstant.toJson (s : ScalarConstant) : Json :=
  .object [("name", .text s.name), ("graphql_name", .text s.graphqlName),
    ("target", s.target.toJson)]

/-- The members of the type that lists the scalars. -/
def ScalarsType.members (t : ScalarsType) : List (String × Json) :=
  [("name", .text t.name), ("package", .text t.package),
    ("constants", listJson ScalarConstant.toJson t.constants)]

/-- A variable as JSON. -/
def VariableMember.toJson (v : VariableMember) : Json :=
  .object [("name", .text v.name), ("graphql_name", .text v.graphqlName), ("ty", v.type.toJson),
    ("enforced_non_null", .bool v.enforcedNonNull)]

/-- The type of the variables as JSON. -/
def VariablesType.toJson (t : VariablesType) : Json :=
  .object [("name", .text t.name), ("variables", listJson VariableMember.toJson t.members)]

/-- The members of the type of an operation. -/
def OperationType.members (t : OperationType) : List (String × Json) :=
  [("name", .text t.name), ("package", .text t.package), ("kind", .text t.kind.suffix),
    ("operation_name", .text t.operationName), ("operation_id", .text t.operationId),
    ("definition", .text t.definition), ("document", .text t.document)] ++
    presentMember "variables" (t.parameters.map VariablesType.toJson) ++
    [("data", t.data.toJson), ("data_wrapper", t.dataWrapper.toJson),
      ("builder", t.builder.toJson)]

/-- The word for the kind of a generated type. -/
def GeneratedType.kindWord : GeneratedType → String
  | .fragment _ => "fragment"
  | .enum _ => "enum"
  | .inputObject _ => "input_object"
  | .scalars _ => "custom_scalars"
  | .operation _ => "operation"

/-- The members of a generated type, its kind aside. -/
def GeneratedType.members : GeneratedType → List (String × Json)
  | .fragment t => t.members
  | .enum t => t.members
  | .inputObject t => t.members
  | .scalars t => t.members
  | .operation t => t.members

/-- A generated type as JSON. -/
def GeneratedType.toJson (t : GeneratedType) : Json :=
  .object (("kind", .text t.kindWord) :: t.members)

end QueryModel
