import QueryModel.Document.Basic

/-!
# Documents as JSON

Every part of a document has one JSON form.  All members are written, under
their main names and in a fixed order.  An absent optional part is null.
-/

namespace QueryModel

/-- A value or null. -/
def optionalJson {α : Type} (encode : α → Json) : Option α → Json
  | some a => encode a
  | none => .null

/-- A list as a JSON array. -/
def listJson {α : Type} (encode : α → Json) (as : List α) : Json := .array (as.map encode)

/-- A condition as JSON. -/
def Condition.toJson (c : Condition) : Json :=
  .object [("kind", .text "BooleanCondition"), ("variableName", .text c.variableName),
    ("inverted", .bool c.inverted)]

mutual

/-- A field as JSON. -/
def Field.toJson : Field → Json
  | { responseName, fieldName, typeName, description, isDeprecated, deprecationReason, fields,
      fragmentSpreads, inlineFragments, conditions } =>
    .object [("responseName", .text responseName), ("fieldName", .text fieldName),
      ("type", .text typeName), ("description", .optionalText description),
      ("isDeprecated", optionalJson .bool isDeprecated),
      ("deprecationReason", .optionalText deprecationReason),
      ("fields", Field.optionalFieldsJson fields),
      ("fragmentSpreads", optionalJson .texts fragmentSpreads),
      ("inlineFragments", Field.optionalInlinesJson inlineFragments),
      ("conditions", optionalJson (listJson Condition.toJson) conditions)]

/-- The nested fields of a field as JSON. -/
def Field.optionalFieldsJson : Option (List Field) → Json
  | none => .null
  | some fields => .array (Field.fieldsJson fields)

/-- The inline fragments of a field as JSON. -/
def Field.optionalInlinesJson : Option (List (InlineOf Field)) → Json
  | none => .null
  | some inlines => .array (Field.inlinesJson inlines)

/-- Each field as JSON. -/
def Field.fieldsJson : List Field → List Json
  | [] => []
  | field :: rest => field.toJson :: Field.fieldsJson rest

/-- Each inline fragment as JSON. -/
def Field.inlinesJson : List (InlineOf Field) → List Json
  | [] => []
  | { typeCondition, possibleTypes, fields, fragmentSpreads } :: rest =>
    .object [("typeCondition", .text typeCondition),
      ("possibleTypes", optionalJson .texts possibleTypes),
      ("fields", .array (Field.fieldsJson fields)),
      ("fragmentSpreads", optionalJson .texts fragmentSpreads)] :: Field.inlinesJson rest

end

/-- A variable as JSON. -/
def Variable.toJson (v : Variable) : Json :=
  .object [("name", .text v.name), ("type", .text v.typeName)]

/-- An operation as JSON. -/
def Operation.toJson (o : Operation) : Json :=
  .object [("operationName", .text o.operationName), ("operationType", .text o.operationType),
    ("variables", listJson Variable.toJson o.parameters), ("source", .text o.source),
    ("fields", .array (Field.fieldsJson o.fields)), ("filePath", .text o.filePath),
    ("fragmentsReferenced", .texts o.fragmentsReferenced), ("operationId", .text o.operationId)]

/-- A fragment as JSON. -/
def Fragment.toJson (f : Fragment) : Json :=
  .object [("fragmentName", .text f.fragmentName), ("source", .text f.source),
    ("typeCondition", .text f.typeCondition), ("possibleTypes", .texts f.possibleTypes),
    ("fields", .array (Field.fieldsJson f.fields)), ("fragmentSpreads", .texts f.fragmentSpreads),
    ("inlineFragments", .array (Field.inlinesJson f.inlineFragments)),
    ("fragmentsReferenced", .texts f.fragmentsReferenced), ("filePath", .optionalText f.filePath)]

/-- A value of an enum as JSON. -/
def EnumValue.toJson (v : EnumValue) : Json :=
  .object [("name", .text v.name), ("description", .optionalText v.description),
    ("isDeprecated", optionalJson .bool v.isDeprecated),
    ("deprecationReason", .optionalText v.deprecationReason)]

/-- A field of an input object as JSON. -/
def InputField.toJson (f : InputField) : Json :=
  .object [("name", .text f.name), ("description", .optionalText f.description),
    ("type", .text f.typeName), ("defaultValue", optionalJson id f.defaultValue)]

/-- A declared type as JSON. -/
def Declaration.toJson (d : Declaration) : Json :=
  let head := [("kind", .text d.kind), ("name", .text d.name),
    ("description", .optionalText d.description)]
  match d with
  | .enum _ _ values => .object (head ++ [("values", listJson EnumValue.toJson values)])
  | .inputObject _ _ fields => .object (head ++ [("fields", listJson InputField.toJson fields)])
  | .scalar .. => .object head

/-- A document as JSON. -/
def Document.toJson (d : Document) : Json :=
  .object [("operations", listJson Operation.toJson d.operations),
    ("fragments", listJson Fragment.toJson d.fragments),
    ("typesUsed", listJson Declaration.toJson d.declarations)]

end QueryModel
