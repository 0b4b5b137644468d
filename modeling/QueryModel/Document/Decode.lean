import QueryModel.Document.Basic
import QueryModel.Document.Format

/-!
# Reading documents

`Document.ofText` reads a document in two steps.  The check of the format finds
the first problem of the text.  If there is none, the parts of the document are
picked out of the draft.  Picking never fails: a part that is missing has the
value that a document without that part has, and the check has seen to all else.
-/

namespace QueryModel

open Json (Draft Reading)

/-! ## Picking values -/

namespace Json.Draft

/-- Whether a key of a member belongs to a key of an entity. -/
def isKey (e : Entity) (name : String) (key : Reading String) : Bool :=
  match key.read with
  | .ok written => (e.key? written).any (·.name == name)
  | .error _ => false

/-- The value of the first member with a key of an entity, or null. -/
def memberIn (e : Entity) (name : String) : List (Reading String × Draft) → Draft
  | [] => .null
  | (key, value) :: rest => if isKey e name key then value else memberIn e name rest

/-- The value of an entity under one of its keys, or null. -/
def member (e : Entity) (name : String) : Draft → Draft
  | .object members _ => memberIn e name members
  | .array items _ => (items[e.keys.findIdx (·.name == name)]?).getD .null
  | _ => .null

/-- The items of a list. -/
def items : Draft → List Draft
  | .array items _ => items
  | _ => []

/-- Whether a value is a list. -/
def isList : Draft → Bool
  | .array .. => true
  | _ => false

/-- The text of a value, if it is one. -/
def text? : Draft → Option String
  | .text s => s.read.toOption
  | _ => none

/-- The text of a value, or the empty text. -/
def textValue (d : Draft) : String := d.text?.getD ""

/-- The Boolean of a value, if it is one. -/
def flag? : Draft → Option Bool
  | .bool b => some b
  | _ => none

/-- The texts of a list. -/
def textValues (d : Draft) : List String := d.items.map textValue

/-- A list picked item by item, if the value is a list. -/
def list? {α : Type} (pick : Draft → α) (d : Draft) : Option (List α) :=
  if d.isList then some (d.items.map pick) else none

/-- The value, unless it is null. -/
def value? : Draft → Option Json
  | .null => none
  | d => some d.value.canonical

theorem sizeOf_lt_of_mem_items {d item : Draft} (membership : item ∈ d.items) :
    sizeOf item < sizeOf d := by
  cases d <;> simp only [items, List.not_mem_nil] at membership
  have := List.sizeOf_lt_of_mem membership
  simp
  omega

theorem sizeOf_memberIn_le (e : Entity) (name : String)
    (members : List (Reading String × Draft)) :
    sizeOf (memberIn e name members) ≤ 1 + sizeOf members := by
  induction members with
  | nil => simp [memberIn]
  | cons m rest ih =>
    obtain ⟨key, value⟩ := m
    simp only [memberIn]
    split
    · simp
      omega
    · simp
      omega

theorem sizeOf_member_le (e : Entity) (name : String) (d : Draft) :
    sizeOf (d.member e name) ≤ sizeOf d := by
  cases d <;> simp only [member]
  case array ds closing =>
    cases h : ds[e.keys.findIdx (·.name == name)]? with
    | none =>
      simp
      omega
    | some item =>
      have := List.sizeOf_lt_of_mem (List.mem_of_getElem? h)
      simp
      omega
  case object members closing =>
    have := sizeOf_memberIn_le e name members
    simp
    omega
  all_goals
    simp
    try omega

/-- Items of a value of an entity are smaller than the entity. -/
theorem sizeOf_lt_of_mem_member {e : Entity} {name : String} {d item : Draft}
    (membership : item ∈ (d.member e name).items) : sizeOf item < sizeOf d :=
  Nat.lt_of_lt_of_le (sizeOf_lt_of_mem_items membership) (sizeOf_member_le e name d)

end Json.Draft

/-! ## Picking entities -/

/-- A condition. -/
def Condition.ofDraft (d : Draft) : Condition :=
  { variableName := (d.member .condition "variableName").textValue
    inverted := (d.member .condition "inverted").flag?.getD false }

mutual

/-- A field. -/
def Field.ofDraft (d : Draft) : Field :=
  let nested := d.member .field "fields"
  let inlines := d.member .field "inlineFragments"
  { responseName := (d.member .field "responseName").textValue
    fieldName := (d.member .field "fieldName").textValue
    typeName := (d.member .field "type").textValue
    description := (d.member .field "description").text?
    isDeprecated := (d.member .field "isDeprecated").flag?
    deprecationReason := (d.member .field "deprecationReason").text?
    fields :=
      if nested.isList then
        some (nested.items.attach.map fun ⟨item, membership⟩ =>
          have := Draft.sizeOf_lt_of_mem_member membership
          Field.ofDraft item)
      else none
    fragmentSpreads := (d.member .field "fragmentSpreads").list? Draft.textValue
    inlineFragments :=
      if inlines.isList then
        some (inlines.items.attach.map fun ⟨item, membership⟩ =>
          have := Draft.sizeOf_lt_of_mem_member membership
          Field.inlineOfDraft item)
      else none
    conditions := (d.member .field "conditions").list? Condition.ofDraft }
termination_by sizeOf d

/-- An inline fragment. -/
def Field.inlineOfDraft (d : Draft) : InlineOf Field :=
  { typeCondition := (d.member .inlineFragment "typeCondition").textValue
    possibleTypes := (d.member .inlineFragment "possibleTypes").list? Draft.textValue
    fields := (d.member .inlineFragment "fields").items.attach.map fun ⟨item, membership⟩ =>
      have := Draft.sizeOf_lt_of_mem_member membership
      Field.ofDraft item
    fragmentSpreads := (d.member .inlineFragment "fragmentSpreads").list? Draft.textValue }
termination_by sizeOf d

end

/-- A variable. -/
def Variable.ofDraft (d : Draft) : Variable :=
  { name := (d.member .variable "name").textValue
    typeName := (d.member .variable "type").textValue }

/-- An operation. -/
def Operation.ofDraft (d : Draft) : Operation :=
  { operationName := (d.member .operation "operationName").textValue
    operationType := (d.member .operation "operationType").textValue
    parameters := (d.member .operation "variables").items.map Variable.ofDraft
    source := (d.member .operation "source").textValue
    fields := (d.member .operation "fields").items.map Field.ofDraft
    filePath := (d.member .operation "filePath").textValue
    fragmentsReferenced := (d.member .operation "fragmentsReferenced").textValues
    operationId := (d.member .operation "operationId").textValue }

/-- A fragment. -/
def Fragment.ofDraft (d : Draft) : Fragment :=
  { fragmentName := (d.member .fragment "fragmentName").textValue
    source := (d.member .fragment "source").textValue
    typeCondition := (d.member .fragment "typeCondition").textValue
    possibleTypes := (d.member .fragment "possibleTypes").textValues
    fields := (d.member .fragment "fields").items.map Field.ofDraft
    fragmentSpreads := (d.member .fragment "fragmentSpreads").textValues
    inlineFragments := (d.member .fragment "inlineFragments").items.map Field.inlineOfDraft
    fragmentsReferenced := (d.member .fragment "fragmentsReferenced").textValues
    filePath := (d.member .fragment "filePath").text? }

/-- A value of an enum. -/
def EnumValue.ofDraft (d : Draft) : EnumValue :=
  { name := (d.member .enumValue "name").textValue
    description := (d.member .enumValue "description").text?
    isDeprecated := (d.member .enumValue "isDeprecated").flag?
    deprecationReason := (d.member .enumValue "deprecationReason").text? }

/-- A field of an input object. -/
def InputField.ofDraft (d : Draft) : InputField :=
  { name := (d.member .inputField "name").textValue
    description := (d.member .inputField "description").text?
    typeName := (d.member .inputField "type").textValue
    defaultValue := (d.member .inputField "defaultValue").value? }

/-- The kind of a declared type and its other values.  In the array form the kind
comes first. -/
def Declaration.splitKind : Draft → Draft × Draft
  | .object members closing =>
    let kind := (members.find? fun m =>
      match m.1.read with
      | .ok written => written == "kind"
      | .error _ => false).map Prod.snd
    (kind.getD .null, .object members closing)
  | .array (kind :: rest) closing => (kind, .array rest closing)
  | d => (.null, d)

/-- A declared type. -/
def Declaration.ofDraft (d : Draft) : Declaration :=
  let (kind, body) := Declaration.splitKind d
  match declarationKind kind with
  | .ok .enumType =>
    .enum (body.member .enumType "name").textValue (body.member .enumType "description").text?
      ((body.member .enumType "values").items.map EnumValue.ofDraft)
  | .ok .inputObjectType =>
    .inputObject (body.member .inputObjectType "name").textValue
      (body.member .inputObjectType "description").text?
      ((body.member .inputObjectType "fields").items.map InputField.ofDraft)
  | _ =>
    .scalar (body.member .scalarType "name").textValue
      (body.member .scalarType "description").text?

/-- The parts of a document in a draft that has passed the check. -/
def Document.pick (d : Draft) : Document :=
  { operations := (d.member .document "operations").items.map Operation.ofDraft
    fragments := (d.member .document "fragments").items.map Fragment.ofDraft
    declarations := (d.member .document "typesUsed").items.map Declaration.ofDraft }

/-! ## Reading -/

/-- The document of a draft, or its first problem.  Nesting is not limited
here. -/
def Document.ofDraft (d : Draft) : Except Problem Document := do
  checkValue false false (.entity .document) d
  return Document.pick d

/-- The document of a JSON value. -/
def Document.ofJson (j : Json) : Except Problem Document := Document.ofDraft j.draft

/-- The document of a text, or the first problem of the text.  What follows the
document is looked at last. -/
def Document.ofText (s : String) : Except Problem Document := do
  let (draft, more) := Draft.ofText s
  let document ← Document.ofDraft (draft.limit Draft.maxDepth)
  if more then .error (.fault .malformed) else .ok document

end QueryModel
