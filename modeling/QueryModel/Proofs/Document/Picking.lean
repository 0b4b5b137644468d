import QueryModel.Proofs.Document.Acceptance
import QueryModel.Proofs.Json.Parsing

/-!
# Picked entities

What is picked from a draft depends on the values under the keys of the entity and on nothing
else.  `Entity.Same` says that two drafts are picked as the same entity, and `ValueKind.Same`
extends this to lists and declared types.  If two drafts have the same values in this sense, key
by key, they are picked as the same entity (`Entity.same_of_members`).

A declared type is picked by its kind (`Declaration.ofBody`).
-/

namespace QueryModel

open Json (Draft Reading)

/-! ## Fields and declared types -/

theorem Field.ofDraft_eq (d : Draft) : Field.ofDraft d =
    { responseName := (d.member .field "responseName").textValue
      fieldName := (d.member .field "fieldName").textValue
      typeName := (d.member .field "type").textValue
      description := (d.member .field "description").text?
      isDeprecated := (d.member .field "isDeprecated").flag?
      deprecationReason := (d.member .field "deprecationReason").text?
      fields := (d.member .field "fields").list? Field.ofDraft
      fragmentSpreads := (d.member .field "fragmentSpreads").list? Draft.textValue
      inlineFragments := (d.member .field "inlineFragments").list? Field.inlineOfDraft
      conditions := (d.member .field "conditions").list? Condition.ofDraft } := by
  rw [Field.ofDraft]
  simp [Draft.list?]

theorem Field.inlineOfDraft_eq (d : Draft) : Field.inlineOfDraft d =
    { typeCondition := (d.member .inlineFragment "typeCondition").textValue
      possibleTypes := (d.member .inlineFragment "possibleTypes").list? Draft.textValue
      fields := (d.member .inlineFragment "fields").items.map Field.ofDraft
      fragmentSpreads := (d.member .inlineFragment "fragmentSpreads").list? Draft.textValue } := by
  rw [Field.inlineOfDraft]
  simp

namespace Declaration

/-- A declared type of a kind that is known. -/
def ofBody (e : Entity) (body : Draft) : Declaration :=
  match e with
  | .enumType =>
    .enum (body.member .enumType "name").textValue (body.member .enumType "description").text?
      ((body.member .enumType "values").items.map EnumValue.ofDraft)
  | .inputObjectType =>
    .inputObject (body.member .inputObjectType "name").textValue
      (body.member .inputObjectType "description").text?
      ((body.member .inputObjectType "fields").items.map InputField.ofDraft)
  | _ =>
    .scalar (body.member .scalarType "name").textValue
      (body.member .scalarType "description").text?

/-- A declared type is picked by its kind from what it holds apart from the kind. -/
theorem ofDraft_eq_ofBody {d kind body : Draft} {e : Entity} (split : splitKind d = (kind, body))
    (isKind : declarationKind kind = .ok e) : ofDraft d = ofBody e body := by
  rw [ofDraft, split]
  simp only [isKind]
  cases e <;> rfl

/-- In an object the kind is one of the members, and the body is the object itself. -/
theorem splitKind_object {kind : Draft} {members : List (Reading String × Draft)}
    {closing : Reading Unit} (only : Draft.kinds members = [kind]) :
    splitKind (.object members closing) = (kind, .object members closing) := by
  have first : (Draft.kinds members).head? = some kind := by rw [only]; rfl
  rw [Draft.kinds, List.head?_map, List.head?_filter] at first
  exact congrArg (fun found => (found.getD .null, Draft.object members closing)) first

/-- In an array the kind comes first, and the body is the rest. -/
theorem splitKind_array {kind : Draft} {items : List Draft} {closing : Reading Unit} :
    splitKind (.array (kind :: items) closing) = (kind, .array items closing) := rfl

end Declaration

/-- An accepted declared type has a kind, and the rest of it is accepted for that kind. -/
theorem accepted_declaration {whole : Bool} {d : Draft}
    (accepted : checkValue whole false .declaration d = .ok ()) :
    ∃ e body, Declaration.ofDraft d = Declaration.ofBody e body ∧
      checkValue true false (.entity e) body = .ok () := by
  cases d with
  | object members closing =>
    obtain ⟨kind, e, only, isKind, _, checked⟩ := checkValue_declared_object.mp accepted
    exact ⟨e, _, Declaration.ofDraft_eq_ofBody (Declaration.splitKind_object only) isKind, checked⟩
  | array items closing =>
    cases items with
    | nil =>
      obtain ⟨_, absent⟩ := Result.check_eq_ok.mp accepted
      cases absent
    | cons tag rest =>
      obtain ⟨e, isKind, _, checked⟩ := checkValue_declared_array.mp accepted
      exact ⟨e, _, Declaration.ofDraft_eq_ofBody Declaration.splitKind_array isKind, checked⟩
  | _ => cases accepted

/-! ## Picking the same -/

/-- Two drafts that are picked as the same entity. -/
def Entity.Same : Entity → Draft → Draft → Prop
  | .document, a, b => Document.pick a = Document.pick b
  | .operation, a, b => Operation.ofDraft a = Operation.ofDraft b
  | .fragment, a, b => Fragment.ofDraft a = Fragment.ofDraft b
  | .variable, a, b => Variable.ofDraft a = Variable.ofDraft b
  | .field, a, b => Field.ofDraft a = Field.ofDraft b
  | .inlineFragment, a, b => Field.inlineOfDraft a = Field.inlineOfDraft b
  | .condition, a, b => Condition.ofDraft a = Condition.ofDraft b
  | .enumType, a, b => Declaration.ofBody .enumType a = Declaration.ofBody .enumType b
  | .inputObjectType, a, b =>
    Declaration.ofBody .inputObjectType a = Declaration.ofBody .inputObjectType b
  | .scalarType, a, b => Declaration.ofBody .scalarType a = Declaration.ofBody .scalarType b
  | .enumValue, a, b => EnumValue.ofDraft a = EnumValue.ofDraft b
  | .inputField, a, b => InputField.ofDraft a = InputField.ofDraft b

/-- Two values that are picked as the same.  Values that hold no entities are not changed. -/
def ValueKind.Same : ValueKind → Draft → Draft → Prop
  | .entity e, a, b => e.Same a b
  | .declaration, a, b => Declaration.ofDraft a = Declaration.ofDraft b
  | .listOf kind, a, b => a.isList = b.isList ∧ List.Forall₂ kind.Same a.items b.items
  | .text, a, b => a = b
  | .flag, a, b => a = b
  | .anything, a, b => a = b
  | .conditionKind, a, b => a = b

theorem Entity.same_refl (e : Entity) (d : Draft) : e.Same d d := by
  cases e <;> rfl

theorem ValueKind.same_refl (kind : ValueKind) (d : Draft) : kind.Same d d := by
  induction kind generalizing d with
  | entity e => exact e.same_refl d
  | declaration => exact rfl
  | listOf kind ih => exact ⟨rfl, List.forall₂_same.mpr fun item _ => ih item⟩
  | _ => exact rfl

section

variable {α : Type} {kind : ValueKind} {pick : Draft → α} {a b : Draft}

/-- Lists whose items are picked as the same are picked as the same. -/
theorem ValueKind.Same.map_items (same : (ValueKind.listOf kind).Same a b)
    (each : ∀ x y, kind.Same x y → pick x = pick y) : a.items.map pick = b.items.map pick := by
  have mapped : List.Forall₂ (· = ·) (a.items.map pick) (b.items.map pick) := by
    rw [List.forall₂_map_left_iff, List.forall₂_map_right_iff]
    exact same.2.imp each
  rwa [List.forall₂_eq_eq_eq] at mapped

theorem ValueKind.Same.list?_eq (same : (ValueKind.listOf kind).Same a b)
    (each : ∀ x y, kind.Same x y → pick x = pick y) : a.list? pick = b.list? pick := by
  rw [Draft.list?, Draft.list?, same.1, same.map_items each]

theorem ValueKind.Same.textValues_eq (same : (ValueKind.listOf .text).Same a b) :
    a.textValues = b.textValues := same.map_items fun _ _ => congrArg Draft.textValue

theorem ValueKind.Same.list?_texts (same : (ValueKind.listOf .text).Same a b) :
    a.list? Draft.textValue = b.list? Draft.textValue :=
  same.list?_eq fun _ _ => congrArg Draft.textValue

end

/-- Two drafts are picked as the same entity if their values are, key by key. -/
theorem Entity.same_of_members {e : Entity} {a b : Draft}
    (each : ∀ k ∈ e.keys, k.kind.Same (a.member e k.name) (b.member e k.name)) : e.Same a b := by
  cases e with
  | document =>
    simp only [keys, List.forall_mem_cons] at each
    obtain ⟨operations, fragments, declarations, -⟩ := each
    show Document.pick a = Document.pick b
    simp only [Document.pick, Document.mk.injEq]
    exact ⟨operations.map_items fun _ _ => id, fragments.map_items fun _ _ => id,
      declarations.map_items fun _ _ => id⟩
  | operation =>
    simp only [keys, List.forall_mem_cons] at each
    obtain ⟨name, type, parameters, source, fields, path, referenced, identifier, -⟩ := each
    show Operation.ofDraft a = Operation.ofDraft b
    simp only [Operation.ofDraft, Operation.mk.injEq]
    exact ⟨congrArg Draft.textValue name, congrArg Draft.textValue type,
      parameters.map_items fun _ _ => id, congrArg Draft.textValue source,
      fields.map_items fun _ _ => id, congrArg Draft.textValue path, referenced.textValues_eq,
      congrArg Draft.textValue identifier⟩
  | fragment =>
    simp only [keys, List.forall_mem_cons] at each
    obtain ⟨name, source, condition, possible, fields, spreads, inlines, referenced, path, -⟩ :=
      each
    show Fragment.ofDraft a = Fragment.ofDraft b
    simp only [Fragment.ofDraft, Fragment.mk.injEq]
    exact ⟨congrArg Draft.textValue name, congrArg Draft.textValue source,
      congrArg Draft.textValue condition, possible.textValues_eq, fields.map_items fun _ _ => id,
      spreads.textValues_eq, inlines.map_items fun _ _ => id, referenced.textValues_eq,
      congrArg Draft.text? path⟩
  | «variable» =>
    simp only [keys, List.forall_mem_cons] at each
    obtain ⟨name, type, -⟩ := each
    show Variable.ofDraft a = Variable.ofDraft b
    simp only [Variable.ofDraft, Variable.mk.injEq]
    exact ⟨congrArg Draft.textValue name, congrArg Draft.textValue type⟩
  | field =>
    simp only [keys, List.forall_mem_cons] at each
    obtain ⟨response, name, type, description, deprecated, reason, fields, spreads, inlines,
      conditions, -⟩ := each
    show Field.ofDraft a = Field.ofDraft b
    simp only [Field.ofDraft_eq, Field.mk.injEq]
    exact ⟨congrArg Draft.textValue response, congrArg Draft.textValue name,
      congrArg Draft.textValue type, congrArg Draft.text? description,
      congrArg Draft.flag? deprecated, congrArg Draft.text? reason, fields.list?_eq fun _ _ => id,
      spreads.list?_texts, inlines.list?_eq fun _ _ => id, conditions.list?_eq fun _ _ => id⟩
  | inlineFragment =>
    simp only [keys, List.forall_mem_cons] at each
    obtain ⟨condition, possible, fields, spreads, -⟩ := each
    show Field.inlineOfDraft a = Field.inlineOfDraft b
    simp only [Field.inlineOfDraft_eq, InlineOf.mk.injEq]
    exact ⟨congrArg Draft.textValue condition, possible.list?_texts,
      fields.map_items fun _ _ => id, spreads.list?_texts⟩
  | condition =>
    simp only [keys, List.forall_mem_cons] at each
    obtain ⟨-, name, inverted, -⟩ := each
    show Condition.ofDraft a = Condition.ofDraft b
    simp only [Condition.ofDraft, Condition.mk.injEq]
    exact ⟨congrArg Draft.textValue name, congrArg (fun d => d.flag?.getD false) inverted⟩
  | enumType =>
    simp only [keys, List.forall_mem_cons] at each
    obtain ⟨name, description, values, -⟩ := each
    show Declaration.ofBody .enumType a = Declaration.ofBody .enumType b
    simp only [Declaration.ofBody, Declaration.enum.injEq]
    exact ⟨congrArg Draft.textValue name, congrArg Draft.text? description,
      values.map_items fun _ _ => id⟩
  | inputObjectType =>
    simp only [keys, List.forall_mem_cons] at each
    obtain ⟨name, description, fields, -⟩ := each
    show Declaration.ofBody .inputObjectType a = Declaration.ofBody .inputObjectType b
    simp only [Declaration.ofBody, Declaration.inputObject.injEq]
    exact ⟨congrArg Draft.textValue name, congrArg Draft.text? description,
      fields.map_items fun _ _ => id⟩
  | scalarType =>
    simp only [keys, List.forall_mem_cons] at each
    obtain ⟨name, description, -⟩ := each
    show Declaration.ofBody .scalarType a = Declaration.ofBody .scalarType b
    simp only [Declaration.ofBody, Declaration.scalar.injEq]
    exact ⟨congrArg Draft.textValue name, congrArg Draft.text? description⟩
  | enumValue =>
    simp only [keys, List.forall_mem_cons] at each
    obtain ⟨name, description, deprecated, reason, -⟩ := each
    show EnumValue.ofDraft a = EnumValue.ofDraft b
    simp only [EnumValue.ofDraft, EnumValue.mk.injEq]
    exact ⟨congrArg Draft.textValue name, congrArg Draft.text? description,
      congrArg Draft.flag? deprecated, congrArg Draft.text? reason⟩
  | inputField =>
    simp only [keys, List.forall_mem_cons] at each
    obtain ⟨name, description, type, default, -⟩ := each
    show InputField.ofDraft a = InputField.ofDraft b
    simp only [InputField.ofDraft, InputField.mk.injEq]
    exact ⟨congrArg Draft.textValue name, congrArg Draft.text? description,
      congrArg Draft.textValue type, congrArg Draft.value? default⟩

/-- Bodies that are the same for an entity give the same declared type. -/
theorem Declaration.ofBody_eq {e : Entity} {a b : Draft} (declared : e.Declared)
    (same : e.Same a b) : ofBody e a = ofBody e b := by
  cases e with
  | enumType => exact same
  | inputObjectType => exact same
  | scalarType => exact same
  | _ => exact absurd declared (by decide)

/-! ## Texts -/

/-- Within the limit of nesting a text is read as its draft. -/
theorem Document.ofText_eq_ofDraft {s : String} {a : Draft} (text : Draft.ofText s = (a, false))
    (shallow : a.nesting ≤ Draft.maxDepth) : Document.ofText s = Document.ofDraft a := by
  rw [Document.ofText, text]
  simp only [Draft.limit_eq_self a _ shallow]
  cases Document.ofDraft a with
  | error p => rfl
  | ok d => rfl

end QueryModel
