import QueryModel.Document.Encode
import QueryModel.Proofs.Document.Picking
import QueryModel.Proofs.Json.Printing

/-!
# Written documents are read back

A part of a document reads back when its JSON form passes the check and is picked as the
part it was written from (`Json.ReadsAs`).  Texts, flags, optional values and lists read back
from what they hold.  An entity is written with all its keys in order, so the check passes
once it passes under every key (`accepts_written`).

Fields and inline fragments hold each other.  They are proved in one block that follows the
functions of the writer, and there the difference between no list of nested fields and an
empty one is kept: the first is written as null and the second as an array.

Null stands for an absent default value, and default values are carried in canonical form.
`Document.Carried` says this of a document.  Every document that was read satisfies it.

A text counts as the text of a document when it has the lexemes of the JSON form, whatever its
blanks and escapes.  It is read back as long as it nests no deeper than the reader allows.  The
text that the printer writes is such a text if the numbers among the default values are whole and
fit a 64-bit word (`Json.tokens_compact`).  Printing a double and reading it again may give another
one, so the lexemes of a double stand for the value that is read.
-/

namespace QueryModel

open Json (Draft Reading)

/-! ## Parts -/

/-- A JSON form that is accepted for its kind and picked as a given part. -/
structure Json.ReadsAs {α : Type} (j : Json) (nullable : Bool) (kind : ValueKind)
    (pick : Draft → α) (a : α) : Prop where
  /-- The form passes the check. -/
  accepted : ∀ whole, checkValue whole nullable kind j.draft = .ok ()
  /-- The part is picked from it. -/
  picked : pick j.draft = a

namespace Json.ReadsAs

variable {α : Type} {n : Bool} {kind : ValueKind} {pick : Draft → α}

theorem text (s : String) : (Json.text s).ReadsAs n .text Draft.textValue s :=
  ⟨fun _ => rfl, rfl⟩

/-- An absent text is written as null, which no text is. -/
theorem optionalText (o : Option String) :
    (Json.optionalText o).ReadsAs true .text Draft.text? o := by
  cases o with
  | none => exact ⟨fun _ => rfl, rfl⟩
  | some s => exact ⟨fun _ => rfl, rfl⟩

theorem optionalFlag (o : Option Bool) :
    (optionalJson .bool o).ReadsAs true .flag Draft.flag? o := by
  cases o with
  | none => exact ⟨fun _ => rfl, rfl⟩
  | some b => exact ⟨fun _ => rfl, rfl⟩

theorem draft_array (items : List Json) :
    (Json.array items).draft = .array (items.map Json.draft) (.ok ()) := by
  rw [Json.draft, Json.draftItems_eq_map]

/-- A list reads back if its items do, one by one. -/
theorem array {items : List Json} {as : List α}
    (each : List.Forall₂ (fun item a => item.ReadsAs false kind pick a) items as) :
    (Json.array items).ReadsAs n (.listOf kind) (fun d => d.items.map pick) as := by
  constructor
  · intro whole
    rw [draft_array, checkValue_list]
    refine ⟨?_, rfl⟩
    induction each with
    | nil => simp
    | cons first _ ih => exact List.forall_mem_cons.mpr ⟨first.accepted whole, ih⟩
  · rw [draft_array]
    show (items.map Json.draft).map pick = as
    induction each with
    | nil => rfl
    | cons first _ ih => rw [List.map_cons, List.map_cons, first.picked, ih]

/-- A list that is there is told from none. -/
theorem someArray {items : List Json} {as : List α}
    (each : List.Forall₂ (fun item a => item.ReadsAs false kind pick a) items as) :
    (Json.array items).ReadsAs n (.listOf kind) (Draft.list? pick) (some as) := by
  have reads := array (n := n) each
  refine ⟨reads.accepted, ?_⟩
  rw [draft_array]
  exact congrArg some (draft_array items ▸ reads.picked)

theorem forall₂_encode {encode : α → Json} {as : List α}
    (each : ∀ a ∈ as, (encode a).ReadsAs false kind pick a) :
    List.Forall₂ (fun item a => item.ReadsAs false kind pick a) (as.map encode) as := by
  rw [List.forall₂_map_left_iff]
  exact List.forall₂_same.mpr each

theorem list {encode : α → Json} {as : List α}
    (each : ∀ a ∈ as, (encode a).ReadsAs false kind pick a) :
    (listJson encode as).ReadsAs n (.listOf kind) (fun d => d.items.map pick) as :=
  array (forall₂_encode each)

/-- No list is written as null and an empty list as an array, so both read back. -/
theorem optionalList {encode : α → Json} {o : Option (List α)}
    (each : ∀ a, (encode a).ReadsAs false kind pick a) :
    (optionalJson (listJson encode) o).ReadsAs true (.listOf kind) (Draft.list? pick) o := by
  cases o with
  | none => exact ⟨fun _ => rfl, rfl⟩
  | some as => exact someArray (forall₂_encode fun a _ => each a)

theorem texts (ss : List String) :
    (Json.texts ss).ReadsAs n (.listOf .text) Draft.textValues ss :=
  list fun s _ => text s

theorem optionalTexts (o : Option (List String)) :
    (optionalJson Json.texts o).ReadsAs true (.listOf .text) (Draft.list? Draft.textValue) o :=
  optionalList text

end Json.ReadsAs

/-! ## Entities -/

/-- A member that is accepted under the main name of a key. -/
def Key.Written (k : Key) (m : String × Json) : Prop :=
  m.1 = k.name ∧ ∀ whole, checkValue whole k.nullable k.kind m.2.draft = .ok ()

/-- A key is found under its main name: no key before it has that name as an alias. -/
theorem Entity.key?_name {e : Entity} : ∀ k ∈ e.keys, e.key? k.name = some k := by
  cases e <;> decide

section

variable {whole : Bool} {e : Entity} {members : List (String × Json)}

/-- Members that are written for keys are accepted, and what the entity knows of them are these
keys. -/
theorem names_written {keys : List Key} (inKeys : ∀ k ∈ keys, k ∈ e.keys)
    (each : List.Forall₂ Key.Written keys members) :
    (∀ m ∈ Json.draftMembers members, AcceptsMember whole e m) ∧
      (Draft.known e (Json.draftMembers members)).map Prod.fst = keys.map (·.name) := by
  induction each with
  | nil => exact ⟨by simp [Json.draftMembers], rfl⟩
  | @cons k m keys members first _ ih =>
    obtain ⟨name, value⟩ := m
    obtain ⟨rfl, accepted⟩ := first
    obtain ⟨isKey, inKeys⟩ := List.forall_mem_cons.mp inKeys
    obtain ⟨others, names⟩ := ih inKeys
    have found : e.key? k.name = some k := Entity.key?_name k isKey
    have isKnown : Draft.keyOf? e (.ok k.name) = some k := found
    rw [Json.draftMembers, Draft.known_cons_key isKnown]
    refine ⟨List.forall_mem_cons.mpr ⟨.known rfl found (accepted whole), others⟩, ?_⟩
    rw [List.map_cons, List.map_cons, names]

/-- An object with all keys of an entity in order is accepted. -/
theorem accepts_written (each : List.Forall₂ Key.Written e.keys members) :
    AcceptsObject whole e (Json.draftMembers members) (.ok ()) := by
  obtain ⟨accepted, names⟩ := names_written (fun _ isKey => isKey) each
  refine ⟨accepted, ?_, ?_, rfl⟩
  · rw [names]
    exact e.nodup_keys
  · intro k isKey _
    rw [names]
    exact List.mem_map_of_mem isKey

theorem checkValue_written {nullable : Bool} (each : List.Forall₂ Key.Written e.keys members) :
    checkValue whole nullable (.entity e) (Json.object members).draft = .ok () :=
  checkValue_object.mpr (accepts_written each)

end

open Json.ReadsAs

theorem Condition.readsAs_toJson (c : Condition) :
    c.toJson.ReadsAs false (.entity .condition) Condition.ofDraft c := by
  refine ⟨fun _ => checkValue_written ?_, rfl⟩
  exact .cons ⟨rfl, fun _ => rfl⟩ <| .cons ⟨rfl, fun _ => rfl⟩ <| .cons ⟨rfl, fun _ => rfl⟩ .nil

theorem Variable.readsAs_toJson (v : Variable) :
    v.toJson.ReadsAs false (.entity .variable) Variable.ofDraft v := by
  refine ⟨fun _ => checkValue_written ?_, rfl⟩
  exact .cons ⟨rfl, fun _ => rfl⟩ <| .cons ⟨rfl, fun _ => rfl⟩ .nil

mutual

/-- Fields read back, by recursion over the fields and inline fragments that they hold. -/
theorem Field.readsAs_toJson :
    (f : Field) → f.toJson.ReadsAs false (.entity .field) Field.ofDraft f
  | { responseName, fieldName, typeName, description, isDeprecated, deprecationReason, fields,
      fragmentSpreads, inlineFragments, conditions } => by
    have noted := optionalText description
    have flagged := optionalFlag isDeprecated
    have reasoned := optionalText deprecationReason
    have nested := Field.readsAs_optionalFields fields
    have spread := optionalTexts fragmentSpreads
    have inlined := Field.readsAs_optionalInlines inlineFragments
    have conditioned := optionalList (o := conditions) Condition.readsAs_toJson
    constructor
    · intro whole
      rw [Field.toJson]
      refine checkValue_written ?_
      exact .cons ⟨rfl, fun _ => rfl⟩ <| .cons ⟨rfl, fun _ => rfl⟩ <| .cons ⟨rfl, fun _ => rfl⟩ <|
        .cons ⟨rfl, noted.accepted⟩ <| .cons ⟨rfl, flagged.accepted⟩ <|
        .cons ⟨rfl, reasoned.accepted⟩ <| .cons ⟨rfl, nested.accepted⟩ <|
        .cons ⟨rfl, spread.accepted⟩ <| .cons ⟨rfl, inlined.accepted⟩ <|
        .cons ⟨rfl, conditioned.accepted⟩ .nil
    · rw [Field.ofDraft_eq, Field.toJson]
      simp only [Field.mk.injEq]
      exact ⟨rfl, rfl, rfl, noted.picked, flagged.picked, reasoned.picked, nested.picked,
        spread.picked, inlined.picked, conditioned.picked⟩

/-- The nested fields of a field, where none and an empty list are told apart. -/
theorem Field.readsAs_optionalFields :
    (o : Option (List Field)) → (Field.optionalFieldsJson o).ReadsAs true (.listOf (.entity .field))
      (Draft.list? Field.ofDraft) o
  | none => ⟨fun _ => rfl, rfl⟩
  | some fields => someArray (Field.readsAs_fields fields)

theorem Field.readsAs_optionalInlines :
    (o : Option (List (InlineOf Field))) →
      (Field.optionalInlinesJson o).ReadsAs true (.listOf (.entity .inlineFragment))
        (Draft.list? Field.inlineOfDraft) o
  | none => ⟨fun _ => rfl, rfl⟩
  | some inlines => someArray (Field.readsAs_inlines inlines)

theorem Field.readsAs_fields : (fields : List Field) →
    List.Forall₂ (fun item f => item.ReadsAs false (.entity .field) Field.ofDraft f)
      (Field.fieldsJson fields) fields
  | [] => .nil
  | field :: rest => .cons field.readsAs_toJson (Field.readsAs_fields rest)

theorem Field.readsAs_inlines : (inlines : List (InlineOf Field)) →
    List.Forall₂ (fun item i => item.ReadsAs false (.entity .inlineFragment) Field.inlineOfDraft i)
      (Field.inlinesJson inlines) inlines
  | [] => .nil
  | { typeCondition, possibleTypes, fields, fragmentSpreads } :: rest => by
    have possible := optionalTexts possibleTypes
    have nested := array (n := false) (Field.readsAs_fields fields)
    have spread := optionalTexts fragmentSpreads
    refine .cons ⟨?_, ?_⟩ (Field.readsAs_inlines rest)
    · intro whole
      refine checkValue_written ?_
      exact .cons ⟨rfl, fun _ => rfl⟩ <| .cons ⟨rfl, possible.accepted⟩ <|
        .cons ⟨rfl, nested.accepted⟩ <| .cons ⟨rfl, spread.accepted⟩ .nil
    · rw [Field.inlineOfDraft_eq]
      simp only [InlineOf.mk.injEq]
      exact ⟨rfl, possible.picked, nested.picked, spread.picked⟩

end

/-- Operations are written under the main names of their keys and read back. -/
theorem Operation.readsAs_toJson (o : Operation) :
    o.toJson.ReadsAs false (.entity .operation) Operation.ofDraft o := by
  have parameters := list (n := false) fun v (_ : v ∈ o.parameters) => v.readsAs_toJson
  have fields := array (n := false) (Field.readsAs_fields o.fields)
  have referenced := texts (n := false) o.fragmentsReferenced
  constructor
  · intro whole
    refine checkValue_written ?_
    exact .cons ⟨rfl, fun _ => rfl⟩ <| .cons ⟨rfl, fun _ => rfl⟩ <|
      .cons ⟨rfl, parameters.accepted⟩ <| .cons ⟨rfl, fun _ => rfl⟩ <|
      .cons ⟨rfl, fields.accepted⟩ <| .cons ⟨rfl, fun _ => rfl⟩ <|
      .cons ⟨rfl, referenced.accepted⟩ <| .cons ⟨rfl, fun _ => rfl⟩ .nil
  · cases o
    simp only [Operation.ofDraft, Operation.mk.injEq]
    exact ⟨rfl, rfl, parameters.picked, rfl, fields.picked, rfl, referenced.picked, rfl⟩

theorem Fragment.readsAs_toJson (f : Fragment) :
    f.toJson.ReadsAs false (.entity .fragment) Fragment.ofDraft f := by
  have possible := texts (n := false) f.possibleTypes
  have fields := array (n := false) (Field.readsAs_fields f.fields)
  have spread := texts (n := false) f.fragmentSpreads
  have inlined := array (n := false) (Field.readsAs_inlines f.inlineFragments)
  have referenced := texts (n := false) f.fragmentsReferenced
  have path := optionalText f.filePath
  constructor
  · intro whole
    refine checkValue_written ?_
    exact .cons ⟨rfl, fun _ => rfl⟩ <| .cons ⟨rfl, fun _ => rfl⟩ <| .cons ⟨rfl, fun _ => rfl⟩ <|
      .cons ⟨rfl, possible.accepted⟩ <| .cons ⟨rfl, fields.accepted⟩ <|
      .cons ⟨rfl, spread.accepted⟩ <| .cons ⟨rfl, inlined.accepted⟩ <|
      .cons ⟨rfl, referenced.accepted⟩ <| .cons ⟨rfl, path.accepted⟩ .nil
  · cases f
    simp only [Fragment.ofDraft, Fragment.mk.injEq]
    exact ⟨rfl, rfl, rfl, possible.picked, fields.picked, spread.picked, inlined.picked,
      referenced.picked, path.picked⟩

theorem EnumValue.readsAs_toJson (v : EnumValue) :
    v.toJson.ReadsAs false (.entity .enumValue) EnumValue.ofDraft v := by
  have noted := optionalText v.description
  have flagged := optionalFlag v.isDeprecated
  have reasoned := optionalText v.deprecationReason
  constructor
  · intro whole
    refine checkValue_written ?_
    exact .cons ⟨rfl, fun _ => rfl⟩ <| .cons ⟨rfl, noted.accepted⟩ <|
      .cons ⟨rfl, flagged.accepted⟩ <| .cons ⟨rfl, reasoned.accepted⟩ .nil
  · cases v
    simp only [EnumValue.ofDraft, EnumValue.mk.injEq]
    exact ⟨rfl, noted.picked, flagged.picked, reasoned.picked⟩

/-! ## Default values -/

/-- A default value is not null, and it is in canonical form. -/
def InputField.Carried (f : InputField) : Prop :=
  ∀ v, f.defaultValue = some v → v ≠ .null ∧ v.Sorted

/-- The fields of a declared type that is an input object. -/
def Declaration.inputFields : Declaration → List InputField
  | .inputObject _ _ fields => fields
  | .enum .. => []
  | .scalar .. => []

/-- The default values of a document are not null, and they are in canonical form. -/
def Document.Carried (d : Document) : Prop :=
  ∀ declared ∈ d.declarations, ∀ f ∈ declared.inputFields, f.Carried

/-- Only null stands for an absent value. -/
theorem Json.Draft.value?_of_ne_null {d : Draft} (present : d ≠ .null) :
    d.value? = some d.value.canonical := by
  cases d with
  | null => exact absurd rfl present
  | _ => rfl

/-- A default value reads back if it is not null and in canonical form. -/
theorem Json.ReadsAs.defaultValue {o : Option Json}
    (carried : ∀ v, o = some v → v ≠ .null ∧ v.Sorted) :
    (optionalJson id o).ReadsAs true .anything Draft.value? o := by
  cases o with
  | none => exact ⟨fun _ => rfl, rfl⟩
  | some v =>
    -- null would be read back as no value, and an unsorted value as its canonical form
    obtain ⟨present, sorted⟩ := carried v rfl
    refine ⟨fun _ => checkValue_anything.mpr v.fault_draft, ?_⟩
    have notNull : v.draft ≠ .null := by
      cases v with
      | null => exact absurd rfl present
      | _ => simp [Json.draft]
    show v.draft.value? = some v
    rw [Draft.value?_of_ne_null notNull, v.value_draft, Json.canonical_of_sorted sorted]

/-- Input fields read back if their default values do. -/
theorem InputField.readsAs_toJson {f : InputField} (carried : f.Carried) :
    f.toJson.ReadsAs false (.entity .inputField) InputField.ofDraft f := by
  have noted := optionalText f.description
  have default := Json.ReadsAs.defaultValue carried
  constructor
  · intro whole
    refine checkValue_written ?_
    exact .cons ⟨rfl, fun _ => rfl⟩ <| .cons ⟨rfl, noted.accepted⟩ <|
      .cons ⟨rfl, fun _ => rfl⟩ <| .cons ⟨rfl, default.accepted⟩ .nil
  · cases f
    simp only [InputField.ofDraft, InputField.mk.injEq]
    exact ⟨rfl, noted.picked, rfl, default.picked⟩

/-- A value that was read is not null unless it stands for an absent one. -/
theorem Json.Draft.value_ne_null {d : Draft} (sound : d.fault = none) (present : d ≠ .null) :
    d.value ≠ .null := by
  cases d with
  | null => exact absurd rfl present
  | number n =>
    obtain ⟨m, read⟩ := readFault_eq_none.mp sound
    simp [value, read]
  | text s =>
    obtain ⟨t, read⟩ := readFault_eq_none.mp sound
    simp [value, read]
  | cut first whole => cases sound
  | _ => simp [value]

theorem Json.canonical_ne_null {j : Json} (present : j ≠ .null) : j.canonical ≠ .null := by
  cases j with
  | null => exact absurd rfl present
  | _ => simp [canonical]

/-- The default value of an input field that was read is carried as it is. -/
theorem InputField.carried_ofDraft {whole : Bool} {d : Draft}
    (accepted : checkValue whole false (.entity .inputField) d = .ok ()) :
    (InputField.ofDraft d).Carried := by
  intro v picked
  have isKey : Key.maybe "defaultValue" .anything ∈ Entity.inputField.keys := by decide
  have checked := accepted_member accepted isKey
  have picked : (d.member .inputField "defaultValue").value? = some v := picked
  have present : d.member .inputField "defaultValue" ≠ .null := by
    intro absent
    rw [absent] at picked
    cases picked
  have sound := checkValue_anything.mp (checked.resolve_left present)
  rw [Draft.value?_of_ne_null present] at picked
  cases picked
  exact ⟨Json.canonical_ne_null (Draft.value_ne_null sound present), Json.sorted_canonical _⟩

/-! ## Declared types -/

/-- A declared type is written as its kind before the keys of that kind. -/
theorem Json.ReadsAs.declared {e : Entity} {kind : String} {members : List (String × Json)}
    {d : Declaration} (isKind : declarationKind (.text (.ok kind)) = .ok e)
    (unknown : e.key? "kind" = none) (only : Draft.kinds (Json.draftMembers members) = [])
    (each : List.Forall₂ Key.Written e.keys members)
    (picked : Declaration.ofBody e (Json.object (("kind", .text kind) :: members)).draft = d) :
    (Json.object (("kind", .text kind) :: members)).ReadsAs false .declaration
      Declaration.ofDraft d := by
  have oneKind : Draft.kinds (Json.draftMembers (("kind", .text kind) :: members)) =
      [.text (.ok kind)] := by
    rw [Json.draftMembers, Draft.kinds_cons rfl, only]
    rfl
  constructor
  · intro whole
    have sound := Json.fault_draft (.object (("kind", .text kind) :: members))
    refine checkValue_declared_object.mpr ⟨_, e, oneKind, isKind, sound, ?_⟩
    exact checkValue_object.mpr ((accepts_written each).cons_unknown rfl unknown rfl)
  · rw [← picked]
    exact Declaration.ofDraft_eq_ofBody (Declaration.splitKind_object oneKind) isKind

/-- Declared types read back as the kind they are written with. -/
theorem Declaration.readsAs_toJson {d : Declaration} (carried : ∀ f ∈ d.inputFields, f.Carried) :
    d.toJson.ReadsAs false .declaration Declaration.ofDraft d := by
  cases d with
  | enum name description values =>
    have noted := optionalText description
    have values := list (n := false) fun v (_ : v ∈ values) => v.readsAs_toJson
    refine declared rfl (by decide) rfl ?_ ?_
    · exact .cons ⟨rfl, fun _ => rfl⟩ <| .cons ⟨rfl, noted.accepted⟩ <|
        .cons ⟨rfl, values.accepted⟩ .nil
    · simp only [ofBody, Declaration.enum.injEq]
      exact ⟨rfl, noted.picked, values.picked⟩
  | inputObject name description fields =>
    have noted := optionalText description
    have fields := list (n := false) fun f membership =>
      InputField.readsAs_toJson (carried f membership)
    refine declared rfl (by decide) rfl ?_ ?_
    · exact .cons ⟨rfl, fun _ => rfl⟩ <| .cons ⟨rfl, noted.accepted⟩ <|
        .cons ⟨rfl, fields.accepted⟩ .nil
    · simp only [ofBody, Declaration.inputObject.injEq]
      exact ⟨rfl, noted.picked, fields.picked⟩
  | scalar name description =>
    have noted := optionalText description
    refine declared rfl (by decide) rfl ?_ ?_
    · exact .cons ⟨rfl, fun _ => rfl⟩ <| .cons ⟨rfl, noted.accepted⟩ .nil
    · simp only [ofBody, Declaration.scalar.injEq]
      exact ⟨rfl, noted.picked⟩

theorem Declaration.carried_ofDraft {whole : Bool} {d : Draft}
    (accepted : checkValue whole false .declaration d = .ok ()) :
    ∀ f ∈ (Declaration.ofDraft d).inputFields, f.Carried := by
  -- only input objects have fields with default values
  obtain ⟨e, body, picked, accepted⟩ := accepted_declaration accepted
  rw [picked]
  by_cases isInput : e = .inputObjectType
  · subst isInput
    intro f membership
    obtain ⟨item, inItems, rfl⟩ := List.mem_map.mp membership
    have isKey : Key.defaulted "fields" (.listOf (.entity .inputField)) ∈
        Entity.inputObjectType.keys := by decide
    exact InputField.carried_ofDraft (accepted_items_member accepted isKey rfl item inItems)
  · cases e with
    | inputObjectType => exact absurd rfl isInput
    | _ => simp [ofBody, inputFields]

/-! ## Documents -/

/-- Documents read back if the default values in them do. -/
theorem Document.readsAs_toJson {d : Document} (carried : d.Carried) :
    d.toJson.ReadsAs false (.entity .document) Document.pick d := by
  have operations := list (n := false) fun o (_ : o ∈ d.operations) => o.readsAs_toJson
  have fragments := list (n := false) fun f (_ : f ∈ d.fragments) => f.readsAs_toJson
  have declarations := list (n := false) fun declared membership =>
    Declaration.readsAs_toJson (carried declared membership)
  constructor
  · intro whole
    refine checkValue_written ?_
    exact .cons ⟨rfl, operations.accepted⟩ <| .cons ⟨rfl, fragments.accepted⟩ <|
      .cons ⟨rfl, declarations.accepted⟩ .nil
  · cases d
    simp only [Document.pick, Document.mk.injEq]
    exact ⟨operations.picked, fragments.picked, declarations.picked⟩

/-- A document that was read has no default value that is null or not in canonical form. -/
theorem Document.carried_ofDraft {a : Draft} {d : Document} (read : Document.ofDraft a = .ok d) :
    d.Carried := by
  obtain ⟨accepted, picked⟩ := Result.check_eq_ok.mp read
  cases picked
  intro declared membership
  obtain ⟨item, inItems, rfl⟩ := List.mem_map.mp membership
  have isKey : Key.defaulted "typesUsed" (.listOf .declaration) ∈ Entity.document.keys := by decide
  exact Declaration.carried_ofDraft (accepted_items_member accepted isKey rfl item inItems)

/-- A document is read back from its JSON form, unless one of its default values is null or not in
canonical form.  It is read back from every text with the lexemes of that form, and so from the
text that is printed for it, except that doubles are left out there.  A document that was read from
a text has no default value that is null or not in canonical form. -/
theorem Document.round_trip :
    (∀ d : Document, d.Carried → Document.ofJson d.toJson = .ok d ∧
      (∀ s : String, Json.tokens s.toList = d.toJson.lexemes →
        d.toJson.draft.nesting ≤ Draft.maxDepth → Document.ofText s = .ok d) ∧
      (d.toJson.isExact = true → d.toJson.draft.nesting ≤ Draft.maxDepth →
        Document.ofText d.toJson.compact = .ok d)) ∧
    ∀ (s : String) (d : Document), Document.ofText s = .ok d → d.Carried := by
  constructor
  · intro d carried
    have reads := Document.readsAs_toJson carried
    have back : Document.ofDraft d.toJson.draft = .ok d := by
      refine Result.check_eq_ok.mpr ⟨reads.accepted false, ?_⟩
      exact congrArg Except.ok reads.picked
    have texts (s : String) (written : Json.tokens s.toList = d.toJson.lexemes)
        (shallow : d.toJson.draft.nesting ≤ Draft.maxDepth) : Document.ofText s = .ok d := by
      rw [Document.ofText_eq_ofDraft (Json.ofText_lexemes written) shallow]
      exact back
    exact ⟨back, texts, fun exact => texts _ (Json.tokens_compact exact)⟩
  · intro s d read
    obtain ⟨document, picked, closed⟩ := Result.bind_eq_ok.mp read
    split at closed
    next => cases closed
    next =>
      cases closed
      exact Document.carried_ofDraft picked

namespace Sample

/-- A field with some list of nested fields or with none. -/
def fieldWith (fields : Option (List Field)) : Field :=
  { responseName := "hero", fieldName := "hero", typeName := "Character", description := none
    isDeprecated := none, deprecationReason := none, fields, fragmentSpreads := none
    inlineFragments := none, conditions := none }

/-- No list of nested fields, an empty one, and both of them one level below. -/
def nestedLists : Document :=
  { operations :=
      [{ operationName := "Hero", operationType := "query", parameters := [], source := ""
         fields := [fieldWith none, fieldWith (some []),
           fieldWith (some [fieldWith none, fieldWith (some [])])]
         filePath := "Hero.graphql", fragmentsReferenced := [], operationId := "" }]
    declarations :=
      [.inputObject "Page" none
        [⟨"order", none, "Order", some (.object [("by", .text "a\n\"b\""), ("from", .nat 10)])⟩]] }

/-- A printed document with absent and empty lists, and with escapes in a default value, is read
back. -/
theorem round_trip_nestedLists :
    nestedLists.Carried ∧ Document.ofJson nestedLists.toJson = .ok nestedLists ∧
      Document.ofText nestedLists.toJson.compact = .ok nestedLists := by
  have carried : nestedLists.Carried := by
    intro declared membership f inFields v default
    cases List.mem_singleton.mp membership
    cases List.mem_singleton.mp inFields
    cases default
    refine ⟨by simp, .object (by decide) ?_⟩
    simp [Json.Sorted.text, Json.Sorted.number, Json.nat]
  obtain ⟨value, _, printed⟩ := Document.round_trip.1 nestedLists carried
  exact ⟨carried, value, printed (by decide +kernel) (by decide +kernel)⟩

end Sample

end QueryModel
