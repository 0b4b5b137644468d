import Mathlib.Data.List.Nodup
import Mathlib.Data.List.Forall2
import QueryModel.Document.Decode
import QueryModel.Result
import QueryModel.Dict
import QueryModel.Proofs.Json.Values

/-!
# Accepted drafts

The check of the format walks a draft in the order of the text.  Whether it passes does
not depend on that order.  An object is accepted as an entity exactly when

* every key can be read, the value of an unknown key can be skipped, and the value of a
  known key is accepted by that key,
* no known key stands twice, under whichever of its names,
* every required key is there,
* the object closes.

This is `AcceptsObject`.  `Draft.known` keeps of an object what the entity reads: the
values of the known keys, under their main names.  Picking looks them up there
(`memberIn_eq_lookup`).

A declared type adds that it can be read whole and that it has exactly one kind
(`checkValue_declared_object`).
-/

namespace QueryModel

open Json (Draft Fault Reading)
open Json.Draft (readFault)

/-! ## Lexemes -/

section

variable {α : Type} {r : Reading α}

theorem readLexeme_eq_ok {a : α} : readLexeme r = .ok a ↔ r.read = .ok a := by
  rw [readLexeme]
  cases r.read with
  | ok b => simp
  | error fault => simp

theorem noFault_eq_ok {fault : Option Fault} {u : Unit} : noFault fault = .ok u ↔ fault = none := by
  cases fault with
  | none => simp [noFault]
  | some fault => simp [noFault]

theorem readFault_eq_none : readFault r = none ↔ ∃ a, r.read = .ok a := by
  rw [readFault]
  cases r.read with
  | ok a => simp
  | error fault => simp

end

/-! ## Keys -/

namespace Entity

/-- No two keys of an entity have the same main name. -/
theorem nodup_keys (e : Entity) : (e.keys.map (·.name)).Nodup := by
  cases e <;> decide

theorem mem_keys_of_key? {e : Entity} {written : String} {k : Key}
    (found : e.key? written = some k) : k ∈ e.keys := List.mem_of_find?_eq_some found

/-- Main names tell keys apart. -/
theorem key_eq_of_name {e : Entity} {k k' : Key} (key : k ∈ e.keys) (key' : k' ∈ e.keys)
    (same : k.name = k'.name) : k = k' := List.inj_on_of_nodup_map e.nodup_keys key key' same

/-- The main name of a key leads to its position. -/
theorem getElem?_findIdx {e : Entity} {k : Key} (key : k ∈ e.keys) :
    e.keys[e.keys.findIdx (·.name == k.name)]? = some k := by
  have there : e.keys.findIdx (·.name == k.name) < e.keys.length :=
    List.findIdx_lt_length_of_exists ⟨k, key, by simp⟩
  have same : e.keys[e.keys.findIdx (·.name == k.name)] = k := by
    refine key_eq_of_name (List.getElem_mem there) key ?_
    simpa using List.findIdx_getElem (w := there)
  rw [List.getElem?_eq_getElem there, same]

end Entity

namespace Json.Draft

variable {e : Entity} {name : String} {members rest : List (Reading String × Draft)}

/-- The key of an entity that a written key stands for. -/
def keyOf? (e : Entity) (key : Reading String) : Option Key :=
  match key.read with
  | .ok written => e.key? written
  | .error _ => none

theorem keyOf?_eq {key : Reading String} {written : String} (read : key.read = .ok written) :
    keyOf? e key = e.key? written := by
  rw [keyOf?, read]

theorem keyOf?_eq_some {key : Reading String} {k : Key} :
    keyOf? e key = some k ↔ ∃ written, key.read = .ok written ∧ e.key? written = some k := by
  rw [keyOf?]
  cases key.read with
  | ok written => simp
  | error fault => simp

theorem isKey_eq (key : Reading String) :
    isKey e name key = (keyOf? e key).any (·.name == name) := by
  rw [isKey, keyOf?]
  cases key.read with
  | ok written => rfl
  | error fault => rfl

/-- The values of the known keys of an entity, under their main names. -/
def known (e : Entity) (members : List (Reading String × Draft)) : List (String × Draft) :=
  members.filterMap fun m => (keyOf? e m.1).map fun k => (k.name, m.2)

theorem known_cons_unknown {m : Reading String × Draft} (unknown : keyOf? e m.1 = none) :
    known e (m :: rest) = known e rest := by
  simp [known, unknown]

theorem known_cons_key {m : Reading String × Draft} {k : Key} (found : keyOf? e m.1 = some k) :
    known e (m :: rest) = (k.name, m.2) :: known e rest := by
  simp [known, found]

/-- What an entity knows of an object are the values under its keys, whichever name is written. -/
theorem mem_known {value : Draft} : (name, value) ∈ known e members ↔
    ∃ key k, (key, value) ∈ members ∧ keyOf? e key = some k ∧ k.name = name := by
  simp [known]

/-- Picking a value is looking its key up among the known ones. -/
theorem memberIn_eq_lookup :
    memberIn e name members = ((known e members).lookup name).getD .null := by
  induction members with
  | nil => rfl
  | cons m rest ih =>
    obtain ⟨key, value⟩ := m
    rw [memberIn, isKey_eq]
    cases found : keyOf? e key with
    | none =>
      rw [known_cons_unknown found, ← ih]
      rfl
    | some k =>
      rw [known_cons_key found, List.lookup_cons, Bool.beq_comm, Option.any_some]
      cases k.name == name with
      | true => rfl
      | false => exact ih

end Json.Draft

/-! ## Objects -/

/-- A member that the check of an entity passes. -/
inductive AcceptsMember (whole : Bool) (e : Entity) : Reading String × Draft → Prop
  /-- The value of an unknown key can be skipped. -/
  | skipped {key : Reading String} {written : String} {value : Draft}
      (read : key.read = .ok written) (unknown : e.key? written = none)
      (sound : value.skip = none) :
      AcceptsMember whole e (key, value)
  /-- The value of a known key is accepted by the key. -/
  | known {key : Reading String} {written : String} {value : Draft} {k : Key}
      (read : key.read = .ok written) (found : e.key? written = some k)
      (accepted : checkValue whole k.nullable k.kind value = .ok ()) :
      AcceptsMember whole e (key, value)

section

variable {whole nullable : Bool} {e : Entity} {members : List (Reading String × Draft)}
  {closing : Reading Unit}

section

variable {seen : List String} {key : Reading String} {k : Key} {value : Draft}
  {rest : List (Reading String × Draft)}

/-- The value of an unknown key is skipped, so it need not be readable. -/
theorem checkMembers_unknown {written : String} (read : key.read = .ok written)
    (unknown : e.key? written = none) :
    checkMembers whole e seen ((key, value) :: rest) = (do
      noFault value.skip
      checkMembers whole e seen rest) := by
  simp only [checkMembers, readLexeme_eq_ok.mpr read, Result.ok_bind, unknown]

/-- The value of a known key is checked before the members after it. -/
theorem checkMembers_key (found : Draft.keyOf? e key = some k) (fresh : k.name ∉ seen) :
    checkMembers whole e seen ((key, value) :: rest) = (do
      checkValue whole k.nullable k.kind value
      checkMembers whole e (k.name :: seen) rest) := by
  obtain ⟨written, read, isKey⟩ := Draft.keyOf?_eq_some.mp found
  have notSeen : seen.contains k.name = false := by simpa using fresh
  simp only [checkMembers, readLexeme_eq_ok.mpr read, Result.ok_bind, isKey, notSeen]
  rfl

/-- A known key that stands again is refused before its value is looked at. -/
theorem checkMembers_again (found : Draft.keyOf? e key = some k) (again : k.name ∈ seen) :
    checkMembers whole e seen ((key, value) :: rest) =
      .error (.mismatch (.duplicateField k.name)) := by
  obtain ⟨written, read, isKey⟩ := Draft.keyOf?_eq_some.mp found
  have seenAlready : seen.contains k.name = true := by simpa using again
  simp only [checkMembers, readLexeme_eq_ok.mpr read, Result.ok_bind, isKey, seenAlready]
  rfl

end

/-- The check of members passes if each of them is accepted and no known key stands twice.  It gives
back the known keys, the last one first, before those seen earlier. -/
theorem checkMembers_eq_ok {seen all : List String} :
    checkMembers whole e seen members = .ok all ↔
      (∀ m ∈ members, AcceptsMember whole e m) ∧
      ((Draft.known e members).map Prod.fst).Nodup ∧
      (∀ name ∈ (Draft.known e members).map Prod.fst, name ∉ seen) ∧
      all = ((Draft.known e members).map Prod.fst).reverse ++ seen := by
  induction members generalizing seen all with
  | nil =>
    rw [checkMembers]
    simp [Draft.known, eq_comm]
  | cons m rest ih =>
    obtain ⟨key, value⟩ := m
    rw [List.forall_mem_cons]
    constructor
    · intro passed
      -- the key is read before anything is known of it
      have readable := passed
      rw [checkMembers] at readable
      obtain ⟨written, read, _⟩ := Result.bind_eq_ok.mp readable
      rw [readLexeme_eq_ok] at read
      cases found : e.key? written with
      | none =>
        rw [checkMembers_unknown read found] at passed
        obtain ⟨sound, passed⟩ := Result.check_eq_ok.mp passed
        obtain ⟨accepted, distinct, fresh, rfl⟩ := ih.mp passed
        rw [Draft.known_cons_unknown (by rw [Draft.keyOf?_eq read, found])]
        exact ⟨⟨.skipped read found (noFault_eq_ok.mp sound), accepted⟩, distinct, fresh, rfl⟩
      | some k =>
        have isKey : Draft.keyOf? e key = some k := by rw [Draft.keyOf?_eq read, found]
        by_cases again : k.name ∈ seen
        · rw [checkMembers_again isKey again] at passed
          cases passed
        · rw [checkMembers_key isKey again] at passed
          obtain ⟨sound, passed⟩ := Result.check_eq_ok.mp passed
          obtain ⟨accepted, distinct, others, rfl⟩ := ih.mp passed
          rw [Draft.known_cons_key isKey]
          refine ⟨⟨.known read found sound, accepted⟩, ?_, ?_, by simp⟩
          · exact List.nodup_cons.mpr ⟨fun twice => others _ twice List.mem_cons_self, distinct⟩
          · refine List.forall_mem_cons.mpr ⟨again, ?_⟩
            intro name membership inSeen
            exact others name membership (List.mem_cons_of_mem _ inSeen)
    · rintro ⟨⟨accepted, others⟩, distinct, fresh, rfl⟩
      cases accepted with
      | skipped read unknown sound =>
        rw [Draft.known_cons_unknown (by rw [Draft.keyOf?_eq read, unknown])] at distinct fresh ⊢
        rw [checkMembers_unknown read unknown, Result.check_eq_ok, noFault_eq_ok]
        exact ⟨sound, ih.mpr ⟨others, distinct, fresh, rfl⟩⟩
      | @known _ _ _ k read found sound =>
        have isKey : Draft.keyOf? e key = some k := by rw [Draft.keyOf?_eq read, found]
        rw [Draft.known_cons_key isKey] at distinct fresh ⊢
        simp only [List.map_cons, List.nodup_cons, List.forall_mem_cons] at distinct fresh
        rw [checkMembers_key isKey fresh.1, Result.check_eq_ok]
        refine ⟨sound, ih.mpr ⟨others, distinct.2, ?_, by simp⟩⟩
        intro name membership inSeen
        -- a later name is neither this one nor an earlier one
        rcases List.mem_cons.mp inSeen with rfl | before
        · exact distinct.1 membership
        · exact fresh.2 name membership before

theorem requireKeys_eq_ok {seen : List String} :
    requireKeys e seen = .ok () ↔ ∀ k ∈ e.keys, k.required = true → k.name ∈ seen := by
  rw [requireKeys]
  cases missing : e.keys.find? fun k => k.required && !seen.contains k.name with
  | none =>
    simp only [List.find?_eq_none] at missing
    simpa using missing
  | some k =>
    have lacks := List.find?_some missing
    have key := List.mem_of_find?_eq_some missing
    simp only [reduceCtorEq, false_iff, not_forall]
    simp at lacks
    exact ⟨k, key, lacks.1, lacks.2⟩

/-- An object that is accepted as an entity, whatever the order of its members. -/
structure AcceptsObject (whole : Bool) (e : Entity) (members : List (Reading String × Draft))
    (closing : Reading Unit) : Prop where
  /-- Every member is accepted. -/
  accepted : ∀ m ∈ members, AcceptsMember whole e m
  /-- No known key stands twice. -/
  distinct : ((Draft.known e members).map Prod.fst).Nodup
  /-- Every required key is there. -/
  complete : ∀ k ∈ e.keys, k.required = true → k.name ∈ (Draft.known e members).map Prod.fst
  /-- The object closes. -/
  closes : readFault closing = none

/-- An object passes the check of an entity exactly when the entity accepts it. -/
theorem checkValue_object :
    checkValue whole nullable (.entity e) (.object members closing) = .ok () ↔
      AcceptsObject whole e members closing := by
  simp only [checkValue, Result.bind_eq_ok, checkMembers_eq_ok, noFault_eq_ok, exists_const,
    requireKeys_eq_ok]
  constructor
  · rintro ⟨_, ⟨accepted, distinct, _, rfl⟩, closes, complete⟩
    exact ⟨accepted, distinct, by simpa using complete, closes⟩
  · rintro ⟨accepted, distinct, complete, closes⟩
    exact ⟨_, ⟨accepted, distinct, by simp, rfl⟩, closes, by simpa using complete⟩

/-- A value in an accepted object is accepted by the key that it stands under. -/
theorem AcceptsObject.checked {key : Reading String} {k : Key} {value : Draft}
    (accepts : AcceptsObject whole e members closing)
    (membership : (key, value) ∈ members) (found : Draft.keyOf? e key = some k) :
    checkValue whole k.nullable k.kind value = .ok () := by
  cases accepts.accepted _ membership with
  | skipped read unknown _ =>
    rw [Draft.keyOf?_eq read, unknown] at found
    cases found
  | known read isKey accepted =>
    rw [Draft.keyOf?_eq read, isKey] at found
    cases found
    exact accepted

/-- A member of an unknown key that can be skipped does not matter. -/
theorem AcceptsObject.cons_unknown {key : Reading String} {written : String} {value : Draft}
    (accepts : AcceptsObject whole e members closing) (read : key.read = .ok written)
    (unknown : e.key? written = none) (sound : value.skip = none) :
    AcceptsObject whole e ((key, value) :: members) closing := by
  have same : Draft.known e ((key, value) :: members) = Draft.known e members :=
    Draft.known_cons_unknown (by rw [Draft.keyOf?_eq read, unknown])
  refine ⟨?_, ?_, ?_, accepts.closes⟩
  · exact List.forall_mem_cons.mpr ⟨.skipped read unknown sound, accepts.accepted⟩
  · rw [same]
    exact accepts.distinct
  · rw [same]
    exact accepts.complete

end

/-! ## Arrays -/

section

variable {whole nullable : Bool} {kind : ValueKind} {e : Entity} {items : List Draft}
  {closing : Reading Unit}

theorem checkItems_eq_ok : checkItems whole kind items = .ok () ↔
    ∀ item ∈ items, checkValue whole false kind item = .ok () := by
  induction items with
  | nil =>
    rw [checkItems]
    simp
  | cons item rest ih =>
    rw [checkItems, Result.check_eq_ok, List.forall_mem_cons, ih]

theorem checkValue_list : checkValue whole nullable (.listOf kind) (.array items closing) = .ok () ↔
    (∀ item ∈ items, checkValue whole false kind item = .ok ()) ∧ readFault closing = none := by
  rw [checkValue, Result.check_eq_ok, checkItems_eq_ok, noFault_eq_ok]

/-- An array may end where no key after its last value is required. -/
theorem requirePositions_eq_ok {keys : List Key} {index : Nat} :
    requirePositions e keys index = .ok () ↔ ∀ k ∈ keys, k.required = false := by
  rw [requirePositions]
  cases missing : keys.findIdx? (·.required) with
  | none => simpa using List.findIdx?_eq_none_iff.mp missing
  | some i =>
    obtain ⟨within, required, _⟩ := List.findIdx?_eq_some_iff_getElem.mp missing
    simp only [reduceCtorEq, false_iff, not_forall]
    exact ⟨keys[i], List.getElem_mem within, by simpa using required⟩

/-- Values that are accepted for keys, position by position. -/
structure AcceptsPositions (whole : Bool) (keys : List Key) (items : List Draft)
    (closing : Reading Unit) : Prop where
  /-- There is a key for every value. -/
  fits : items.length ≤ keys.length
  /-- Every value is accepted by the key at its place. -/
  accepted : ∀ (i : Nat) (k : Key) (item : Draft), keys[i]? = some k → items[i]? = some item →
    checkValue whole k.nullable k.kind item = .ok ()
  /-- No key without a value is required. -/
  complete : ∀ k ∈ keys.drop items.length, k.required = false
  /-- The array closes. -/
  closes : readFault closing = none

/-- The check of an array passes exactly when its values are accepted position by position. -/
theorem checkPositions_eq_ok {keys : List Key} {index : Nat} :
    checkPositions whole e closing keys index items = .ok () ↔
      AcceptsPositions whole keys items closing := by
  induction items generalizing keys index with
  | nil =>
    rw [checkPositions, Result.check_eq_ok, noFault_eq_ok, requirePositions_eq_ok]
    constructor
    · rintro ⟨closes, complete⟩
      exact ⟨by simp, by simp, by simpa using complete, closes⟩
    · intro accepts
      exact ⟨accepts.closes, by simpa using accepts.complete⟩
  | cons item rest ih =>
    cases keys with
    | nil =>
      rw [checkPositions]
      constructor
      · intro passed
        cases passed
      · intro accepts
        have := accepts.fits
        simp at this
    | cons k keys =>
      rw [checkPositions, Result.check_eq_ok]
      constructor
      · rintro ⟨first, others⟩
        obtain ⟨fits, accepted, complete, closes⟩ := ih.mp others
        refine ⟨by simpa using fits, ?_, by simpa using complete, closes⟩
        intro i k' item' atKey atItem
        cases i with
        | zero =>
          cases atKey
          cases atItem
          exact first
        | succ i => exact accepted i k' item' atKey atItem
      · rintro ⟨fits, accepted, complete, closes⟩
        refine ⟨accepted 0 k item rfl rfl, ih.mpr ⟨by simpa using fits, ?_, ?_, closes⟩⟩
        · intro i k' item' atKey atItem
          exact accepted (i + 1) k' item' atKey atItem
        · simpa using complete

/-- An entity may also be written as an array of values, in the order of its keys. -/
theorem checkValue_array : checkValue whole nullable (.entity e) (.array items closing) = .ok () ↔
    AcceptsPositions whole e.keys items closing := by
  rw [checkValue]
  exact checkPositions_eq_ok

end

/-! ## Values of keys -/

section

variable {whole nullable : Bool} {kind : ValueKind} {e : Entity} {d : Draft}

theorem accepted_items (accepted : checkValue whole nullable (.listOf kind) d = .ok ()) :
    ∀ item ∈ d.items, checkValue whole false kind item = .ok () := by
  cases d with
  | array items closing => exact (checkValue_list.mp accepted).1
  | _ => simp [Draft.items]

/-- In an accepted entity the value of a key is missing or accepted by the key. -/
theorem accepted_member (accepted : checkValue whole nullable (.entity e) d = .ok ()) {k : Key}
    (key : k ∈ e.keys) : d.member e k.name = .null ∨
      checkValue whole k.nullable k.kind (d.member e k.name) = .ok () := by
  cases d with
  | object members closing =>
    rw [Draft.member, Draft.memberIn_eq_lookup]
    cases found : (Draft.known e members).lookup k.name with
    | none => exact .inl rfl
    | some value =>
      right
      obtain ⟨written, k', membership, isKey, sameName⟩ :=
        Draft.mem_known.mp (mem_of_lookup_eq_some found)
      obtain ⟨_, _, inTable⟩ := Draft.keyOf?_eq_some.mp isKey
      cases Entity.key_eq_of_name (Entity.mem_keys_of_key? inTable) key sameName
      exact (checkValue_object.mp accepted).checked membership isKey
  | array items closing =>
    rw [Draft.member]
    cases found : items[e.keys.findIdx (·.name == k.name)]? with
    | none => exact .inl rfl
    | some item =>
      right
      exact (checkValue_array.mp accepted).accepted _ k item (Entity.getElem?_findIdx key) found
  | _ => exact .inl rfl

/-- In an accepted entity the items of a list under a key are accepted. -/
theorem accepted_items_member (accepted : checkValue whole nullable (.entity e) d = .ok ())
    {k : Key} (key : k ∈ e.keys) (isList : k.kind = .listOf kind) :
    ∀ item ∈ (d.member e k.name).items, checkValue whole false kind item = .ok () := by
  rcases accepted_member accepted key with absent | checked
  · rw [absent]
    simp [Draft.items]
  · rw [isList] at checked
    exact accepted_items checked

/-- A value of any kind is accepted if all of it can be read. -/
theorem checkValue_anything : checkValue whole nullable .anything d = .ok () ↔ d.fault = none := by
  cases d with
  | null =>
    cases nullable with
    | true => exact iff_of_true rfl rfl
    | false => exact iff_of_true rfl rfl
  | cut first whole => simp [checkValue, Draft.fault]
  | _ => simp [checkValue, Draft.fault, noFault_eq_ok]

end

/-! ## Declared types -/

namespace Json.Draft

/-- The values under the kind of a declared type. -/
def kinds (members : List (Reading String × Draft)) : List Draft :=
  (members.filter fun m =>
    match m.1.read with
    | .ok written => written == "kind"
    | .error _ => false).map Prod.snd

theorem kinds_cons {key : Reading String} {written : String} {value : Draft}
    {rest : List (Reading String × Draft)} (read : key.read = .ok written) :
    kinds ((key, value) :: rest) =
      if written = "kind" then value :: kinds rest else kinds rest := by
  by_cases isKind : written = "kind"
  · simp [kinds, read, isKind]
  · simp [kinds, read, isKind]

end Json.Draft

/-- The entities that are declared types. -/
abbrev Entity.Declared (e : Entity) : Prop := e ∈ declarationKinds.map Prod.snd

/-- The kinds that can be written are those of the declared types. -/
theorem declared_of_declarationKind {tag : Draft} {e : Entity}
    (isKind : declarationKind tag = .ok e) : e.Declared := by
  cases tag with
  | text s =>
    obtain ⟨word, _, found⟩ := Result.bind_eq_ok.mp isKind
    cases known : declarationKinds.lookup word with
    | none =>
      rw [known] at found
      cases found
    | some e' =>
      rw [known] at found
      cases found
      exact List.mem_map.mpr ⟨_, mem_of_lookup_eq_some known, rfl⟩
  | _ => cases isKind

theorem fault_of_declarationKind {d : Draft} {e : Entity} (found : declarationKind d = .ok e) :
    d.fault = none := by
  cases d with
  | text s =>
    obtain ⟨word, read, _⟩ := Result.bind_eq_ok.mp found
    exact readFault_eq_none.mpr ⟨word, readLexeme_eq_ok.mp read⟩
  | _ => cases found

/-- A declared type has a kind if it can be read whole and has exactly one value for it. -/
theorem findKind_eq_ok {found : Option Entity} {members : List (Reading String × Draft)}
    {e : Entity} : findKind found members = .ok (some e) ↔
      Draft.faultMembers members = none ∧
      (found = some e ∧ Draft.kinds members = [] ∨
        found = none ∧ ∃ kind, Draft.kinds members = [kind] ∧ declarationKind kind = .ok e) := by
  -- once a kind is found there must be no other, so the two cases feed each other
  induction members generalizing found with
  | nil =>
    rw [findKind]
    simp [Draft.faultMembers, Draft.kinds]
  | cons m rest ih =>
    obtain ⟨key, value⟩ := m
    rw [findKind, Result.bind_eq_ok]
    simp only [readLexeme_eq_ok]
    constructor
    · rintro ⟨written, read, passed⟩
      have readable : readFault key = none := readFault_eq_none.mpr ⟨written, read⟩
      rw [Draft.kinds_cons read, Draft.faultMembers]
      split at passed
      next isKind =>
        cases found with
        | some e' => cases passed
        | none =>
          obtain ⟨e', isDeclared, passed⟩ := Result.bind_eq_ok.mp passed
          obtain ⟨sound, ⟨same, noMore⟩ | ⟨absent, _⟩⟩ := ih.mp passed
          · cases same
            rw [if_pos isKind, noMore, readable, fault_of_declarationKind isDeclared, sound]
            exact ⟨rfl, .inr ⟨rfl, value, rfl, isDeclared⟩⟩
          · cases absent
      next notKind =>
        obtain ⟨soundValue, passed⟩ := Result.check_eq_ok.mp passed
        obtain ⟨sound, kinds⟩ := ih.mp passed
        rw [if_neg notKind, readable, noFault_eq_ok.mp soundValue, sound]
        exact ⟨rfl, kinds⟩
    · rintro ⟨sound, kinds⟩
      rw [Draft.faultMembers_eq_none, List.forall_mem_cons, ← Draft.faultMembers_eq_none] at sound
      obtain ⟨⟨readable, soundValue⟩, sound⟩ := sound
      obtain ⟨written, read⟩ := readFault_eq_none.mp readable
      rw [Draft.kinds_cons read] at kinds
      refine ⟨written, read, ?_⟩
      split
      next isKind =>
        rw [if_pos isKind] at kinds
        obtain ⟨_, absent⟩ | ⟨rfl, kind, only, isDeclared⟩ := kinds
        · cases absent
        · obtain ⟨rfl, noMore⟩ := List.cons.inj only
          exact Result.bind_eq_ok.mpr ⟨e, isDeclared, ih.mpr ⟨sound, .inl ⟨rfl, noMore⟩⟩⟩
      next notKind =>
        rw [if_neg notKind] at kinds
        exact Result.check_eq_ok.mpr ⟨noFault_eq_ok.mpr soundValue, ih.mpr ⟨sound, kinds⟩⟩

section

variable {whole nullable : Bool} {closing : Reading Unit}

/-- A declared type is checked as an entity of its kind. -/
theorem checkValue_of_kind {members : List (Reading String × Draft)} {kind : Draft} {e : Entity}
    (only : Draft.kinds members = [kind]) (isKind : declarationKind kind = .ok e)
    (sound : (Draft.object members closing).fault = none) :
    checkValue whole nullable .declaration (.object members closing) =
      checkValue true nullable (.entity e) (.object members closing) := by
  rw [Draft.fault, Option.or_eq_none_iff] at sound
  have found : findKind none members = .ok (some e) :=
    findKind_eq_ok.mpr ⟨sound.1, .inr ⟨rfl, kind, only, isKind⟩⟩
  rw [checkValue, checkValue, found, sound.2]
  rfl

/-- A declared type that is written as an array has its kind in front. -/
theorem checkValue_of_tag {items : List Draft} {tag : Draft} {e : Entity}
    (isKind : declarationKind tag = .ok e) (sound : (Draft.array items closing).fault = none) :
    checkValue whole nullable .declaration (.array (tag :: items) closing) =
      checkValue true nullable (.entity e) (.array items closing) := by
  rw [Draft.fault] at sound
  simp only [checkValue]
  rw [isKind, sound]
  rfl

/-- An object is accepted as a declared type if it has one kind, can be read whole and is accepted
as an entity of that kind. -/
theorem checkValue_declared_object {members : List (Reading String × Draft)} :
    checkValue whole nullable .declaration (.object members closing) = .ok () ↔
      ∃ kind e, Draft.kinds members = [kind] ∧ declarationKind kind = .ok e ∧
        (Draft.object members closing).fault = none ∧
        checkValue true nullable (.entity e) (.object members closing) = .ok () := by
  constructor
  · intro accepted
    have passed := accepted
    rw [checkValue] at passed
    obtain ⟨found, foundKind, passed⟩ := Result.bind_eq_ok.mp passed
    obtain ⟨closes, passed⟩ := Result.check_eq_ok.mp passed
    obtain ⟨e, required, _⟩ := Result.bind_eq_ok.mp passed
    cases found with
    | none => cases required
    | some e' =>
      obtain ⟨sound, ⟨absent, _⟩ | ⟨_, kind, only, isKind⟩⟩ := findKind_eq_ok.mp foundKind
      · cases absent
      · have soundWhole : (Draft.object members closing).fault = none := by
          rw [Draft.fault, sound, noFault_eq_ok.mp closes]
          rfl
        rw [checkValue_of_kind only isKind soundWhole] at accepted
        exact ⟨kind, e', only, isKind, soundWhole, accepted⟩
  · rintro ⟨kind, e, only, isKind, sound, accepted⟩
    rw [checkValue_of_kind only isKind sound]
    exact accepted

theorem checkValue_declared_array {tag : Draft} {rest : List Draft} :
    checkValue whole nullable .declaration (.array (tag :: rest) closing) = .ok () ↔
      ∃ e, declarationKind tag = .ok e ∧ (Draft.array rest closing).fault = none ∧
        checkValue true nullable (.entity e) (.array rest closing) = .ok () := by
  simp only [checkValue, Result.bind_eq_ok, noFault_eq_ok, exists_const, Draft.fault]

/-- The check of an accepted declared type, when its kind is known. -/
theorem accepted_of_kind {members : List (Reading String × Draft)} {kind : Draft} {e : Entity}
    (only : Draft.kinds members = [kind]) (isKind : declarationKind kind = .ok e)
    (accepted : checkValue whole nullable .declaration (.object members closing) = .ok ()) :
    (Draft.object members closing).fault = none ∧
      checkValue true nullable (.entity e) (.object members closing) = .ok () := by
  obtain ⟨kind', e', only', isKind', sound, checked⟩ := checkValue_declared_object.mp accepted
  cases only.symm.trans only'
  cases isKind.symm.trans isKind'
  exact ⟨sound, checked⟩

theorem accepted_of_tag {tag : Draft} {items : List Draft} {e : Entity}
    (isKind : declarationKind tag = .ok e)
    (accepted : checkValue whole nullable .declaration (.array (tag :: items) closing) = .ok ()) :
    (Draft.array items closing).fault = none ∧
      checkValue true nullable (.entity e) (.array items closing) = .ok () := by
  obtain ⟨e', isKind', sound, checked⟩ := checkValue_declared_array.mp accepted
  cases isKind.symm.trans isKind'
  exact ⟨sound, checked⟩

end

end QueryModel
