import Mathlib.Logic.Relation
import QueryModel.Proofs.Document.Picking

/-!
# Restyled drafts

A document can be written in many ways that read the same.  In any object that is read as an
entity, the members may be reordered, members of unknown keys may be added, and a key may be
written under any of its names (`Restyle`).  `Inside` closes a change of the members of one
object under everything that a document is made of: the values of known keys, the positions of
an array form, the items of lists, and declared types.

A restyled draft is accepted if the draft is, and both are picked as the same document
(`Inside.keeps`).  What is compared is the value under each key.

A declared type is read twice, first as a whole and then for the keys of its kind.  The first
reading is stricter than skipping: a number out of range and half of a surrogate pair can be
skipped but not read.  So what is added to a declared type, or to an object inside one, has to be
readable, and it must not be another kind.  Two facts about a change matter here, the fault that
it leaves for the first reading (`Leaves`) and that it keeps the kind (`KeepsKind`).
-/

namespace QueryModel

open Json (Draft Fault Reading)
open Json.Draft (keyOf? known kinds readFault)

/-! ## Changes -/

/-- The members of an object. -/
abbrev Members := List (Reading String × Draft)

/-- A relation between the members of an object before and after a change.  The flag says that the
object is read whole beforehand, which holds inside declared types and nowhere else. -/
abbrev Change := Bool → Entity → Members → Members → Prop

/-- Whether an entity takes no notice of a key.  A declared type takes notice of its kind. -/
def Entity.Ignores (e : Entity) (written : String) : Prop :=
  e.key? written = none ∧ (e.Declared → written ≠ "kind")

/-- A change of members that does not matter to an entity. -/
inductive Restyle (whole : Bool) (e : Entity) : Members → Members → Prop
  /-- The members are reordered. -/
  | reorder {members members' : Members} (perm : members.Perm members') :
      Restyle whole e members members'
  /-- A member of an unknown key is added.  Its value is skipped, unless the object is read whole:
  then it has to be readable. -/
  | add {before after : Members} {key : Reading String} {written : String} {value : Draft}
      (read : key.read = .ok written) (ignored : e.Ignores written) (skipped : value.skip = none)
      (readable : whole = true → value.fault = none) :
      Restyle whole e (before ++ after) (before ++ (key, value) :: after)
  /-- A known key is written under another one of its names. -/
  | rename {before after : Members} {key key' : Reading String} {k : Key} {value : Draft}
      (found : keyOf? e key = some k) (found' : keyOf? e key' = some k) :
      Restyle whole e (before ++ (key, value) :: after) (before ++ (key', value) :: after)

/-- The members of one object, which is read as an entity somewhere inside a value, are changed. -/
inductive Inside (change : Change) : Bool → ValueKind → Draft → Draft → Prop
  /-- The object is the value. -/
  | here {whole : Bool} {e : Entity} {members members' : Members} {closing : Reading Unit}
      (changed : change whole e members members') :
      Inside change whole (.entity e) (.object members closing) (.object members' closing)
  /-- The object is in the value of a known key. -/
  | member {whole : Bool} {e : Entity} {before after : Members} {key : Reading String} {k : Key}
      {value value' : Draft} {closing : Reading Unit} (found : keyOf? e key = some k)
      (inner : Inside change whole k.kind value value') :
      Inside change whole (.entity e) (.object (before ++ (key, value) :: after) closing)
        (.object (before ++ (key, value') :: after) closing)
  /-- The object is at a position of the array form of an entity. -/
  | position {whole : Bool} {e : Entity} {before after : List Draft} {k : Key}
      {value value' : Draft} {closing : Reading Unit} (found : e.keys[before.length]? = some k)
      (inner : Inside change whole k.kind value value') :
      Inside change whole (.entity e) (.array (before ++ value :: after) closing)
        (.array (before ++ value' :: after) closing)
  /-- The object is in an item of a list. -/
  | item {whole : Bool} {kind : ValueKind} {before after : List Draft} {value value' : Draft}
      {closing : Reading Unit} (inner : Inside change whole kind value value') :
      Inside change whole (.listOf kind) (.array (before ++ value :: after) closing)
        (.array (before ++ value' :: after) closing)
  /-- The object is in a declared type. -/
  | declaredObject {whole : Bool} {e : Entity} {tag : Draft} {members members' : Members}
      {closing : Reading Unit} (only : kinds members = [tag]) (isKind : declarationKind tag = .ok e)
      (inner : Inside change true (.entity e) (.object members closing)
        (.object members' closing)) :
      Inside change whole .declaration (.object members closing) (.object members' closing)
  /-- The object is in the array form of a declared type. -/
  | declaredArray {whole : Bool} {e : Entity} {tag : Draft} {items items' : List Draft}
      {closing : Reading Unit} (isKind : declarationKind tag = .ok e)
      (inner : Inside change true (.entity e) (.array items closing) (.array items' closing)) :
      Inside change whole .declaration (.array (tag :: items) closing)
        (.array (tag :: items') closing)

/-! ## Objects -/

section

variable {whole : Bool} {e : Entity} {members members' before after : Members}
  {key : Reading String} {k : Key} {value value' : Draft} {closing : Reading Unit}

theorem known_append : known e (before ++ after) = known e before ++ known e after :=
  List.filterMap_append

/-- The order of the members does not matter to what is accepted. -/
theorem AcceptsObject.perm (accepts : AcceptsObject whole e members closing)
    (perm : members.Perm members') : AcceptsObject whole e members' closing := by
  have names : ((known e members).map Prod.fst).Perm ((known e members').map Prod.fst) :=
    (perm.filterMap _).map _
  refine ⟨?_, names.nodup_iff.mp accepts.distinct, ?_, accepts.closes⟩
  · intro m membership
    exact accepts.accepted m (perm.mem_iff.mpr membership)
  · intro k isKey required
    exact names.mem_iff.mp (accepts.complete k isKey required)

/-- Nor does it matter to what is picked, since no known key stands twice. -/
theorem AcceptsObject.memberIn_perm (accepts : AcceptsObject whole e members closing)
    (perm : members.Perm members') (name : String) :
    Draft.memberIn e name members = Draft.memberIn e name members' := by
  have same : (known e members).Perm (known e members') := perm.filterMap _
  have distinct : ((known e members').map Prod.fst).Nodup :=
    (same.map _).nodup_iff.mp accepts.distinct
  have lookups : (known e members).lookup name = (known e members').lookup name := by
    ext value
    rw [lookup_eq_some_iff accepts.distinct, lookup_eq_some_iff distinct, same.mem_iff]
  rw [Draft.memberIn_eq_lookup, Draft.memberIn_eq_lookup, lookups]

/-- What is accepted under a known key can be replaced, under any name of the key. -/
theorem AcceptsObject.replace {key' : Reading String}
    (accepts : AcceptsObject whole e (before ++ (key, value) :: after) closing)
    (found : keyOf? e key = some k) (found' : keyOf? e key' = some k)
    (accepted : checkValue whole k.nullable k.kind value' = .ok ()) :
    AcceptsObject whole e (before ++ (key', value') :: after) closing := by
  have names : (known e (before ++ (key', value') :: after)).map Prod.fst =
      (known e (before ++ (key, value) :: after)).map Prod.fst := by
    simp [known_append, Draft.known_cons_key (m := (key, value)) found,
      Draft.known_cons_key (m := (key', value')) found']
  refine ⟨?_, ?_, ?_, accepts.closes⟩
  · intro m membership
    rcases List.mem_append.mp membership with inBefore | inRest
    · exact accepts.accepted m (List.mem_append_left _ inBefore)
    · rcases List.mem_cons.mp inRest with rfl | inAfter
      · obtain ⟨written, read, isKey⟩ := Draft.keyOf?_eq_some.mp found'
        exact .known read isKey accepted
      · exact accepts.accepted m (List.mem_append_right _ (List.mem_cons_of_mem _ inAfter))
  · rw [names]
    exact accepts.distinct
  · rw [names]
    exact accepts.complete

/-- The value that stands under a known key is the one that is picked for it. -/
theorem AcceptsObject.memberIn_eq (accepts : AcceptsObject whole e members closing)
    (membership : (key, value) ∈ members) (found : keyOf? e key = some k) :
    Draft.memberIn e k.name members = value := by
  have isKnown := Draft.mem_known.mpr ⟨key, k, membership, found, rfl⟩
  rw [Draft.memberIn_eq_lookup, (lookup_eq_some_iff accepts.distinct).mpr isKnown]
  rfl

theorem memberIn_replace {name : String} (found : keyOf? e key = some k) (other : name ≠ k.name) :
    Draft.memberIn e name (before ++ (key, value) :: after) =
      Draft.memberIn e name (before ++ (key, value') :: after) := by
  have different : (name == k.name) = false := beq_eq_false_iff_ne.mpr other
  simp only [Draft.memberIn_eq_lookup, known_append, List.lookup_append,
    Draft.known_cons_key (m := (key, value)) found, Draft.known_cons_key (m := (key, value')) found,
    List.lookup_cons, different]

/-- An object whose value under one key is replaced by one that is picked as the same. -/
theorem AcceptsObject.same_replace
    (accepts : AcceptsObject whole e (before ++ (key, value) :: after) closing)
    (accepts' : AcceptsObject whole e (before ++ (key, value') :: after) closing)
    (found : keyOf? e key = some k) (same : k.kind.Same value value') :
    e.Same (.object (before ++ (key, value) :: after) closing)
      (.object (before ++ (key, value') :: after) closing) := by
  refine Entity.same_of_members ?_
  intro k' isKey
  rw [Draft.member, Draft.member]
  by_cases here : k'.name = k.name
  · obtain ⟨written, _, isKnown⟩ := Draft.keyOf?_eq_some.mp found
    cases Entity.key_eq_of_name isKey (Entity.mem_keys_of_key? isKnown) here
    rw [accepts.memberIn_eq (List.mem_append_right _ List.mem_cons_self) found,
      accepts'.memberIn_eq (List.mem_append_right _ List.mem_cons_self) found]
    exact same
  · rw [memberIn_replace found here]
    exact k'.kind.same_refl _

/-- A restyled object is accepted if the object is, and its values are the same. -/
theorem Restyle.keeps (restyle : Restyle whole e members members')
    (accepts : AcceptsObject whole e members closing) :
    AcceptsObject whole e members' closing ∧
      ∀ name, Draft.memberIn e name members = Draft.memberIn e name members' := by
  cases restyle with
  | reorder perm => exact ⟨accepts.perm perm, accepts.memberIn_perm perm⟩
  | @add before after key written value read ignored skipped _ =>
    -- the place of the new member does not matter, so it may as well come first
    have added := accepts.cons_unknown read ignored.1 skipped
    refine ⟨added.perm List.perm_middle.symm, ?_⟩
    intro name
    have unknown : keyOf? e (key, value).1 = none := by
      rw [Draft.keyOf?_eq read, ignored.1]
    simp only [Draft.memberIn_eq_lookup, known_append, Draft.known_cons_unknown unknown]
  | @rename before after key key' k value found found' =>
    have accepted := accepts.checked (List.mem_append_right _ List.mem_cons_self) found
    refine ⟨accepts.replace found found' accepted, ?_⟩
    intro name
    simp only [Draft.memberIn_eq_lookup, known_append,
      Draft.known_cons_key (m := (key, value)) found,
      Draft.known_cons_key (m := (key', value)) found']

end

/-! ## Arrays -/

section

variable {whole : Bool} {e : Entity} {before after : List Draft} {k : Key}
  {value value' : Draft} {closing : Reading Unit}

theorem getElem?_here : (before ++ value :: after)[before.length]? = some value := by
  rw [List.getElem?_append_right (Nat.le_refl _), Nat.sub_self]
  rfl

theorem getElem?_replace {i : Nat} {v w : Draft} (other : i ≠ before.length) :
    (before ++ v :: after)[i]? = (before ++ w :: after)[i]? := by
  grind

/-- What is accepted at a position can be replaced. -/
theorem AcceptsPositions.replace {keys : List Key}
    (accepts : AcceptsPositions whole keys (before ++ value :: after) closing)
    (found : keys[before.length]? = some k)
    (accepted : checkValue whole k.nullable k.kind value' = .ok ()) :
    AcceptsPositions whole keys (before ++ value' :: after) closing := by
  have sameLength : (before ++ value' :: after).length = (before ++ value :: after).length := by
    simp
  refine ⟨?_, ?_, ?_, accepts.closes⟩
  · rw [sameLength]
    exact accepts.fits
  · intro i k' item atKey atItem
    by_cases here : i = before.length
    · subst here
      rw [found] at atKey
      cases atKey
      rw [getElem?_here] at atItem
      cases atItem
      exact accepted
    · rw [getElem?_replace (w := value) here] at atItem
      exact accepts.accepted i k' item atKey atItem
  · rw [sameLength]
    exact accepts.complete

/-- An array form whose value at one position is replaced by one that is picked as the same. -/
theorem same_replace_position (found : e.keys[before.length]? = some k)
    (same : k.kind.Same value value') :
    e.Same (.array (before ++ value :: after) closing)
      (.array (before ++ value' :: after) closing) := by
  refine Entity.same_of_members ?_
  intro k' isKey
  rw [Draft.member, Draft.member]
  have found' := Entity.getElem?_findIdx isKey
  by_cases here : e.keys.findIdx (·.name == k'.name) = before.length
  · rw [here] at found' ⊢
    cases found.symm.trans found'
    rw [getElem?_here, getElem?_here]
    exact same
  · rw [getElem?_replace here]
    exact k'.kind.same_refl _

theorem same_replace_item {kind : ValueKind} (same : kind.Same value value') :
    (ValueKind.listOf kind).Same (.array (before ++ value :: after) closing)
      (.array (before ++ value' :: after) closing) := by
  have refl (items : List Draft) : List.Forall₂ kind.Same items items :=
    List.forall₂_same.mpr fun item _ => kind.same_refl item
  exact ⟨rfl, List.rel_append (refl before) (.cons same (refl after))⟩

theorem faultItems_append :
    Draft.faultItems (before ++ after) = (Draft.faultItems before).or (Draft.faultItems after) := by
  induction before with
  | nil => rfl
  | cons item rest ih =>
    rw [List.cons_append, Draft.faultItems, Draft.faultItems, ih, Option.or_assoc]

/-- The fault of a value is the first one among values that have none. -/
theorem faultItems_of_others (others : Draft.faultItems (before ++ after) = none) :
    Draft.faultItems (before ++ value :: after) = value.fault := by
  rw [faultItems_append, Option.or_eq_none_iff] at others
  rw [faultItems_append, Draft.faultItems, others.1, others.2, Option.none_or, Option.or_none]

theorem faultItems_middle : Draft.faultItems (before ++ value :: after) = none ↔
    value.fault = none ∧ Draft.faultItems (before ++ after) = none := by
  simp only [Draft.faultItems_eq_none, List.forall_mem_append, List.forall_mem_cons]
  tauto

end

/-! ## Declared types -/

section

variable {e : Entity} {members members' before after : Members} {key : Reading String}
  {value : Draft}

/-- The kind of a declared type is none of its keys. -/
theorem read_of_declared {k : Key} (declared : e.Declared)
    (found : keyOf? e key = some k) : ∃ written, key.read = .ok written ∧ written ≠ "kind" := by
  obtain ⟨written, read, isKey⟩ := Draft.keyOf?_eq_some.mp found
  refine ⟨written, read, ?_⟩
  rintro rfl
  have noKey : ∀ e : Entity, e.Declared → e.key? "kind" = none := by decide
  rw [noKey e declared] at isKey
  cases isKey

theorem kinds_append : kinds (before ++ after) = kinds before ++ kinds after := by
  simp [kinds]

theorem kinds_other {written : String} (read : key.read = .ok written) (other : written ≠ "kind") :
    kinds (before ++ (key, value) :: after) = kinds (before ++ after) := by
  rw [kinds_append, Draft.kinds_cons read, if_neg other, kinds_append]

/-- The value under a key of a declared type is not taken for its kind. -/
theorem kinds_known {k : Key} (declared : e.Declared) (found : keyOf? e key = some k) :
    kinds (before ++ (key, value) :: after) = kinds (before ++ after) := by
  obtain ⟨written, read, other⟩ := read_of_declared declared found
  exact kinds_other read other

theorem faultMembers_append : Draft.faultMembers (before ++ after) =
    (Draft.faultMembers before).or (Draft.faultMembers after) := by
  induction before with
  | nil => rfl
  | cons m rest ih =>
    obtain ⟨key, value⟩ := m
    rw [List.cons_append, Draft.faultMembers, Draft.faultMembers, ih]
    exact (Option.or_assoc ..).symm

/-- The fault of a value is the first one among members that have none. -/
theorem faultMembers_of_others (readable : readFault key = none)
    (others : Draft.faultMembers (before ++ after) = none) :
    Draft.faultMembers (before ++ (key, value) :: after) = value.fault := by
  rw [faultMembers_append, Option.or_eq_none_iff] at others
  rw [faultMembers_append, Draft.faultMembers, others.1, others.2, readable, Option.none_or,
    Option.none_or, Option.or_none]

theorem faultMembers_known {k : Key} (found : keyOf? e key = some k)
    (others : Draft.faultMembers (before ++ after) = none) :
    Draft.faultMembers (before ++ (key, value) :: after) = value.fault := by
  obtain ⟨written, read, _⟩ := Draft.keyOf?_eq_some.mp found
  exact faultMembers_of_others (readFault_eq_none.mpr ⟨written, read⟩) others

theorem faultMembers_middle : Draft.faultMembers (before ++ (key, value) :: after) = none ↔
    (readFault key = none ∧ value.fault = none) ∧ Draft.faultMembers (before ++ after) = none := by
  simp only [Draft.faultMembers_eq_none, List.forall_mem_append, List.forall_mem_cons]
  tauto

end

/-- The first reading meets a given fault, or none, in what had none before the change. -/
def Change.Leaves (change : Change) (fault : Option Fault) : Prop :=
  ∀ {e : Entity} {members members' : Members}, change true e members members' →
    Draft.faultMembers members = none → Draft.faultMembers members' = fault

/-- A declared type keeps the kind that it has, and gets no other one. -/
def Change.KeepsKind (change : Change) : Prop :=
  ∀ {whole : Bool} {e : Entity} {members members' : Members} {tag : Draft},
    change whole e members members' → e.Declared → kinds members = [tag] → kinds members' = [tag]

/-- A restyled object can be read whole if the object can. -/
theorem Restyle.leaves : Change.Leaves Restyle none := by
  intro e members members' restyle sound
  cases restyle with
  | reorder perm =>
    rw [Draft.faultMembers_eq_none] at sound ⊢
    intro m membership
    exact sound m (perm.mem_iff.mpr membership)
  | add read _ _ readable =>
    rw [faultMembers_of_others (readFault_eq_none.mpr ⟨_, read⟩) sound, readable rfl]
  | rename found found' =>
    obtain ⟨⟨_, soundValue⟩, sound⟩ := faultMembers_middle.mp sound
    rw [faultMembers_known found' sound, soundValue]

theorem Restyle.keepsKind : Change.KeepsKind Restyle := by
  intro whole e members members' tag restyle declared only
  cases restyle with
  | reorder perm =>
    have sameKinds : (kinds members).Perm (kinds members') := (perm.filter _).map _
    rw [only] at sameKinds
    exact List.perm_singleton.mp sameKinds.symm
  | add read ignored _ _ =>
    rw [kinds_other read (ignored.2 declared)]
    exact only
  | rename found found' =>
    rw [kinds_known declared found] at only
    rw [kinds_known declared found', only]

namespace Inside

variable {change : Change} {whole : Bool} {kind : ValueKind} {a b : Draft}

/-- What a change leaves for the first reading in an object, it leaves in everything around it. -/
theorem fault {f : Option Fault} (leaves : change.Leaves f) (inside : Inside change whole kind a b)
    (isWhole : whole = true) (sound : a.fault = none) : b.fault = f := by
  induction inside with
  | here changed =>
    subst isWhole
    rw [Draft.fault, Option.or_eq_none_iff] at sound
    rw [Draft.fault, leaves changed sound.1, sound.2, Option.or_none]
  | member found inner ih =>
    rw [Draft.fault, Option.or_eq_none_iff, faultMembers_middle] at sound
    rw [Draft.fault, faultMembers_of_others sound.1.1.1 sound.1.2, sound.2, Option.or_none]
    exact ih isWhole sound.1.1.2
  | position found inner ih =>
    rw [Draft.fault, Option.or_eq_none_iff, faultItems_middle] at sound
    rw [Draft.fault, faultItems_of_others sound.1.2, sound.2, Option.or_none]
    exact ih isWhole sound.1.1
  | item inner ih =>
    rw [Draft.fault, Option.or_eq_none_iff, faultItems_middle] at sound
    rw [Draft.fault, faultItems_of_others sound.1.2, sound.2, Option.or_none]
    exact ih isWhole sound.1.1
  | declaredObject only isKind inner ih => exact ih rfl sound
  | declaredArray isKind inner ih =>
    rw [Draft.fault, Draft.faultItems, Option.or_assoc, Option.or_eq_none_iff] at sound
    rw [Draft.fault, Draft.faultItems, Option.or_assoc, sound.1, Option.none_or]
    exact ih rfl sound.2

/-- A declared type keeps its kind when something inside of it is changed. -/
theorem only (keeps : change.KeepsKind) {e : Entity} {members members' : Members}
    {closing closing' : Reading Unit} {tag : Draft}
    (inside : Inside change whole (.entity e) (.object members closing) (.object members' closing'))
    (declared : e.Declared) (only : kinds members = [tag]) :
    kinds members' = [tag] := by
  cases inside with
  | here changed => exact keeps changed declared only
  | member found inner =>
    rw [kinds_known declared found] at only ⊢
    exact only

end Inside

/-! ## Restyled drafts -/

/-- A restyled draft is accepted if the draft is, and the same is picked from both. -/
theorem Inside.keeps {whole : Bool} {kind : ValueKind} {a b : Draft}
    (inside : Inside Restyle whole kind a b) {nullable : Bool}
    (accepted : checkValue whole nullable kind a = .ok ()) :
    checkValue whole nullable kind b = .ok () ∧ kind.Same a b := by
  induction inside generalizing nullable with
  | here restyle =>
    obtain ⟨accepts, sameValues⟩ := restyle.keeps (checkValue_object.mp accepted)
    refine ⟨checkValue_object.mpr accepts, Entity.same_of_members ?_⟩
    intro k _
    rw [Draft.member, Draft.member, sameValues]
    exact k.kind.same_refl _
  | @member whole e before after key k value value' closing found inner ih =>
    have accepts := checkValue_object.mp accepted
    have stands : (key, value) ∈ before ++ (key, value) :: after := by simp
    obtain ⟨checked, same⟩ := ih (accepts.checked stands found)
    have accepts' := accepts.replace found found checked
    exact ⟨checkValue_object.mpr accepts', accepts.same_replace accepts' found same⟩
  | @position whole e before after k value value' closing found inner ih =>
    have accepts := checkValue_array.mp accepted
    obtain ⟨checked, same⟩ := ih (accepts.accepted _ k value found getElem?_here)
    exact ⟨checkValue_array.mpr (accepts.replace found checked), same_replace_position found same⟩
  | @item whole kind before after value value' closing inner ih =>
    obtain ⟨each, closes⟩ := checkValue_list.mp accepted
    simp only [List.forall_mem_append, List.forall_mem_cons] at each
    obtain ⟨checked, same⟩ := ih each.2.1
    refine ⟨checkValue_list.mpr ⟨?_, closes⟩, same_replace_item same⟩
    simp only [List.forall_mem_append, List.forall_mem_cons]
    exact ⟨each.1, checked, each.2.2⟩
  | @declaredObject whole e tag members members' closing only isKind inner ih =>
    obtain ⟨sound, checked⟩ := accepted_of_kind only isKind accepted
    obtain ⟨checked', same⟩ := ih checked
    -- the first reading finds the same kind, so the second one uses the same keys
    have declared := declared_of_declarationKind isKind
    have only' := inner.only Restyle.keepsKind declared only
    have sound' := inner.fault Restyle.leaves rfl sound
    refine ⟨checkValue_declared_object.mpr ⟨tag, e, only', isKind, sound', checked'⟩, ?_⟩
    show Declaration.ofDraft _ = Declaration.ofDraft _
    rw [Declaration.ofDraft_eq_ofBody (Declaration.splitKind_object only) isKind,
      Declaration.ofDraft_eq_ofBody (Declaration.splitKind_object only') isKind]
    exact Declaration.ofBody_eq declared same
  | @declaredArray whole e tag items items' closing isKind inner ih =>
    obtain ⟨sound, checked⟩ := accepted_of_tag isKind accepted
    obtain ⟨checked', same⟩ := ih checked
    have sound' := inner.fault Restyle.leaves rfl sound
    refine ⟨checkValue_declared_array.mpr ⟨e, isKind, sound', checked'⟩, ?_⟩
    show Declaration.ofDraft _ = Declaration.ofDraft _
    rw [Declaration.ofDraft_eq_ofBody Declaration.splitKind_array isKind,
      Declaration.ofDraft_eq_ofBody Declaration.splitKind_array isKind]
    exact Declaration.ofBody_eq (declared_of_declarationKind isKind) same

end QueryModel
