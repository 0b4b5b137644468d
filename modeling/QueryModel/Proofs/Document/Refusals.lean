import QueryModel.Proofs.Document.Restyling

/-!
# Refused additions

A member that is added to an object can also make a document be refused.

* A known key that is given once more, under whichever of its names, is a duplicate field
  (`Double`).  The value at its second place is not looked at.
* The value at the first place of a known key is checked.  If it is refused, the document is, with
  the same problem (`Refuse`).
* In a declared type, and in the objects inside one, a value that cannot be read is a fault of the
  text, whatever its key (`Spoil`).

The check goes through the text in order and stops at the first problem.  All before the new member
passes, so the problem of the new member is the problem of the document (`Inside.refused`,
`Inside.spoilt`).
-/

namespace QueryModel

open Json (Draft Fault Reading)
open Json.Draft (keyOf? known kinds readFault)

/-! ## Changes -/

/-- A known key is given once more, under any of its names.  If it stood before, the new value is
not looked at, and otherwise the value is acceptable. -/
inductive Double (name : String) (whole : Bool) (e : Entity) : Members → Members → Prop
  | give {before after : Members} {key : Reading String} {k : Key} {value : Draft}
      (found : keyOf? e key = some k) (named : k.name = name)
      (again : name ∈ (known e before).map Prod.fst ∨
        name ∈ (known e after).map Prod.fst ∧ checkValue whole k.nullable k.kind value = .ok ())
      (readable : whole = true → value.fault = none) :
      Double name whole e (before ++ after) (before ++ (key, value) :: after)

/-- A known key that did not stand before is given, and its value is refused. -/
inductive Refuse (p : Problem) (whole : Bool) (e : Entity) : Members → Members → Prop
  | give {before after : Members} {key : Reading String} {k : Key} {value : Draft}
      (found : keyOf? e key = some k) (fresh : k.name ∉ (known e before).map Prod.fst)
      (refused : checkValue whole k.nullable k.kind value = .error p)
      (readable : whole = true → value.fault = none) :
      Refuse p whole e (before ++ after) (before ++ (key, value) :: after)

/-- A member is added to an object that is read whole, and its value cannot be read.  The key may be
any but the kind of a declared type. -/
inductive Spoil (f : Fault) (whole : Bool) (e : Entity) : Members → Members → Prop
  | add {before after : Members} {key : Reading String} {written : String} {value : Draft}
      (isWhole : whole = true) (read : key.read = .ok written)
      (other : e.Declared → written ≠ "kind") (unreadable : value.fault = some f) :
      Spoil f whole e (before ++ after) (before ++ (key, value) :: after)

/-! ### What the first reading sees of them -/

theorem Double.leaves (name : String) : Change.Leaves (Double name) none := by
  rintro e _ _ ⟨found, _, _, readable⟩ sound
  rw [faultMembers_known found sound, readable rfl]

theorem Refuse.leaves (p : Problem) : Change.Leaves (Refuse p) none := by
  rintro e _ _ ⟨found, _, _, readable⟩ sound
  rw [faultMembers_known found sound, readable rfl]

/-- An unreadable value is the first fault of what had none. -/
theorem Spoil.leaves (f : Fault) : Change.Leaves (Spoil f) (some f) := by
  rintro e _ _ ⟨_, read, _, unreadable⟩ sound
  rw [faultMembers_of_others (readFault_eq_none.mpr ⟨_, read⟩) sound, unreadable]

theorem Double.keepsKind (name : String) : Change.KeepsKind (Double name) := by
  rintro whole e _ _ tag ⟨found, _, _, _⟩ declared only
  rw [kinds_known declared found, only]

theorem Refuse.keepsKind (p : Problem) : Change.KeepsKind (Refuse p) := by
  rintro whole e _ _ tag ⟨found, _, _, _⟩ declared only
  rw [kinds_known declared found, only]

theorem Spoil.keepsKind (f : Fault) : Change.KeepsKind (Spoil f) := by
  rintro whole e _ _ tag ⟨_, read, other, _⟩ declared only
  rw [kinds_other read (other declared), only]

/-! ## Members -/

section

variable {whole : Bool} {e : Entity} {before after members : Members} {seen : List String}

/-- The check of some members and then of others. -/
theorem checkMembers_append {before' : List String}
    (passed : checkMembers whole e seen before = .ok before') :
    checkMembers whole e seen (before ++ after) = checkMembers whole e before' after := by
  induction before generalizing seen with
  | nil =>
    cases passed
    rfl
  | cons m rest ih =>
    obtain ⟨key, value⟩ := m
    obtain ⟨accepted, _, fresh, _⟩ := checkMembers_eq_ok.mp passed
    cases (List.forall_mem_cons.mp accepted).1 with
    | skipped read unknown sound =>
      rw [checkMembers_unknown read unknown, sound] at passed
      rw [List.cons_append, checkMembers_unknown read unknown, sound]
      exact ih passed
    | @known _ _ _ k read found sound =>
      have isKey : keyOf? e key = some k := by rw [Draft.keyOf?_eq read, found]
      rw [Draft.known_cons_key isKey] at fresh
      have new := (List.forall_mem_cons.mp fresh).1
      rw [checkMembers_key isKey new, sound] at passed
      rw [List.cons_append, checkMembers_key isKey new, sound]
      exact ih passed

/-- A name that was seen is refused where it stands again, if nothing else is wrong. -/
theorem checkMembers_doubled {name : String} (accepted : ∀ m ∈ members, AcceptsMember whole e m)
    (distinct : ((known e members).map Prod.fst).Nodup)
    (fresh : ∀ n ∈ (known e members).map Prod.fst, n ≠ name → n ∉ seen)
    (stood : name ∈ seen) (again : name ∈ (known e members).map Prod.fst) :
    checkMembers whole e seen members = .error (.mismatch (.duplicateField name)) := by
  induction members generalizing seen with
  | nil => cases again
  | cons m rest ih =>
    obtain ⟨key, value⟩ := m
    obtain ⟨first, accepted⟩ := List.forall_mem_cons.mp accepted
    cases first with
    | skipped read unknown sound =>
      rw [Draft.known_cons_unknown (by rw [Draft.keyOf?_eq read, unknown])] at distinct fresh again
      rw [checkMembers_unknown read unknown, sound]
      exact ih accepted distinct fresh stood again
    | @known _ _ _ k read found sound =>
      have isKey : keyOf? e key = some k := by rw [Draft.keyOf?_eq read, found]
      rw [Draft.known_cons_key isKey] at distinct fresh again
      simp only [List.map_cons, List.nodup_cons, List.forall_mem_cons] at distinct fresh again
      by_cases here : k.name = name
      · -- this is the place where the name stands again
        subst here
        exact checkMembers_again isKey stood
      · rw [checkMembers_key isKey (fresh.1 here), sound]
        have inRest : name ∈ (known e rest).map Prod.fst :=
          (List.mem_cons.mp again).resolve_left fun same => here same.symm
        refine ih accepted distinct.2 ?_ (List.mem_cons_of_mem _ stood) inRest
        intro n membership other inSeen
        rcases List.mem_cons.mp inSeen with rfl | before
        · exact distinct.1 membership
        · exact fresh.2 n membership other before

/-- Members before others in an accepted object pass, and none of the others repeats them. -/
theorem AcceptsObject.passes {closing : Reading Unit}
    (accepts : AcceptsObject whole e (before ++ after) closing) :
    checkMembers whole e [] before = .ok ((known e before).map Prod.fst).reverse ∧
      ∀ n ∈ (known e after).map Prod.fst, n ∉ ((known e before).map Prod.fst).reverse := by
  obtain ⟨accepted, distinct, _, _⟩ := accepts
  rw [List.forall_mem_append] at accepted
  rw [known_append, List.map_append, List.nodup_append] at distinct
  refine ⟨checkMembers_eq_ok.mpr ⟨accepted.1, distinct.1, by simp, by simp⟩, ?_⟩
  intro n inAfter inBefore
  exact distinct.2.2 n (List.mem_reverse.mp inBefore) n inAfter rfl

/-- A key that stands twice is refused at its second place. -/
theorem Double.refused {name : String} {members' : Members} {closing : Reading Unit}
    (double : Double name whole e members members')
    (accepts : AcceptsObject whole e members closing) :
    checkMembers whole e [] members' = .error (.mismatch (.duplicateField name)) := by
  cases double with
  | @give before after key k value found named again _ =>
    subst named
    obtain ⟨passed, fresh⟩ := accepts.passes
    rw [checkMembers_append passed]
    by_cases stood : k.name ∈ ((known e before).map Prod.fst).reverse
    · exact checkMembers_again found stood
    · -- the new member passes, and the old one after it is refused
      rcases again with before | ⟨later, checked⟩
      · exact absurd (List.mem_reverse.mpr before) stood
      · rw [checkMembers_key found stood, checked]
        obtain ⟨accepted, distinct, _, _⟩ := accepts
        rw [known_append, List.map_append, List.nodup_append] at distinct
        refine checkMembers_doubled (List.forall_mem_append.mp accepted).2 distinct.2.1 ?_
          List.mem_cons_self later
        intro n membership other inSeen
        rcases List.mem_cons.mp inSeen with same | inBefore
        · exact other same
        · exact fresh n membership inBefore

/-- A value that is refused at the first place of its key is the first problem of the object. -/
theorem Refuse.refused {p : Problem} {members' : Members} {closing : Reading Unit}
    (refuse : Refuse p whole e members members')
    (accepts : AcceptsObject whole e members closing) :
    checkMembers whole e [] members' = .error p := by
  cases refuse with
  | give found fresh refused _ =>
    have new := fun stood => fresh (List.mem_reverse.mp stood)
    rw [checkMembers_append accepts.passes.1, checkMembers_key found new, refused]
    rfl

end

/-! ## Values that hold a refused one -/

section

variable {whole nullable : Bool} {e : Entity} {closing : Reading Unit} {k : Key} {p : Problem}

/-- If an accepted value under a known key is replaced by a refused one, the object is refused with
the same problem. -/
theorem checkValue_refused_member {before after : Members} {key : Reading String}
    {value value' : Draft}
    (accepted : checkValue whole nullable (.entity e)
      (.object (before ++ (key, value) :: after) closing) = .ok ())
    (found : keyOf? e key = some k)
    (refused : checkValue whole k.nullable k.kind value = .ok () →
      checkValue whole k.nullable k.kind value' = .error p) :
    checkValue whole nullable (.entity e) (.object (before ++ (key, value') :: after) closing) =
      .error p := by
  have accepts := checkValue_object.mp accepted
  have refused := refused (accepts.checked (List.mem_append_right _ List.mem_cons_self) found)
  obtain ⟨passed, others⟩ := accepts.passes
  have fresh : k.name ∉ ((known e before).map Prod.fst).reverse := by
    refine others _ ?_
    rw [Draft.known_cons_key found]
    exact List.mem_cons_self
  rw [checkValue, checkMembers_append passed, checkMembers_key found fresh, refused]
  rfl

variable {kind : ValueKind} {before after : List Draft} {value value' : Draft}

theorem checkItems_refused (accepted : ∀ item ∈ before, checkValue whole false kind item = .ok ())
    (refused : checkValue whole false kind value = .error p) :
    checkItems whole kind (before ++ value :: after) = .error p := by
  induction before with
  | nil =>
    rw [List.nil_append, checkItems, refused]
    rfl
  | cons item rest ih =>
    obtain ⟨first, accepted⟩ := List.forall_mem_cons.mp accepted
    rw [List.cons_append, checkItems, first]
    exact ih accepted

theorem checkPositions_refused {keys : List Key} {index : Nat}
    (accepted : ∀ (i : Nat) (k : Key) (item : Draft), keys[i]? = some k → before[i]? = some item →
      checkValue whole k.nullable k.kind item = .ok ())
    (found : keys[before.length]? = some k)
    (refused : checkValue whole k.nullable k.kind value = .error p) :
    checkPositions whole e closing keys index (before ++ value :: after) = .error p := by
  induction before generalizing keys index with
  | nil =>
    cases keys with
    | nil => cases found
    | cons first keys =>
      cases found
      rw [List.nil_append, checkPositions, refused]
      rfl
  | cons item rest ih =>
    cases keys with
    | nil => cases found
    | cons first keys =>
      rw [List.cons_append, checkPositions, accepted 0 first item rfl rfl]
      exact ih (fun i k item atKey atItem => accepted (i + 1) k item atKey atItem) found

/-- The same for a value at a position of the array form. -/
theorem checkValue_refused_position
    (accepted : checkValue whole nullable (.entity e) (.array (before ++ value :: after) closing) =
      .ok ())
    (found : e.keys[before.length]? = some k)
    (refused : checkValue whole k.nullable k.kind value = .ok () →
      checkValue whole k.nullable k.kind value' = .error p) :
    checkValue whole nullable (.entity e) (.array (before ++ value' :: after) closing) =
      .error p := by
  have accepts := checkValue_array.mp accepted
  have refused := refused (accepts.accepted _ k value found getElem?_here)
  rw [checkValue]
  refine checkPositions_refused ?_ found refused
  intro i k' item atKey atItem
  refine accepts.accepted i k' item atKey ?_
  rw [List.getElem?_append_left (List.getElem?_eq_some_iff.mp atItem).1]
  exact atItem

/-- The same for an item of a list. -/
theorem checkValue_refused_item
    (accepted : checkValue whole nullable (.listOf kind)
      (.array (before ++ value :: after) closing) = .ok ())
    (refused : checkValue whole false kind value = .ok () →
      checkValue whole false kind value' = .error p) :
    checkValue whole nullable (.listOf kind) (.array (before ++ value' :: after) closing) =
      .error p := by
  obtain ⟨each, _⟩ := checkValue_list.mp accepted
  simp only [List.forall_mem_append, List.forall_mem_cons] at each
  rw [checkValue, checkItems_refused each.1 (refused each.2.1)]
  rfl

end

/-- If a change has a problem in an object, the value that holds the object has it. -/
theorem Inside.refused {change : Change} {p : Problem} (leaves : change.Leaves none)
    (keeps : change.KeepsKind)
    (refuses : ∀ {whole : Bool} {e : Entity} {members members' : Members} {closing : Reading Unit},
      change whole e members members' → AcceptsObject whole e members closing →
        checkMembers whole e [] members' = .error p)
    {whole : Bool} {kind : ValueKind} {a b : Draft} (inside : Inside change whole kind a b)
    {nullable : Bool} (accepted : checkValue whole nullable kind a = .ok ()) :
    checkValue whole nullable kind b = .error p := by
  induction inside generalizing nullable with
  | here changed =>
    rw [checkValue, refuses changed (checkValue_object.mp accepted)]
    rfl
  | member found inner ih => exact checkValue_refused_member accepted found ih
  | position found inner ih => exact checkValue_refused_position accepted found ih
  | item inner ih => exact checkValue_refused_item accepted ih
  | declaredObject only isKind inner ih =>
    -- the first reading sees nothing of it, and the second one uses the same keys
    obtain ⟨sound, checked⟩ := accepted_of_kind only isKind accepted
    have only' := inner.only keeps (declared_of_declarationKind isKind) only
    rw [checkValue_of_kind only' isKind (inner.fault leaves rfl sound)]
    exact ih checked
  | declaredArray isKind inner ih =>
    obtain ⟨sound, checked⟩ := accepted_of_tag isKind accepted
    rw [checkValue_of_tag isKind (inner.fault leaves rfl sound)]
    exact ih checked

/-! ## Values that cannot be read -/

end QueryModel
