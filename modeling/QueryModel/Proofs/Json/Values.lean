import QueryModel.Json.Draft

/-!
# Values, drafts and canonical forms

The draft of a value has no faults and holds the value.

A document carries default values in canonical form.  These are the values in which the
members of every object stand in strictly increasing order of their keys (`Json.Sorted`):
`sorted_canonical` says that every canonical form is one, and `canonical_of_sorted` that such
a value is its own canonical form.
-/

namespace QueryModel.Json

/-- Induction on a value, with one hypothesis for every item of an array and for the value of
every member of an object. -/
@[elab_as_elim]
theorem inductionOn {P : Json → Prop} (j : Json) (null : P .null) (bool : ∀ b, P (.bool b))
    (number : ∀ n, P (.number n)) (text : ∀ s, P (.text s))
    (array : ∀ items, (∀ item ∈ items, P item) → P (.array items))
    (object : ∀ members, (∀ m ∈ members, P m.2) → P (.object members)) : P j := by
  refine @Json.rec P (fun items => ∀ item ∈ items, P item) (fun members => ∀ m ∈ members, P m.2)
    (fun m => P m.2) null bool number text array object ?_ ?_ ?_ ?_ ?_ j
  · simp
  · intro item items first others
    exact List.forall_mem_cons.mpr ⟨first, others⟩
  · simp
  · intro m members first others
    exact List.forall_mem_cons.mpr ⟨first, others⟩
  · intro _ _ value
    exact value

/-! ## Drafts -/

theorem draftItems_eq_map (items : List Json) : draftItems items = items.map draft := by
  induction items with
  | nil => rfl
  | cons item rest ih => rw [draftItems, ih, List.map_cons]

theorem draftMembers_eq_map (members : List (String × Json)) :
    draftMembers members = members.map fun m => (.ok m.1, m.2.draft) := by
  induction members with
  | nil => rfl
  | cons m rest ih =>
    obtain ⟨key, value⟩ := m
    rw [draftMembers, ih, List.map_cons]

namespace Draft

theorem valueItems_eq_map (items : List Draft) : valueItems items = items.map value := by
  induction items with
  | nil => rfl
  | cons item rest ih => rw [valueItems, ih, List.map_cons]

theorem faultItems_eq_none {items : List Draft} :
    faultItems items = none ↔ ∀ item ∈ items, item.fault = none := by
  induction items with
  | nil => simp [faultItems]
  | cons item rest ih => simp [faultItems, ih]

/-- Members have no fault if all keys and all values can be read. -/
theorem faultMembers_eq_none {members : List (Reading String × Draft)} :
    faultMembers members = none ↔ ∀ m ∈ members, readFault m.1 = none ∧ m.2.fault = none := by
  induction members with
  | nil => simp [faultMembers]
  | cons m rest ih =>
    obtain ⟨key, value⟩ := m
    simp [faultMembers, ih]

end Draft

/-- The draft of a value has no fault, since nothing in it is cut off or misspelt. -/
theorem fault_draft (j : Json) : j.draft.fault = none := by
  induction j using inductionOn with
  | null => rfl
  | bool b => rfl
  | number n => rfl
  | text s => rfl
  | array items ih =>
    rw [draft, Draft.fault, Option.or_eq_none_iff, draftItems_eq_map, Draft.faultItems_eq_none]
    exact ⟨by simpa using ih, rfl⟩
  | object members ih =>
    rw [draft, Draft.fault, Option.or_eq_none_iff, draftMembers_eq_map, Draft.faultMembers_eq_none]
    refine ⟨?_, rfl⟩
    intro _ membership
    obtain ⟨m, inMembers, rfl⟩ := List.mem_map.mp membership
    exact ⟨rfl, ih m inMembers⟩

theorem valueMembers_draft {members : List (String × Json)}
    (each : ∀ m ∈ members, m.2.draft.value = m.2) :
    Draft.valueMembers (draftMembers members) = members := by
  induction members with
  | nil => rfl
  | cons m rest ih =>
    obtain ⟨key, value⟩ := m
    obtain ⟨first, others⟩ := List.forall_mem_cons.mp each
    show (key, value.draft.value) :: Draft.valueMembers (draftMembers rest) = _
    rw [first, ih others]

/-- The draft of a value stands for that value. -/
theorem value_draft (j : Json) : j.draft.value = j := by
  induction j using inductionOn with
  | null => rfl
  | bool b => rfl
  | number n => rfl
  | text s => rfl
  | array items ih =>
    rw [draft, Draft.value, draftItems_eq_map, Draft.valueItems_eq_map, List.map_map]
    exact congrArg array ((List.map_congr_left ih).trans items.map_id)
  | object members ih => exact congrArg object (valueMembers_draft ih)

/-! ## Canonical forms -/

/-- The members of every object stand in strictly increasing order of their keys. -/
inductive Sorted : Json → Prop
  | null : Sorted .null
  | bool (b : Bool) : Sorted (.bool b)
  | number (n : Number) : Sorted (.number n)
  | text (s : String) : Sorted (.text s)
  | array {items : List Json} (each : ∀ item ∈ items, Sorted item) : Sorted (.array items)
  | object {members : List (String × Json)} (keys : (members.map Prod.fst).Pairwise (· < ·))
      (each : ∀ m ∈ members, Sorted m.2) : Sorted (.object members)

theorem canonicalItems_eq_map (items : List Json) : canonicalItems items = items.map canonical := by
  induction items with
  | nil => rfl
  | cons item rest ih => rw [canonicalItems, ih, List.map_cons]

/-- A key after all others goes to the end. -/
theorem insertSorted_last {key : String} {value : Json} {sorted : List (String × Json)}
    (last : ∀ m ∈ sorted, m.1 < key) :
    insertSorted key value sorted = sorted ++ [(key, value)] := by
  induction sorted with
  | nil => rfl
  | cons m rest ih =>
    obtain ⟨k, v⟩ := m
    obtain ⟨first, others⟩ := List.forall_mem_cons.mp last
    have different : key ≠ k := by
      rintro rfl
      exact String.lt_irrefl _ first
    rw [insertSorted, if_neg different, if_neg (String.lt_asymm first), ih others, List.cons_append]

theorem mem_insertSorted {key : String} {value : Json} {sorted : List (String × Json)}
    {m : String × Json} (membership : m ∈ insertSorted key value sorted) :
    m = (key, value) ∨ m ∈ sorted := by
  induction sorted with
  | nil => simpa [insertSorted] using membership
  | cons first rest ih =>
    obtain ⟨k, v⟩ := first
    simp only [insertSorted] at membership
    split at membership
    next => grind
    next =>
      split at membership
      next => grind
      next => grind

/-- Insertion keeps the keys in order, and a key that is there already is not doubled. -/
theorem pairwise_insertSorted {key : String} {value : Json} {sorted : List (String × Json)}
    (keys : (sorted.map Prod.fst).Pairwise (· < ·)) :
    ((insertSorted key value sorted).map Prod.fst).Pairwise (· < ·) := by
  rw [List.pairwise_map] at keys ⊢
  induction sorted with
  | nil => simp [insertSorted]
  | cons first rest ih =>
    obtain ⟨k, v⟩ := first
    obtain ⟨before, keys⟩ := List.pairwise_cons.mp keys
    simp only [insertSorted]
    split
    next same => exact List.pairwise_cons.mpr ⟨by simpa [same] using before, keys⟩
    next different =>
      split
      next less =>
        refine List.pairwise_cons.mpr ⟨?_, List.pairwise_cons.mpr ⟨before, keys⟩⟩
        refine List.forall_mem_cons.mpr ⟨less, ?_⟩
        intro m membership
        exact String.lt_trans less (before m membership)
      next notLess =>
        have greater : k < key :=
          Std.lt_of_le_of_ne (String.not_lt.mp notLess) (fun same => different same.symm)
        refine List.pairwise_cons.mpr ⟨?_, ih keys⟩
        intro m membership
        rcases mem_insertSorted membership with rfl | inRest
        · exact greater
        · exact before m inRest

theorem canonicalMembers_of_sorted {members sorted : List (String × Json)}
    (keys : ((sorted ++ members).map Prod.fst).Pairwise (· < ·))
    (each : ∀ m ∈ members, m.2.canonical = m.2) :
    canonicalMembers members sorted = sorted ++ members := by
  induction members generalizing sorted with
  | nil => rw [canonicalMembers, List.append_nil]
  | cons m rest ih =>
    obtain ⟨key, value⟩ := m
    obtain ⟨same, others⟩ := List.forall_mem_cons.mp each
    have last : ∀ m ∈ sorted, m.1 < key := by
      rw [List.map_append, List.pairwise_append] at keys
      intro m membership
      exact keys.2.2 _ (List.mem_map_of_mem membership) _ List.mem_cons_self
    rw [List.append_cons] at keys
    rw [canonicalMembers, same, insertSorted_last last, ih keys others, List.append_assoc]
    rfl

/-- A value that is sorted is its own canonical form. -/
theorem canonical_of_sorted {j : Json} (sorted : j.Sorted) : j.canonical = j := by
  induction sorted with
  | null => rfl
  | bool b => rfl
  | number n => rfl
  | text s => rfl
  | array _ ih =>
    rw [canonical, canonicalItems_eq_map]
    exact congrArg array ((List.map_congr_left ih).trans (List.map_id _))
  | object keys _ ih =>
    rw [canonical]
    exact congrArg object (canonicalMembers_of_sorted keys ih)

theorem sorted_canonicalMembers {members sorted : List (String × Json)}
    (each : ∀ m ∈ members, m.2.canonical.Sorted) (before : (object sorted).Sorted) :
    (object (canonicalMembers members sorted)).Sorted := by
  induction members generalizing sorted with
  | nil => exact before
  | cons m rest ih =>
    obtain ⟨key, value⟩ := m
    obtain ⟨first, others⟩ := List.forall_mem_cons.mp each
    cases before with
    | object keys values =>
      refine ih others (.object (pairwise_insertSorted keys) ?_)
      intro m membership
      rcases mem_insertSorted membership with rfl | inSorted
      · exact first
      · exact values m inSorted

/-- The canonical form of any value is sorted. -/
theorem sorted_canonical (j : Json) : j.canonical.Sorted := by
  induction j using inductionOn with
  | null => exact .null
  | bool b => exact .bool b
  | number n => exact .number n
  | text s => exact .text s
  | array items ih =>
    rw [canonical, canonicalItems_eq_map]
    exact .array (by simpa using ih)
  | object members ih => exact sorted_canonicalMembers ih (.object .nil (by simp))

end QueryModel.Json
