import Mathlib.Data.List.Basic
import QueryModel.Dict

/-!
# Dictionaries from names

A dictionary is known by its names, in order, and by the value of each (`Dict.ext_keys`).

Two parts of a run fill a dictionary from a list of names and a function that says what each name
gets, if anything: `Dict.ofNames`.  A name that is repeated gets the same value again, so the order
of the names matters for the order of the dictionary only (`Dict.keys_ofNames`,
`Dict.get?_ofNames`).
-/

namespace QueryModel

theorem eraseDups_of_nodup {names : List String} (distinct : names.Nodup) :
    names.eraseDups = names := by
  induction names with
  | nil => exact List.eraseDups_nil
  | cons name rest ih =>
    obtain ⟨fresh, distinct⟩ := List.nodup_cons.mp distinct
    have kept : rest.filter (fun n => !n == name) = rest := by
      rw [List.filter_eq_self]
      intro n membership
      have other : n ≠ name := fun same => fresh (same ▸ membership)
      simp [other]
    rw [List.eraseDups_cons, kept, ih distinct]

namespace Dict

variable {α : Type}

/-- A dictionary is given by its keys, in order, and what is found under them. -/
theorem entries_eq (d : Dict α) :
    d.entries = d.keys.filterMap fun name => (d.get? name).map (name, ·) := by
  rw [keys, List.filterMap_map]
  refine List.filterMap_some.symm.trans (List.filterMap_congr ?_)
  rintro ⟨name, value⟩ membership
  have found : d.get? name = some value := (lookup_eq_some_iff d.distinct).mpr membership
  simp [found]

/-- The names in order and the value of each make up a dictionary. -/
theorem ext_keys {d e : Dict α} (sameKeys : d.keys = e.keys)
    (sameValues : ∀ name ∈ d.keys, d.get? name = e.get? name) : d = e := by
  have sameEntries : d.entries = e.entries := by
    rw [entries_eq d, entries_eq e, ← sameKeys]
    refine List.filterMap_congr fun name membership => ?_
    rw [sameValues name membership]
  cases d
  cases e
  cases sameEntries
  rfl

/-- The dictionary in which each of the names has what `given` says, if it says something. -/
def ofNames (names : List String) (given : String → Option α) : Dict α :=
  ofList (names.filterMap fun name => (given name).map (name, ·))

theorem map_fst_given (names : List String) (given : String → Option α) :
    (names.filterMap fun name => (given name).map (name, ·)).map Prod.fst =
      names.filter fun name => (given name).isSome := by
  induction names with
  | nil => rfl
  | cons name rest ih =>
    cases found : given name with
    | none => simp [found, ih]
    | some value => simp [found, ih]

theorem lookup_given (names : List String) (given : String → Option α) (n : String) :
    (names.filterMap fun name => (given name).map (name, ·)).lookup n =
      if n ∈ names then given n else none := by
  induction names with
  | nil => rfl
  | cons name rest ih =>
    by_cases same : n = name
    · subst same
      cases found : given n with
      | none => simp [found, ih]
      | some value => simp [found]
    · cases found : given name with
      | none => simp [found, ih, same]
      | some value => simp [found, ih, same, List.lookup_cons, beq_false_of_ne same]

theorem keys_ofNames (names : List String) (given : String → Option α) :
    (ofNames names given).keys = (names.filter fun name => (given name).isSome).eraseDups := by
  rw [ofNames, keys_ofList, map_fst_given]

/-- What is found under a name does not depend on how often the name is listed. -/
theorem get?_ofNames (names : List String) (given : String → Option α) (n : String) :
    (ofNames names given).get? n = if n ∈ names then given n else none := by
  rw [ofNames, ofList, get?_insertAll, get?_empty, Option.or_none, ← List.filterMap_reverse,
    lookup_given]
  simp only [List.mem_reverse]

/-- Only the values of the listed names matter. -/
theorem ofNames_congr {names : List String} {given other : String → Option α}
    (same : ∀ name ∈ names, given name = other name) :
    ofNames names given = ofNames names other := by
  rw [ofNames, ofNames, List.filterMap_congr fun name membership => ?_]
  rw [same name membership]

end Dict

end QueryModel
