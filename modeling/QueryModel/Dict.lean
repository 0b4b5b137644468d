/-!
# Dictionaries in insertion order

A dictionary maps names to values and remembers the order in which the names
came.  Putting a value under a name that is there replaces the value and keeps
the place.
-/

namespace QueryModel

/-- Replaces the value of a name, or adds the name at the end. -/
def putEntry {α : Type} (name : String) (value : α) : List (String × α) → List (String × α)
  | [] => [(name, value)]
  | (n, v) :: rest =>
    if n = name then (n, value) :: rest else (n, v) :: putEntry name value rest

theorem map_fst_putEntry {α : Type} (name : String) (value : α) (entries : List (String × α)) :
    (putEntry name value entries).map Prod.fst =
      if name ∈ entries.map Prod.fst then entries.map Prod.fst
      else entries.map Prod.fst ++ [name] := by
  induction entries with
  | nil => rfl
  | cons entry rest ih =>
    obtain ⟨n, v⟩ := entry
    by_cases same : n = name
    · simp [putEntry, same]
    · simp only [putEntry, if_neg same, List.map_cons, ih, List.mem_cons, Ne.symm same, false_or]
      split
      · rfl
      · rfl

theorem nodup_map_putEntry {α : Type} {name : String} {value : α} {entries : List (String × α)}
    (distinct : (entries.map Prod.fst).Nodup) :
    ((putEntry name value entries).map Prod.fst).Nodup := by
  rw [map_fst_putEntry]
  split
  next => exact distinct
  next fresh =>
    refine List.nodup_append.mpr ⟨distinct, List.nodup_cons.mpr ⟨List.not_mem_nil, .nil⟩, ?_⟩
    intro n there n' last same
    rw [List.mem_singleton.mp last] at same
    exact fresh (same ▸ there)

theorem lookup_putEntry {α : Type} {name n : String} {value : α} {entries : List (String × α)} :
    (putEntry name value entries).lookup n = if n = name then some value else entries.lookup n := by
  induction entries with
  | nil =>
    simp only [putEntry, List.lookup_cons, List.lookup_nil]
    grind
  | cons entry rest ih =>
    obtain ⟨m, v⟩ := entry
    simp only [putEntry]
    split
    next same =>
      simp only [List.lookup_cons]
      grind
    next different =>
      simp only [List.lookup_cons, ih]
      grind

theorem mem_of_lookup_eq_some {α : Type} {name : String} {value : α}
    {entries : List (String × α)} (found : entries.lookup name = some value) :
    (name, value) ∈ entries := by
  induction entries with
  | nil => simp at found
  | cons entry rest ih =>
    obtain ⟨n, v⟩ := entry
    simp only [List.lookup_cons] at found
    split at found
    next same =>
      simp only [beq_iff_eq] at same
      simp_all
    next => exact List.mem_cons_of_mem _ (ih found)

theorem lookup_eq_some_iff {α : Type} {name : String} {value : α} {entries : List (String × α)}
    (distinct : (entries.map Prod.fst).Nodup) :
    entries.lookup name = some value ↔ (name, value) ∈ entries := by
  constructor
  · exact mem_of_lookup_eq_some
  · intro membership
    induction entries with
    | nil => cases membership
    | cons entry rest ih =>
      obtain ⟨n, v⟩ := entry
      obtain ⟨fresh, distinct⟩ := List.nodup_cons.mp distinct
      rw [List.lookup_cons]
      rcases List.mem_cons.mp membership with same | inRest
      · cases same
        simp
      · have different : (name == n) = false := by
          rw [beq_eq_false_iff_ne]
          rintro rfl
          exact fresh (List.mem_map.mpr ⟨_, inRest, rfl⟩)
        rw [different]
        exact ih distinct inRest

theorem lookup_perm {α : Type} {entries other : List (String × α)} (same : entries.Perm other)
    (distinct : (entries.map Prod.fst).Nodup) (name : String) :
    entries.lookup name = other.lookup name := by
  apply Option.ext
  intro value
  rw [lookup_eq_some_iff distinct, lookup_eq_some_iff ((same.map Prod.fst).nodup distinct),
    same.mem_iff]

/-- Names with values, in the order in which the names came. -/
structure Dict (α : Type) where
  /-- The names and their values. -/
  entries : List (String × α)
  /-- No name stands twice. -/
  distinct : (entries.map Prod.fst).Nodup

namespace Dict

variable {α β : Type}

/-- The dictionary without names. -/
def empty : Dict α := ⟨[], by simp⟩

instance : Inhabited (Dict α) := ⟨empty⟩

/-- Puts a value under a name. -/
def insert (d : Dict α) (name : String) (value : α) : Dict α :=
  ⟨putEntry name value d.entries, nodup_map_putEntry d.distinct⟩

/-- The value of a name. -/
def get? (d : Dict α) (name : String) : Option α := d.entries.lookup name

/-- The names, in order. -/
def keys (d : Dict α) : List String := d.entries.map Prod.fst

/-- Puts values under names, one after the other. -/
def insertAll (d : Dict α) (entries : List (String × α)) : Dict α :=
  entries.foldl (fun d entry => d.insert entry.1 entry.2) d

/-- The dictionary of a list of names and values. -/
def ofList (entries : List (String × α)) : Dict α := empty.insertAll entries

@[simp]
theorem get?_empty (name : String) : (empty : Dict α).get? name = none := rfl

/-- A name has the value that was put under it last. -/
theorem get?_insert (d : Dict α) (name n : String) (value : α) :
    (d.insert name value).get? n = if n = name then some value else d.get? n :=
  lookup_putEntry

/-- Of values put under one name the last one counts. -/
theorem get?_insertAll (d : Dict α) (entries : List (String × α)) (name : String) :
    (d.insertAll entries).get? name = (entries.reverse.lookup name).or (d.get? name) := by
  induction entries generalizing d with
  | nil => rfl
  | cons entry rest ih =>
    obtain ⟨n, v⟩ := entry
    have onward : d.insertAll ((n, v) :: rest) = (d.insert n v).insertAll rest := rfl
    rw [onward, ih, get?_insert, List.reverse_cons, List.lookup_append, Option.or_assoc]
    congr 1
    simp only [List.lookup_cons, List.lookup_nil]
    by_cases same : name = n
    · simp [same]
    · simp [same, beq_false_of_ne same]

theorem mem_of_get?_insertAll {d : Dict α} {entries : List (String × α)} {name : String}
    {value : α} (found : (d.insertAll entries).get? name = some value) :
    d.get? name = some value ∨ (name, value) ∈ entries := by
  rw [get?_insertAll, Option.or_eq_some_iff] at found
  rcases found with last | ⟨_, before⟩
  · exact .inr (List.mem_reverse.mp (mem_of_lookup_eq_some last))
  · exact .inl before

/-- Distinct names are found in whatever order they came. -/
theorem get?_ofList_perm {entries other : List (String × α)} (same : entries.Perm other)
    (distinct : (entries.map Prod.fst).Nodup) (name : String) :
    (ofList entries).get? name = (ofList other).get? name := by
  have reversed : entries.reverse.Perm other.reverse :=
    entries.reverse_perm.trans (same.trans other.reverse_perm.symm)
  have distinctReverse : (entries.reverse.map Prod.fst).Nodup :=
    (entries.reverse_perm.symm.map Prod.fst).nodup distinct
  simp only [ofList, get?_insertAll, get?_empty, Option.or_none]
  exact lookup_perm reversed distinctReverse name

theorem mem_keys_iff {d : Dict α} {name : String} :
    name ∈ d.keys ↔ ∃ value, d.get? name = some value := by
  constructor
  · intro membership
    cases found : d.get? name with
    | some value => exact ⟨value, rfl⟩
    | none =>
      obtain ⟨entry, inEntries, rfl⟩ := List.mem_map.mp membership
      have different := List.lookup_eq_none_iff.mp found entry inEntries
      simp at different
  · rintro ⟨value, found⟩
    exact List.mem_map.mpr ⟨_, mem_of_lookup_eq_some found, rfl⟩

/-- A new name comes last, and a name that is there keeps its place. -/
theorem keys_insert (d : Dict α) (name : String) (value : α) :
    (d.insert name value).keys = if name ∈ d.keys then d.keys else d.keys ++ [name] :=
  map_fst_putEntry name value d.entries

/-- New names come behind the others, each where it comes first. -/
theorem keys_insertAll (d : Dict α) (entries : List (String × α)) :
    (d.insertAll entries).keys =
      d.keys ++ ((entries.map Prod.fst).filter (· ∉ d.keys)).eraseDups := by
  induction entries generalizing d with
  | nil => simp [insertAll]
  | cons entry rest ih =>
    have onward : d.insertAll (entry :: rest) = (d.insert entry.1 entry.2).insertAll rest := rfl
    rw [onward, ih, keys_insert, List.map_cons]
    split
    next there => rw [List.filter_cons_of_neg (by simpa using there)]
    next fresh =>
      rw [List.filter_cons_of_pos (by simpa using fresh), List.eraseDups_cons, List.filter_filter,
        List.append_assoc, List.singleton_append]
      congr 4
      funext n
      by_cases same : n = entry.1
      · simp [same]
      · simp [same]

theorem mem_keys_insertAll {d : Dict α} {entries : List (String × α)} {name : String} :
    name ∈ (d.insertAll entries).keys ↔ name ∈ d.keys ∨ name ∈ entries.map Prod.fst := by
  rw [keys_insertAll, List.mem_append, List.mem_eraseDups, List.mem_filter, decide_eq_true_iff]
  by_cases there : name ∈ d.keys
  · simp [there]
  · simp [there]

theorem keys_ofList (entries : List (String × α)) :
    (ofList entries).keys = (entries.map Prod.fst).eraseDups := by
  have noKeys : (empty : Dict α).keys = [] := rfl
  rw [ofList, keys_insertAll, noKeys, List.nil_append, List.filter_eq_self.mpr]
  simp

/-- Whether there are no names. -/
def isEmpty (d : Dict α) : Bool := d.entries.isEmpty

end Dict

end QueryModel
