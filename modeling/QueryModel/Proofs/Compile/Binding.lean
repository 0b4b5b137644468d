import QueryModel.Proofs.Compile.Checks
import QueryModel.Proofs.Dictionaries

/-!
# Binding values to variables

Binding makes two passes over the declared variables.  The first looks for a variable that has to
have a value and has none (`VariableMember.Refuses`), and the first such variable is named in the
error (`bind_eq_error_iff`).  The second takes the given values in the order of the declarations
(`bind_eq_ok_iff`).

Both passes ask for the values of declared names and for nothing else (`bind_congr`).  So the order
of the given values and what is given beyond the declared names do not matter, and values that
were bound are bound again as they are.
-/

namespace QueryModel

/-- A variable that has to have a value is given none, or null. -/
def VariableMember.Refuses (v : VariableMember) (values : Dict Json) : Prop :=
  v.enforcedNonNull = true ∧ values.Lacks v.graphqlName

namespace VariablesType

/-- The names under which the values of the variables are given, in the order of declaration. -/
def declaredNames (t : VariablesType) : List String := t.members.map (·.graphqlName)

/-- What binding makes of the given values. -/
structure Binds (t : VariablesType) (values bound : Dict Json) : Prop where
  /-- The declared names that are given, each where it is declared first. -/
  keys : bound.keys = (t.declaredNames.filter (· ∈ values.keys)).eraseDups
  /-- Every value is the given one. -/
  given : ∀ name ∈ bound.keys, bound.get? name = values.get? name

variable {t : VariablesType} {values bound : Dict Json}

/-! ## The two passes -/

theorem lacks_iff_refuses {v : VariableMember} : lacks values v = true ↔ v.Refuses values :=
  lacks_eq_true

/-- The error names the first variable that refuses the values. -/
theorem bind_eq_error_iff {e : VariableNull} :
    t.bind values = .error e ↔
      ∃ before v after, t.members = before ++ v :: after ∧ (∀ u ∈ before, ¬ u.Refuses values) ∧
        v.Refuses values ∧ e.parameter = v.name := by
  have first : t.bind values = .error e ↔
      ∃ v, t.members.find? (lacks values) = some v ∧ e.parameter = v.name := by
    obtain ⟨parameter⟩ := e
    rw [bind]
    cases t.members.find? (lacks values) with
    | none => simp
    | some v => simp [eq_comm]
  have passes {u : VariableMember} : (!lacks values u) = true ↔ ¬ u.Refuses values := by
    rw [Bool.not_eq_true', ← Bool.not_eq_true, lacks_iff_refuses]
  rw [first]
  constructor
  · rintro ⟨v, found, named⟩
    obtain ⟨refuses, before, after, members, passed⟩ := List.find?_eq_some_iff_append.mp found
    exact ⟨before, v, after, members, fun u earlier => passes.mp (passed u earlier),
      lacks_iff_refuses.mp refuses, named⟩
  · rintro ⟨before, v, after, members, passed, refuses, named⟩
    refine ⟨v, List.find?_eq_some_iff_append.mpr ?_, named⟩
    exact ⟨lacks_iff_refuses.mpr refuses, before, after, members,
      fun u earlier => passes.mpr (passed u earlier)⟩

theorem exists_bind_eq_error_iff :
    (∃ e, t.bind values = .error e) ↔ ∃ v ∈ t.members, v.Refuses values := by
  constructor
  · rintro ⟨e, refused⟩
    obtain ⟨before, v, after, members, -, refuses, -⟩ := bind_eq_error_iff.mp refused
    exact ⟨v, by simp [members], refuses⟩
  · rintro ⟨v, membership, refuses⟩
    cases result : t.bind values with
    | error e => exact ⟨e, rfl⟩
    | ok bound => exact absurd refuses.2 (not_lacks_of_bind_eq_ok result membership refuses.1)

/-- What is not refused is what the declared names get from the values. -/
theorem bind_eq_ok_iff :
    t.bind values = .ok bound ↔
      (∀ v ∈ t.members, ¬ v.Refuses values) ∧ bound = .ofNames t.declaredNames values.get? := by
  have taken : (t.members.filterMap fun v =>
      (values.get? v.graphqlName).map fun value => (v.graphqlName, value)) =
      t.declaredNames.filterMap fun name => (values.get? name).map (name, ·) := by
    rw [declaredNames, List.filterMap_map]
    rfl
  have passes : t.members.find? (lacks values) = none ↔ ∀ v ∈ t.members, ¬ v.Refuses values := by
    rw [List.find?_eq_none]
    exact forall₂_congr fun v _ => not_congr lacks_iff_refuses
  rw [bind, ← passes, taken]
  cases t.members.find? (lacks values) with
  | none => simp [Dict.ofNames, eq_comm]
  | some v => simp

theorem binds_ofNames : t.Binds values (.ofNames t.declaredNames values.get?) := by
  constructor
  · rw [Dict.keys_ofNames]
    congr 2
    funext name
    rw [Bool.eq_iff_iff, decide_eq_true_iff, Dict.mem_keys_iff, Option.isSome_iff_exists]
  · intro name membership
    rw [Dict.keys_ofNames, List.mem_eraseDups, List.mem_filter] at membership
    rw [Dict.get?_ofNames, if_pos membership.1]

/-! ## What binding depends on -/

/-- Binding asks for the values of the declared names only. -/
theorem bind_congr {other : Dict Json}
    (same : ∀ v ∈ t.members, other.get? v.graphqlName = values.get? v.graphqlName) :
    t.bind other = t.bind values := by
  have sameRefusal : ∀ v ∈ t.members, (v.Refuses other ↔ v.Refuses values) := by
    intro v membership
    rw [VariableMember.Refuses, VariableMember.Refuses, Dict.Lacks, Dict.Lacks, same v membership]
  cases result : t.bind values with
  | error e =>
    obtain ⟨before, v, after, members, passed, refuses, named⟩ := bind_eq_error_iff.mp result
    refine bind_eq_error_iff.mpr ⟨before, v, after, members, fun u earlier => ?_, ?_, named⟩
    · intro refused
      exact passed u earlier ((sameRefusal u (by simp [members, earlier])).mp refused)
    · exact (sameRefusal v (by simp [members])).mpr refuses
  | ok bound =>
    obtain ⟨passed, rfl⟩ := bind_eq_ok_iff.mp result
    refine bind_eq_ok_iff.mpr ⟨fun v membership refused => ?_, ?_⟩
    · exact passed v membership ((sameRefusal v membership).mp refused)
    · refine Dict.ofNames_congr fun name declared => ?_
      obtain ⟨v, membership, rfl⟩ := List.mem_map.mp declared
      exact (same v membership).symm

theorem bind_bound (accepted : t.bind values = .ok bound) : t.bind bound = .ok bound := by
  obtain ⟨-, rfl⟩ := bind_eq_ok_iff.mp accepted
  rw [← accepted]
  refine bind_congr fun v membership => ?_
  have declared : v.graphqlName ∈ t.declaredNames := List.mem_map.mpr ⟨v, membership, rfl⟩
  rw [Dict.get?_ofNames, if_pos declared]

/-- Binding is refused exactly when a variable that has to have a value is given none or null, and
the error names the first such variable.  Otherwise the given values of the declared names are
bound, in the order of declaration.  Neither the order of the given values nor values for other
names matter, and what was bound is bound again as it is. -/
theorem bind_exact (t : VariablesType) (values : Dict Json) :
    ((∃ e, t.bind values = .error e) ↔ ∃ v ∈ t.members, v.Refuses values) ∧
    (∀ e, t.bind values = .error e ↔
      ∃ before v after, t.members = before ++ v :: after ∧ (∀ u ∈ before, ¬ u.Refuses values) ∧
        v.Refuses values ∧ e.parameter = v.name) ∧
    ((∀ v ∈ t.members, ¬ v.Refuses values) →
      ∃ bound, t.bind values = .ok bound ∧ t.Binds values bound) ∧
    (∀ other, other.entries.Perm values.entries → t.bind other = t.bind values) ∧
    (∀ other, (∀ v ∈ t.members, other.get? v.graphqlName = values.get? v.graphqlName) →
      t.bind other = t.bind values) ∧
    ∀ bound, t.bind values = .ok bound → t.bind bound = .ok bound := by
  refine ⟨exists_bind_eq_error_iff, fun _ => bind_eq_error_iff, fun passed => ?_,
    fun other same => ?_, fun _ => bind_congr, fun _ => bind_bound⟩
  · exact ⟨_, bind_eq_ok_iff.mpr ⟨passed, rfl⟩, binds_ofNames⟩
  · exact bind_congr fun v _ => lookup_perm same other.distinct v.graphqlName

end VariablesType

namespace Sample

/-- A variable that is checked, one that is not, and the first once more. -/
def heroFilter : VariablesType :=
  ⟨"Variables",
    [⟨"hero", "hero", ⟨.text, .nonNull, false⟩, true⟩,
     ⟨"episode", "Episode", ⟨.text, .nullable .annotated, false⟩, false⟩,
     ⟨"hero", "hero", ⟨.text, .nonNull, false⟩, true⟩]⟩

/-- Values in another order, with one for an unknown name and null for the variable that is not
checked. -/
def heroValues : Dict Json := .ofList [("Episode", .null), ("page", .null), ("hero", .text "r2")]

/-- Nothing is given for the variable that is checked. -/
def noHero : Dict Json := .ofList [("Episode", .null), ("hero", .null)]

theorem bind_exact_heroFilter :
    (∃ bound, heroFilter.bind heroValues = .ok bound ∧ bound.keys = ["hero", "Episode"] ∧
      bound.get? "Episode" = some .null ∧ heroFilter.bind bound = .ok bound) ∧
      heroFilter.bind noHero = .error ⟨"hero"⟩ := by
  obtain ⟨-, -, accepts, -, -, again⟩ := VariablesType.bind_exact heroFilter heroValues
  have hero : ¬ heroValues.Lacks "hero" := by
    intro lacks
    have given : heroValues.get? "hero" = some (.text "r2") := rfl
    cases lacks _ given
  have passed : ∀ v ∈ heroFilter.members, ¬ v.Refuses heroValues := by
    intro v membership refuses
    simp only [heroFilter, List.mem_cons, List.not_mem_nil, or_false] at membership
    rcases membership with rfl | rfl | rfl
    · exact hero refuses.2
    · cases refuses.1
    · exact hero refuses.2
  obtain ⟨bound, accepted, binds⟩ := accepts passed
  have keys : bound.keys = ["hero", "Episode"] := binds.keys.trans (by decide +kernel)
  have episode : "Episode" ∈ bound.keys := by simp [keys]
  refine ⟨⟨bound, accepted, keys, binds.given _ episode, again bound accepted⟩, ?_⟩
  obtain ⟨-, refused, -⟩ := VariablesType.bind_exact heroFilter noHero
  have lacks : noHero.Lacks "hero" := by
    intro value found
    cases found
    rfl
  exact (refused _).mpr ⟨[], _, _, rfl, by simp, ⟨rfl, lacks⟩, rfl⟩

end Sample

end QueryModel
