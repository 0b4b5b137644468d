import Mathlib.Logic.Basic
import QueryModel.Proofs.Shape.Merging

/-!
# Flattening finds what a selection offers

A selection *offers* its own fields and inline fragments, and those of every
fragment that its spreads reach.  Spreads reach the fragments they name, and what
the spreads of those reach.  This is the least fixed point, so it makes sense for
fragments that spread each other in circles.

Flattening computes it by depth-first expansion.  It skips the fragments on its
chain.  A fragment that is skipped was reached before on the same chain, and
whatever it reaches is reached without passing it twice.  `ReachesPast` is the
relation that expansion computes, and `ReachesPast.split` is the step that cuts a
detour out.  With an empty chain nothing is lost, so the level of a selection holds
exactly what the selection offers.
-/

namespace QueryModel

/-! ## Reaching fragments -/

namespace Settings

/-- The spreads reach a fragment, at the same level. -/
inductive Reaches (s : Settings) : List String → Fragment → Prop
  /-- One of the spreads names it. -/
  | here {spreads : List String} {name : String} {f : Fragment} :
      name ∈ spreads → s.fragment? name = some f → Reaches s spreads f
  /-- The spreads of a fragment that one of the spreads names reach it. -/
  | through {spreads : List String} {name : String} {g f : Fragment} :
      name ∈ spreads → s.fragment? name = some g → Reaches s g.fragmentSpreads f →
        Reaches s spreads f

/-- The spreads reach a fragment without a name on the chain. -/
inductive ReachesPast (s : Settings) (chain : List String) : List String → Fragment → Prop
  /-- One of the spreads names it. -/
  | here {spreads : List String} {name : String} {f : Fragment} :
      name ∈ spreads → name ∉ chain → s.fragment? name = some f → ReachesPast s chain spreads f
  /-- The spreads of a fragment that one of the spreads names reach it. -/
  | through {spreads : List String} {name : String} {g f : Fragment} :
      name ∈ spreads → name ∉ chain → s.fragment? name = some g →
        ReachesPast s chain g.fragmentSpreads f → ReachesPast s chain spreads f

/-- An empty chain is no restriction. -/
theorem reachesPast_nil {s : Settings} {spreads : List String} {f : Fragment} :
    s.ReachesPast [] spreads f ↔ s.Reaches spreads f := by
  constructor
  · intro reached
    induction reached with
    | here spread _ found => exact .here spread found
    | through spread _ found _ ih => exact .through spread found ih
  · intro reached
    induction reached with
    | here spread found => exact .here spread List.not_mem_nil found
    | through spread found _ ih => exact .through spread List.not_mem_nil found ih

namespace ReachesPast

variable {s : Settings} {chain spreads : List String} {f : Fragment}

/-- No spreads reach nothing. -/
theorem not_nil : ¬ s.ReachesPast chain [] f := by
  intro reached
  cases reached with
  | here spread => cases spread
  | through spread => cases spread

/-- More spreads reach more. -/
theorem mono {more : List String} (reached : s.ReachesPast chain spreads f)
    (subset : ∀ name ∈ spreads, name ∈ more) : s.ReachesPast chain more f := by
  cases reached with
  | here spread free found => exact .here (subset _ spread) free found
  | through spread free found onward => exact .through (subset _ spread) free found onward

/-- A shorter chain lets more through. -/
theorem of_cons {name : String} (reached : s.ReachesPast (name :: chain) spreads f) :
    s.ReachesPast chain spreads f := by
  induction reached with
  | here spread free found => exact .here spread (fun known => free (.tail _ known)) found
  | through spread free found _ ih =>
    exact .through spread (fun known => free (.tail _ known)) found ih

/-- What is reached is a given fragment, or is reached from it without coming back to
it, or is reached without passing it. -/
theorem split {name : String} {g : Fragment} (found : s.fragment? name = some g)
    (reached : s.ReachesPast chain spreads f) :
    f = g ∨ s.ReachesPast (name :: chain) g.fragmentSpreads f ∨
      s.ReachesPast (name :: chain) spreads f := by
  induction reached with
  | @here spreads other f spread free foundOther =>
    by_cases same : other = name
    · subst same
      rw [found, Option.some.injEq] at foundOther
      exact .inl foundOther.symm
    · exact .inr (.inr (.here spread (by simp [same, free]) foundOther))
  | @through spreads other h f spread free foundOther _ ih =>
    rcases ih with reachedNow | fromIt | past
    · exact .inl reachedNow
    · exact .inr (.inl fromIt)
    · by_cases same : other = name
      · subst same
        rw [found, Option.some.injEq] at foundOther
        subst foundOther
        exact .inr (.inl past)
      · exact .inr (.inr (.through spread (by simp [same, free]) foundOther past))

/-- The first of some spreads names the fragment, or leads to it, or is not needed. -/
theorem cons_iff {name : String} {g : Fragment} (free : name ∉ chain)
    (found : s.fragment? name = some g) :
    s.ReachesPast chain (name :: spreads) f ↔
      f = g ∨ s.ReachesPast (name :: chain) g.fragmentSpreads f ∨
        s.ReachesPast chain spreads f := by
  constructor
  · intro reached
    have fromHead : s.ReachesPast chain g.fragmentSpreads f →
        f = g ∨ s.ReachesPast (name :: chain) g.fragmentSpreads f := by
      intro onward
      rcases onward.split found with here | past | past
      · exact .inl here
      · exact .inr past
      · exact .inr past
    cases reached with
    | here spread freeOther foundOther =>
      rcases List.mem_cons.mp spread with rfl | later
      · rw [found, Option.some.injEq] at foundOther
        exact .inl foundOther.symm
      · exact .inr (.inr (.here later freeOther foundOther))
    | through spread freeOther foundOther onward =>
      rcases List.mem_cons.mp spread with rfl | later
      · rw [found, Option.some.injEq] at foundOther
        subst foundOther
        exact (fromHead onward).imp_right .inl
      · exact .inr (.inr (.through later freeOther foundOther onward))
  · rintro (rfl | onward | reached)
    · exact .here (List.mem_cons_self ..) free found
    · exact .through (List.mem_cons_self ..) free found onward.of_cons
    · exact reached.mono fun _ => List.mem_cons_of_mem _

/-- A spread on the chain is not needed. -/
theorem cons_iff_of_mem {name : String} (known : name ∈ chain) :
    s.ReachesPast chain (name :: spreads) f ↔ s.ReachesPast chain spreads f := by
  constructor
  · intro reached
    cases reached with
    | here spread free found =>
      rcases List.mem_cons.mp spread with rfl | later
      · exact absurd known free
      · exact .here later free found
    | through spread free found onward =>
      rcases List.mem_cons.mp spread with rfl | later
      · exact absurd known free
      · exact .through later free found onward
  · intro reached
    exact reached.mono fun _ => List.mem_cons_of_mem _

end ReachesPast

/-! ## Contributions -/

/-- What spreads contribute is what the fragments hold that they reach past the
chain. -/
theorem contributions_eq_ok {s : Settings} {path : String} {chain spreads : List String}
    {level : Level} (contributed : s.contributions path chain spreads = .ok level) :
    ∃ fragments : List Fragment,
      level.fields = fragments.flatMap (·.fields) ∧
      level.inlines = fragments.flatMap (·.inlineFragments) ∧
      ∀ g, g ∈ fragments ↔ s.ReachesPast chain spreads g := by
  fun_induction Settings.contributions s path chain spreads generalizing level with
  | case1 =>
    cases contributed
    exact ⟨[], rfl, rfl, fun g => by simp [ReachesPast.not_nil]⟩
  | case2 => cases contributed
  | case3 chain spread rest fresh f found smaller ihInner ihLater =>
    obtain ⟨innerLevel, inner, contributed⟩ := Build.bind_eq_ok.mp contributed
    obtain ⟨laterLevel, later, contributed⟩ := Build.bind_eq_ok.mp contributed
    cases contributed
    obtain ⟨innerFragments, innerFields, innerInlines, innerMem⟩ := ihInner inner
    obtain ⟨laterFragments, laterFields, laterInlines, laterMem⟩ := ihLater later
    refine ⟨f :: (innerFragments ++ laterFragments), ?_, ?_, fun g => ?_⟩
    · simp only [Level.fields_append, innerFields, laterFields, List.flatMap_cons,
        List.flatMap_append, List.append_assoc]
      rfl
    · simp only [Level.inlines_append, innerInlines, laterInlines, List.flatMap_cons,
        List.flatMap_append, List.append_assoc]
      rfl
    · rw [ReachesPast.cons_iff (by simpa using fresh) found, ← innerMem, ← laterMem,
        List.mem_cons, List.mem_append]
  | case4 chain spread rest known ih =>
    obtain ⟨fragments, fields, inlines, mem⟩ := ih contributed
    refine ⟨fragments, fields, inlines, fun g => ?_⟩
    rw [mem, ReachesPast.cons_iff_of_mem (by simpa using known)]

/-! ## Offers -/

/-- A selection offers a field. -/
def OffersField (s : Settings) (sel : Selection) (f : Field) : Prop :=
  f ∈ sel.fields ∨ ∃ g, s.Reaches sel.spreads g ∧ f ∈ g.fields

/-- A selection offers an inline fragment. -/
def OffersInline (s : Settings) (sel : Selection) (i : InlineFragment) : Prop :=
  i ∈ sel.inlines ∨ ∃ g, s.Reaches sel.spreads g ∧ i ∈ g.inlineFragments

/-- Joined spreads reach what one of them reaches. -/
theorem reaches_flatMap {s : Settings} {α : Type} {l : List α} {spreads : α → List String}
    {f : Fragment} : s.Reaches (l.flatMap spreads) f ↔ ∃ x ∈ l, s.Reaches (spreads x) f := by
  constructor
  · intro reached
    cases reached with
    | here spread found =>
      obtain ⟨x, membership, spread⟩ := List.mem_flatMap.mp spread
      exact ⟨x, membership, .here spread found⟩
    | through spread found onward =>
      obtain ⟨x, membership, spread⟩ := List.mem_flatMap.mp spread
      exact ⟨x, membership, .through spread found onward⟩
  · rintro ⟨x, membership, reached⟩
    cases reached with
    | here spread found => exact .here (List.mem_flatMap.mpr ⟨x, membership, spread⟩) found
    | through spread found onward =>
      exact .through (List.mem_flatMap.mpr ⟨x, membership, spread⟩) found onward

theorem not_reaches_nil {s : Settings} {f : Fragment} : ¬ s.Reaches [] f := by
  intro reached
  exact ReachesPast.not_nil (reachesPast_nil.mpr reached)

/-- Without spreads, a selection offers its own fields. -/
theorem offersField_fields {s : Settings} {fields : List Field} {f : Field} :
    s.OffersField { fields } f ↔ f ∈ fields := by
  constructor
  · rintro (own | ⟨g, reached, _⟩)
    · exact own
    · exact absurd reached not_reaches_nil
  · exact .inl

/-- Joined selections offer the fields that one of them offers. -/
theorem offersField_joined {s : Settings} {l : List Selection} {f : Field} :
    s.OffersField (.joined l) f ↔ ∃ sel ∈ l, s.OffersField sel f := by
  simp only [OffersField, Selection.joined, reaches_flatMap, List.mem_flatMap]
  grind

/-- Joined selections offer the inline fragments that one of them offers. -/
theorem offersInline_joined {s : Settings} {l : List Selection} {i : InlineFragment} :
    s.OffersInline (.joined l) i ↔ ∃ sel ∈ l, s.OffersInline sel i := by
  simp only [OffersInline, Selection.joined, reaches_flatMap, List.mem_flatMap]
  grind

end Settings

namespace Context

/-- The level of a selection is what it brings itself and what the fragments hold that
its spreads reach past the chain. -/
theorem flatten_eq_ok {c : Context} {chain : List String} {sel : Selection} {level : Level}
    (flattened : c.flatten chain sel = .ok level) :
    ∃ fragments : List Fragment,
      level.fields = sel.fields ++ fragments.flatMap (·.fields) ∧
      level.inlines = sel.inlines ++ fragments.flatMap (·.inlineFragments) ∧
      ∀ g, g ∈ fragments ↔ c.settings.ReachesPast chain sel.spreads g := by
  obtain ⟨contributed, result, flattened⟩ := Build.bind_eq_ok.mp flattened
  cases flattened
  obtain ⟨fragments, fields, inlines, mem⟩ := Settings.contributions_eq_ok result
  refine ⟨fragments, ?_, ?_, mem⟩
  · rw [Level.fields_append, fields]
    rfl
  · rw [Level.inlines_append, inlines]
    rfl

/-- The fields of a level are those that the selection offers. -/
theorem mem_fields_of_flatten {c : Context} {sel : Selection} {level : Level}
    (flattened : c.flatten [] sel = .ok level) (f : Field) :
    f ∈ level.fields ↔ c.settings.OffersField sel f := by
  obtain ⟨fragments, fields, -, mem⟩ := flatten_eq_ok flattened
  rw [fields, List.mem_append, List.mem_flatMap, Settings.OffersField]
  simp only [mem, Settings.reachesPast_nil]

/-- A merged field is conditional when all fields of its response name that the selection
offers carry conditions. -/
theorem conditional_of_flatten {c : Context} {sel : Selection} {level : Level}
    (flattened : c.flatten [] sel = .ok level) {m : MergedField}
    (merged : m ∈ mergeFields level.fields) :
    m.conditional = true ↔ ∀ f, c.settings.OffersField sel f → f.responseName = m.responseName →
      f.conditionList ≠ [] := by
  rw [conditional_of_mem_mergeFields merged, List.all_eq_true]
  simp only [mem_fieldsNamed, mem_fields_of_flatten flattened, and_imp, Field.isConditional,
    Bool.not_eq_true', List.isEmpty_eq_false_iff]

/-- The inline fragments of a level are those that the selection offers. -/
theorem mem_inlines_of_flatten {c : Context} {sel : Selection} {level : Level}
    (flattened : c.flatten [] sel = .ok level) (i : InlineFragment) :
    i ∈ level.inlines ↔ c.settings.OffersInline sel i := by
  obtain ⟨fragments, -, inlines, mem⟩ := flatten_eq_ok flattened
  rw [inlines, List.mem_append, List.mem_flatMap, Settings.OffersInline]
  simp only [mem, Settings.reachesPast_nil]

end Context

end QueryModel
