import QueryModel.Build.Error
import QueryModel.Settings

/-!
# Flattening and merging selections

A spread stands for the fragment it names.  Flattening replaces spreads by what
they contribute: the fields and inline fragments of the fragment, then those of
its own spreads, in order.  A fragment that is being expanded is not expanded
again, so a fragment may spread itself.

Flattening ends because every expansion adds to the chain a fragment that was not
on it.  `Settings.unexpanded` counts the fragments that are left.

After flattening, fields of one response name are merged.  The first one gives
the field, the selections below all of them are joined.
-/

namespace QueryModel

/-! ## Levels -/

/-- The fields and inline fragments at one level, without spreads. -/
structure Level where
  /-- The fields, in order. -/
  fields : List Field := []
  /-- The inline fragments, in order. -/
  inlines : List InlineFragment := []

/-- Two levels, one after the other. -/
def Level.append (a b : Level) : Level := ⟨a.fields ++ b.fields, a.inlines ++ b.inlines⟩

instance : Append Level := ⟨Level.append⟩

@[simp]
theorem Level.fields_append (a b : Level) : (a ++ b).fields = a.fields ++ b.fields := rfl

@[simp]
theorem Level.inlines_append (a b : Level) : (a ++ b).inlines = a.inlines ++ b.inlines := rfl

/-- What a selection itself brings to its level. -/
def Selection.level (s : Selection) : Level := ⟨s.fields, s.inlines⟩

/-! ## Expanding spreads -/

/-- How many fragments are not on a chain. -/
def Settings.unexpanded (s : Settings) (chain : List String) : Nat :=
  (s.fragments.entries.filter fun entry => !chain.contains entry.1).length

/-- A fragment that is expanded leaves the others off the chain. -/
theorem Settings.unexpanded_lt {s : Settings} {chain : List String} {name : String}
    {f : Fragment} (fresh : chain.contains name = false) (found : s.fragment? name = some f) :
    s.unexpanded (name :: chain) < s.unexpanded chain := by
  have others : (s.fragments.entries.filter fun entry => !(name :: chain).contains entry.1) =
      (s.fragments.entries.filter fun entry => !chain.contains entry.1).filter (·.1 != name) := by
    rw [List.filter_filter]
    refine List.filter_congr fun entry _ => ?_
    rw [List.contains_cons, Bool.not_or]
    rfl
  rw [unexpanded, unexpanded, others, List.length_filter_lt_length_iff_exists]
  refine ⟨(name, f), List.mem_filter.mpr ⟨mem_of_lookup_eq_some found, ?_⟩, ?_⟩
  · rw [fresh]
    rfl
  · simp

/-- What spreads contribute to a level, in order.  `chain` holds the fragments
that are being expanded. -/
def Settings.contributions (s : Settings) (path : String) (chain : List String) :
    List String → Build Level
  | [] => .ok {}
  | spread :: rest =>
    if fresh : chain.contains spread = false then
      match found : s.fragment? spread with
      | none => .error (.unknownFragment spread path)
      | some f => do
        have := Settings.unexpanded_lt fresh found
        let inner ← s.contributions path (spread :: chain) f.fragmentSpreads
        let later ← s.contributions path chain rest
        return f.selection.level ++ inner ++ later
    else
      s.contributions path chain rest
termination_by spreads => (s.unexpanded chain, spreads.length)

/-- The level of a selection: what it brings itself, then what its spreads
contribute. -/
def Context.flatten (c : Context) (chain : List String) (s : Selection) : Build Level := do
  return s.level ++ (← c.settings.contributions c.pathText chain s.spreads)

/-! ## Merging fields -/

/-- All fields of one response name. -/
structure MergedField where
  /-- The first of them. -/
  first : Field
  /-- The selections below them, joined. -/
  nested : Selection
  /-- Whether one of them has a selection. -/
  hasSelection : Bool
  /-- Whether all of them carry conditions. -/
  conditional : Bool

namespace MergedField

/-- A field on its own. -/
def ofField (f : Field) : MergedField := ⟨f, f.selection, f.hasSelection, f.isConditional⟩

/-- Adds a field of the same response name. -/
def add (m : MergedField) (f : Field) : MergedField :=
  { m with
    nested := m.nested ++ f.selection
    hasSelection := m.hasSelection || f.hasSelection
    conditional := m.conditional && f.isConditional }

end MergedField

/-- Merges a field into the first of its response name, or adds it at the end. -/
def mergeField (f : Field) : List MergedField → List MergedField
  | [] => [.ofField f]
  | m :: ms =>
    if m.first.responseName = f.responseName then m.add f :: ms else m :: mergeField f ms

/-- Merges fields by response name, in order of first occurrence. -/
def mergeFields (fields : List Field) : List MergedField :=
  fields.foldl (fun ms f => mergeField f ms) []

end QueryModel
