import Mathlib.Logic.ExistsUnique
import Mathlib.Logic.Relation
import QueryModel.Proofs.Shape.Depth

/-!
# Spreads as fragments written out

A spread stands for the fields and inline fragments of its fragment, followed by what the
spreads of the fragment stand for.  `Settings.Unfolds` says this without a chain, so it has
no answer where fragments spread each other in circles, and no answer where a fragment is
missing.  Everywhere else it has one.

Flattening keeps a chain to get out of circles.  Where there are none the chain holds no
spread back, because the names on it are those that led to the current spreads
(`exists_unfolds`).  A shape depends on its selection through the level only
(`shape_congr`).  So a selection has the same shape, or fails in the same way, when its
spreads are replaced by what they stand for (`shape_writtenOut`).
-/

namespace QueryModel

theorem Level.append_empty (level : Level) : level ++ ({} : Level) = level := by
  show Level.mk (level.fields ++ []) (level.inlines ++ []) = level
  rw [List.append_nil, List.append_nil]

/-! ## Unfolding spreads -/

namespace Settings

/-- The fragment of a name spreads another one, at the same level. -/
def Spreads (s : Settings) (name other : String) : Prop :=
  ∃ f, s.fragment? name = some f ∧ other ∈ f.fragmentSpreads

/-- Some spreads lead to a name, at the same level. -/
def LeadsTo (s : Settings) (spreads : List String) (name : String) : Prop :=
  ∃ spread ∈ spreads, Relation.ReflTransGen s.Spreads spread name

/-- What spreads stand for, depth first. -/
inductive Unfolds (s : Settings) : List String → Level → Prop
  | nil : Unfolds s [] {}
  | cons {spread : String} {rest : List String} {f : Fragment} {inner later : Level} :
      s.fragment? spread = some f → Unfolds s f.fragmentSpreads inner → Unfolds s rest later →
        Unfolds s (spread :: rest) (f.selection.level ++ inner ++ later)

variable {s : Settings} {spread : String} {rest spreads : List String} {name : String}

theorem leadsTo_head : s.LeadsTo (spread :: rest) spread :=
  ⟨spread, List.mem_cons_self .., .refl⟩

theorem LeadsTo.cons (leads : s.LeadsTo rest name) : s.LeadsTo (spread :: rest) name := by
  obtain ⟨first, membership, path⟩ := leads
  exact ⟨first, List.mem_cons_of_mem _ membership, path⟩

theorem LeadsTo.transGen {f : Fragment} (found : s.fragment? spread = some f)
    (leads : s.LeadsTo f.fragmentSpreads name) : Relation.TransGen s.Spreads spread name := by
  obtain ⟨first, membership, path⟩ := leads
  exact .head' ⟨f, found, membership⟩ path

theorem Unfolds.unique {a b : Level} (first : s.Unfolds spreads a)
    (second : s.Unfolds spreads b) : a = b := by
  induction first generalizing b with
  | nil =>
    cases second
    rfl
  | cons found _ _ ihInner ihLater =>
    cases second with
    | cons foundAgain inner later =>
      rw [found] at foundAgain
      cases foundAgain
      rw [ihInner inner, ihLater later]

/-- By induction on the expansion.  The chain grows by the spread that is expanded, and
without circles that spread is not met below itself. -/
theorem exists_unfolds (path : String) (chain : List String)
    (known : ∀ n, s.LeadsTo spreads n → ∃ f, s.fragment? n = some f)
    (acyclic : ∀ n, s.LeadsTo spreads n → ¬ Relation.TransGen s.Spreads n n)
    (free : ∀ n, s.LeadsTo spreads n → n ∉ chain) :
    ∃ level, s.contributions path chain spreads = .ok level ∧ s.Unfolds spreads level := by
  fun_induction contributions s path chain spreads with
  | case1 => exact ⟨{}, rfl, .nil⟩
  | case2 chain spread rest fresh missing =>
    obtain ⟨f, found⟩ := known spread leadsTo_head
    rw [missing] at found
    cases found
  | case3 chain spread rest fresh f found smaller ihInner ihLater =>
    have below : ∀ n, s.LeadsTo f.fragmentSpreads n → s.LeadsTo (spread :: rest) n := by
      intro n leads
      exact ⟨spread, List.mem_cons_self .., (leads.transGen found).to_reflTransGen⟩
    have notAgain : ∀ n, s.LeadsTo f.fragmentSpreads n → n ∉ spread :: chain := by
      intro n leads membership
      cases List.mem_cons.mp membership with
      | inl same =>
        subst same
        exact acyclic n leadsTo_head (leads.transGen found)
      | inr onChain => exact free n (below n leads) onChain
    obtain ⟨inner, innerMade, innerUnfolds⟩ :=
      ihInner (fun n leads => known n (below n leads)) (fun n leads => acyclic n (below n leads))
        notAgain
    obtain ⟨later, laterMade, laterUnfolds⟩ :=
      ihLater (fun n leads => known n leads.cons) (fun n leads => acyclic n leads.cons)
        fun n leads => free n leads.cons
    refine ⟨f.selection.level ++ inner ++ later, ?_, .cons found innerUnfolds laterUnfolds⟩
    rw [innerMade, laterMade]
    rfl
  | case4 chain spread rest onChain ih =>
    exact absurd (by simpa using onChain) (free spread leadsTo_head)

end Settings

/-! ## Shapes -/

/-- The selection with a level in place of its spreads. -/
def Selection.writtenOut (sel : Selection) (level : Level) : Selection :=
  ⟨sel.fields ++ level.fields, [], sel.inlines ++ level.inlines⟩

namespace Context

variable {c : Context} {chain : List String} {name : String} {sel : Selection}

theorem flatten_writtenOut (c : Context) (chain : List String) (sel : Selection) (level : Level) :
    c.flatten chain (sel.writtenOut level) = .ok (sel.level ++ level) := by
  rw [flatten, Selection.writtenOut, Settings.contributions]
  exact congrArg Except.ok (Level.append_empty _)

theorem shape_congr {other : Selection} (same : c.flatten chain sel = c.flatten chain other) :
    c.shape chain name sel = c.shape chain name other := by
  rw [shape_eq, shape_eq, same]

/-- If all fragments that the spreads of a selection lead to are there and none of them leads
to itself, then the spreads stand for one level.  The selection is built as if it had that
level in place of the spreads. -/
theorem shape_writtenOut
    (known : ∀ n, c.settings.LeadsTo sel.spreads n → ∃ f, c.settings.fragment? n = some f)
    (acyclic : ∀ n, c.settings.LeadsTo sel.spreads n →
      ¬ Relation.TransGen c.settings.Spreads n n) :
    (∃! level, c.settings.Unfolds sel.spreads level) ∧
      ∀ level, c.settings.Unfolds sel.spreads level →
        c.shape [] name sel = c.shape [] name (sel.writtenOut level) := by
  obtain ⟨level, made, unfolds⟩ := Settings.exists_unfolds c.pathText [] known acyclic
    fun n _ => List.not_mem_nil
  refine ⟨⟨level, unfolds, fun other otherUnfolds => otherUnfolds.unique unfolds⟩, ?_⟩
  intro other otherUnfolds
  rw [otherUnfolds.unique unfolds]
  apply shape_congr
  rw [flatten_writtenOut, flatten, made]
  rfl

end Context

namespace Sample

/-- A fragment of a name with some fields, spreads and inline fragments. -/
def fragmentOf (name : String) (fields : List Field) (spreads : List String)
    (inlines : List InlineFragment) : Fragment :=
  { fragment with
    fragmentName := name, fields, fragmentSpreads := spreads, inlineFragments := inlines }

def asDroid : InlineFragment := ⟨"Droid", none, [.leaf "model" "String"], some ["Named"]⟩

/-- Three fragments, of which two spread the third. -/
def diamond : Context :=
  { settings := .ofConfig {}
      { fragments := [fragmentOf "Hero" [.leaf "id" "ID!"] ["Named", "Entity"] [],
          fragmentOf "Named" [.leaf "name" "String"] [] [],
          fragmentOf "Entity" [.leaf "created" "Int!"] ["Named"] [asDroid]] } "" }

def rank : String → Nat
  | "Hero" => 2
  | "Entity" => 1
  | _ => 0

theorem found_of_spreads {name other : String} (spreads : diamond.settings.Spreads name other) :
    (∃ f, diamond.settings.fragment? other = some f) ∧ rank other < rank name := by
  obtain ⟨f, found, membership⟩ := spreads
  have checked : ∀ entry ∈ diamond.settings.fragments.entries,
      ∀ other ∈ entry.2.fragmentSpreads,
        (diamond.settings.fragment? other).isSome = true ∧ rank other < rank entry.1 := by
    decide +kernel
  obtain ⟨isThere, lower⟩ := checked _ (mem_of_lookup_eq_some found) other membership
  exact ⟨Option.isSome_iff_exists.mp isThere, lower⟩

theorem rank_lt_of_transGen {name other : String}
    (path : Relation.TransGen diamond.settings.Spreads name other) : rank other < rank name := by
  induction path with
  | single spreads => exact (found_of_spreads spreads).2
  | tail _ spreads ih => exact Nat.lt_trans (found_of_spreads spreads).2 ih

/-- The fragment that two others spread is written out twice. -/
theorem shape_writtenOut_diamond :
    ∃ shape, diamond.shape [] "Data" ⟨[.leaf "name" "String!"], ["Hero"], []⟩ = .ok shape ∧
      diamond.shape [] "Data"
        ⟨[.leaf "name" "String!", .leaf "id" "ID!", .leaf "name" "String", .leaf "created" "Int!",
          .leaf "name" "String"], [], [asDroid]⟩ = .ok shape := by
  let sel : Selection := ⟨[.leaf "name" "String!"], ["Hero"], []⟩
  have few : diamond.freeNames "Data" sel < 20 := by decide +kernel
  have isBuilt : ∃ shape, diamond.shape [] "Data" sel = .ok shape :=
    Context.exists_shape few (by decide +kernel)
  have known : ∀ n, diamond.settings.LeadsTo sel.spreads n →
      ∃ f, diamond.settings.fragment? n = some f := by
    rintro n ⟨spread, membership, path⟩
    cases path with
    | refl =>
      cases List.mem_singleton.mp membership
      exact ⟨_, rfl⟩
    | tail _ spreads => exact (found_of_spreads spreads).1
  have acyclic : ∀ n, diamond.settings.LeadsTo sel.spreads n →
      ¬ Relation.TransGen diamond.settings.Spreads n n := by
    intro n _ circle
    exact Nat.lt_irrefl _ (rank_lt_of_transGen circle)
  have named : diamond.settings.Unfolds ["Named"] _ := .cons rfl .nil .nil
  have entity : diamond.settings.Unfolds ["Entity"] _ := .cons rfl named .nil
  have both : diamond.settings.Unfolds ["Named", "Entity"] _ := .cons rfl .nil entity
  have hero : diamond.settings.Unfolds ["Hero"] _ := .cons rfl both .nil
  obtain ⟨shape, built⟩ := isBuilt
  exact ⟨shape, built, ((Context.shape_writtenOut known acyclic).2 _ hero).symm.trans built⟩

end Sample

end QueryModel
