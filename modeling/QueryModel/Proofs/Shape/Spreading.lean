import Mathlib.Data.List.Forall2
import QueryModel.Proofs.Shape.Flattening
import QueryModel.Proofs.Shape.Inlining

/-!
# A fragment and a spread of it

The type of a fragment is built from its selection, with the fragment itself on the chain.  A
spread of the fragment starts with an empty chain, and the fragment is on it only while the spread
is expanded at its own level.  Below a field or an inline fragment the two builds have different
chains.

A chain matters through the names that are spread.  So two chains give the same shape, or the same
error, if they agree on all names that are spread in a selection or below it
(`shape_chain_congr`).  `Settings.Opens` leads from a selection to those directly below it, and
`Settings.Throughout` speaks of all of them.  A fragment that is not spread below itself has the
shape of its spread (`shape_spread`).
-/

namespace QueryModel

/-! ## Contributions of single spreads -/

namespace Settings

variable {s : Settings} {path : String} {chain : List String} {spread : String}
  {rest : List String} {f : Fragment}

theorem contributions_of_mem (onChain : spread ∈ chain) :
    s.contributions path chain (spread :: rest) = s.contributions path chain rest := by
  rw [contributions, dif_neg (by simpa using onChain)]

theorem contributions_of_none (fresh : spread ∉ chain) (missing : s.fragment? spread = none) :
    s.contributions path chain (spread :: rest) = .error (.unknownFragment spread path) := by
  rw [contributions, dif_pos (by simpa using fresh)]
  split
  next => rfl
  next found =>
    rw [missing] at found
    cases found

theorem contributions_of_some (fresh : spread ∉ chain) (found : s.fragment? spread = some f) :
    s.contributions path chain (spread :: rest) = (do
      let inner ← s.contributions path (spread :: chain) f.fragmentSpreads
      let later ← s.contributions path chain rest
      return f.selection.level ++ inner ++ later) := by
  rw [contributions, dif_pos (by simpa using fresh)]
  split
  next missing =>
    rw [found] at missing
    cases missing
  next g foundAgain =>
    rw [found] at foundAgain
    cases foundAgain
    rfl

/-! ## Selections below a selection -/

/-- A selection lies directly below another one: under a field, in an inline fragment, or in a
fragment that is spread. -/
inductive Opens (s : Settings) (sel : Selection) : Selection → Prop
  | field {f : Field} : f ∈ sel.fields → Opens s sel f.selection
  | inline {i : InlineFragment} : i ∈ sel.inlines → Opens s sel i.selection
  | spread {name : String} {f : Fragment} :
      name ∈ sel.spreads → s.fragment? name = some f → Opens s sel f.selection

/-- A property of a selection and of all that lie below it, at any depth. -/
def Throughout (s : Settings) (P : Selection → Prop) (sel : Selection) : Prop :=
  ∀ below, Relation.ReflTransGen s.Opens sel below → P below

/-- What holds of joined selections when it holds of each of them. -/
def Joins (P : Selection → Prop) : Prop :=
  ∀ l : List Selection, (∀ sel ∈ l, P sel) → P (.joined l)

namespace Throughout

variable {P : Selection → Prop} {sel : Selection}

theorem here (throughout : s.Throughout P sel) : P sel := throughout sel .refl

theorem below {inner : Selection} (throughout : s.Throughout P sel) (opens : s.Opens sel inner) :
    s.Throughout P inner := by
  intro below path
  exact throughout below (.head opens path)

theorem mono {Q : Selection → Prop} (throughout : s.Throughout P sel)
    (weaker : ∀ sel, P sel → Q sel) : s.Throughout Q sel := by
  intro below path
  exact weaker below (throughout below path)

theorem intro (holds : P sel) (fields : ∀ f ∈ sel.fields, s.Throughout P f.selection)
    (inlines : ∀ i ∈ sel.inlines, s.Throughout P i.selection)
    (spreads : ∀ name ∈ sel.spreads, ∀ f, s.fragment? name = some f →
      s.Throughout P f.selection) : s.Throughout P sel := by
  intro below path
  rcases Relation.ReflTransGen.cases_head path with rfl | ⟨inner, opens, path⟩
  · exact holds
  · cases opens with
    | field membership => exact fields _ membership below path
    | inline membership => exact inlines _ membership below path
    | spread membership found => exact spreads _ membership _ found below path

theorem empty (holds : P {}) : s.Throughout P {} :=
  .intro holds (List.forall_mem_nil _) (List.forall_mem_nil _) (List.forall_mem_nil _)

/-- The part of `intro` about spreads, for a single one. -/
theorem single (inside : s.Throughout P f.selection) (name : String)
    (found : s.fragment? name = some f) :
    ∀ spread ∈ [name], ∀ g, s.fragment? spread = some g → s.Throughout P g.selection := by
  refine List.forall_mem_singleton.mpr fun g foundAgain => ?_
  rw [found] at foundAgain
  cases foundAgain
  exact inside

theorem joined (joins : Joins P) {l : List Selection} (all : ∀ sel ∈ l, s.Throughout P sel) :
    s.Throughout P (.joined l) := by
  refine .intro (joins l fun sel membership => (all sel membership).here) ?_ ?_ ?_
  · intro f membership
    obtain ⟨sel, inList, own⟩ := List.mem_flatMap.mp membership
    exact (all sel inList).below (.field own)
  · intro i membership
    obtain ⟨sel, inList, own⟩ := List.mem_flatMap.mp membership
    exact (all sel inList).below (.inline own)
  · intro name membership f found
    obtain ⟨sel, inList, own⟩ := List.mem_flatMap.mp membership
    exact (all sel inList).below (.spread own found)

theorem fragment (throughout : s.Throughout P sel)
    (reached : s.ReachesPast chain sel.spreads f) : s.Throughout P f.selection := by
  generalize same : sel.spreads = spreads at reached
  induction reached generalizing sel with
  | here membership _ found =>
    subst same
    exact throughout.below (.spread membership found)
  | through membership _ found _ ih =>
    subst same
    exact ih (throughout.below (.spread membership found)) rfl

end Throughout

end Settings

namespace Context

variable {c : Context} {chain other : List String} {name : String} {sel : Selection}
  {level : Level} {P : Selection → Prop}

/-- The parts of a level come from selections that have the property, too. -/
theorem throughout_origin (throughout : c.settings.Throughout P sel)
    (flattened : c.flatten chain sel = .ok level) :
    ∃ origins : List Selection, (∀ origin ∈ origins, c.settings.Throughout P origin) ∧
      level.fields = origins.flatMap (·.fields) ∧ level.inlines = origins.flatMap (·.inlines) := by
  obtain ⟨fragments, fields, inlines, reached⟩ := flatten_eq_ok flattened
  refine ⟨sel :: fragments.map (·.selection), ?_, ?_, ?_⟩
  · refine List.forall_mem_cons.mpr ⟨throughout, List.forall_mem_map.mpr fun g inList => ?_⟩
    exact throughout.fragment ((reached g).mp inList)
  · rw [fields, List.flatMap_cons, List.flatMap_map]
    rfl
  · rw [inlines, List.flatMap_cons, List.flatMap_map]
    rfl

theorem throughout_field (throughout : c.settings.Throughout P sel)
    (flattened : c.flatten chain sel = .ok level) {f : Field} (membership : f ∈ level.fields) :
    c.settings.Throughout P f.selection := by
  obtain ⟨origins, all, fields, _⟩ := throughout_origin throughout flattened
  rw [fields] at membership
  obtain ⟨origin, inList, own⟩ := List.mem_flatMap.mp membership
  exact (all origin inList).below (.field own)

theorem throughout_inline (throughout : c.settings.Throughout P sel)
    (flattened : c.flatten chain sel = .ok level) {i : InlineFragment}
    (membership : i ∈ level.inlines) : c.settings.Throughout P i.selection := by
  obtain ⟨origins, all, _, inlines⟩ := throughout_origin throughout flattened
  rw [inlines] at membership
  obtain ⟨origin, inList, own⟩ := List.mem_flatMap.mp membership
  exact (all origin inList).below (.inline own)

theorem throughout_nested (joins : Settings.Joins P) (throughout : c.settings.Throughout P sel)
    (flattened : c.flatten chain sel = .ok level) {m : MergedField}
    (merged : m ∈ mergeFields level.fields) : c.settings.Throughout P m.nested := by
  rw [nested_of_mem_mergeFields merged]
  apply Settings.Throughout.joined joins
  intro nested membership
  obtain ⟨f, inGroup, rfl⟩ := List.mem_map.mp membership
  exact throughout_field throughout flattened (mem_fieldsNamed.mp inGroup).1

/-! ## Shapes that are built alike -/

/-- The members of fields do not depend on the selections below, but on the shapes. -/
theorem fieldMembers_congr {done : List Member} {nest nest' : MergedField → Build Shape}
    {ms ms' : List MergedField}
    (alike : List.Forall₂ (fun m m' => m' = { m with nested := m'.nested } ∧
      (c.isReserved m.shapeName = false → nest m = nest' m')) ms ms') :
    c.fieldMembers done ms (fun m _ _ => nest m) =
      c.fieldMembers done ms' (fun m _ _ => nest' m) := by
  induction alike generalizing done with
  | nil => rfl
  | @cons m m' ms ms' head _ ih =>
    obtain ⟨same, sameShape⟩ := head
    have first : c.fieldMember done m (fun _ => nest m) =
        c.fieldMember done m' (fun _ => nest' m') := by
      generalize nest' m' = shape at sameShape
      rw [same]
      exact congrArg (c.fieldMember done m) (funext sameShape)
    rw [fieldMembers, fieldMembers, first]
    exact congrArg _ (funext fun member => ih)

/-- Two selections have the same shape, or fail in the same way, if their merged fields differ in
the selections below at most, and the shapes below are the same. -/
theorem shape_eq_shape {level' : Level} {sel' : Selection}
    (flattened : c.flatten chain sel = .ok level) (flattened' : c.flatten other sel' = .ok level')
    (fields : List.Forall₂ (fun m m' => m' = { m with nested := m'.nested } ∧
      ((c.reserve name).isReserved m.shapeName = false →
        ((c.reserve name).push m.first.responseName).shape chain m.shapeName m.nested =
          ((c.reserve name).push m'.first.responseName).shape other m'.shapeName m'.nested))
      (mergeFields level.fields) (mergeFields level'.fields))
    (sameInlines : level.inlines = level'.inlines)
    (inlines : ∀ i ∈ level.inlines, (c.reserve name).isReserved i.shapeName = false →
      ((c.reserve name).push i.shapeName).shape chain i.shapeName i.selection =
        ((c.reserve name).push i.shapeName).shape other i.shapeName i.selection) :
    c.shape chain name sel = c.shape other name sel' := by
  rw [shape_eq, shape_eq, flattened, flattened']
  simp only [Result.ok_bind]
  rw [fieldMembers_congr fields, ← sameInlines]
  have sameShapes : (fun (i : InlineFragment) (_ : i ∈ level.inlines)
      (_ : (c.reserve name).isReserved i.shapeName = false) =>
        ((c.reserve name).push i.shapeName).shape chain i.shapeName i.selection) = fun i _ _ =>
      ((c.reserve name).push i.shapeName).shape other i.shapeName i.selection := by
    funext i membership free
    exact inlines i membership free
  rw [sameShapes]

end Context

/-! ## Chains -/

/-- Two chains agree on the names that a selection spreads. -/
def AgreeOn (chain other : List String) (sel : Selection) : Prop :=
  ∀ name ∈ sel.spreads, name ∈ chain ↔ name ∈ other

theorem AgreeOn.cons {chain other : List String} {sel : Selection} (agree : AgreeOn chain other sel)
    (spread : String) : AgreeOn (spread :: chain) (spread :: other) sel := by
  intro name membership
  rw [List.mem_cons, List.mem_cons, agree name membership]

theorem joins_agreeOn (chain other : List String) : Settings.Joins (AgreeOn chain other) := by
  intro l all name membership
  obtain ⟨sel, inList, own⟩ := List.mem_flatMap.mp membership
  exact all sel inList name own

/-- By induction on the expansion with the first chain.  Both chains grow by the same spread, so
they keep agreeing. -/
theorem Settings.contributions_congr {s : Settings} {path : String}
    {chain other spreads : List String} {sel : Selection}
    (agree : s.Throughout (AgreeOn chain other) sel)
    (covered : ∀ name ∈ spreads, name ∈ sel.spreads) :
    s.contributions path chain spreads = s.contributions path other spreads := by
  fun_induction contributions s path chain spreads generalizing other sel with
  | case1 => rw [contributions]
  | case2 chain spread rest fresh missing =>
    have agreed := agree.here spread (covered spread (List.mem_cons_self ..))
    rw [contributions_of_none (by simpa [← agreed] using fresh) missing]
  | case3 chain spread rest fresh f found _ ihInner ihLater =>
    have spreads := covered spread (List.mem_cons_self ..)
    have agreed := agree.here spread spreads
    have agreeInside : s.Throughout (AgreeOn (spread :: chain) (spread :: other)) f.selection :=
      (agree.below (.spread spreads found)).mono fun _ agree => agree.cons spread
    have inner := ihInner agreeInside fun _ own => own
    have later := ihLater agree fun name inRest => covered name (List.mem_cons_of_mem _ inRest)
    rw [contributions_of_some (by simpa [← agreed] using fresh) found, inner, later]
  | case4 chain spread rest known ih =>
    have agreed := agree.here spread (covered spread (List.mem_cons_self ..))
    rw [contributions_of_mem (by simpa [← agreed] using known)]
    exact ih agree fun name inRest => covered name (List.mem_cons_of_mem _ inRest)

namespace Context

theorem flatten_chain_congr {c : Context} {chain other : List String} {sel : Selection}
    (agree : c.settings.Throughout (AgreeOn chain other) sel) :
    c.flatten chain sel = c.flatten other sel := by
  rw [flatten, flatten, Settings.contributions_congr agree fun _ own => own]

/-- Chains that agree on all names that are spread somewhere below give the same shape or the same
error. -/
theorem shape_chain_congr {c : Context} {chain other : List String} {name : String}
    {sel : Selection} (agree : c.settings.Throughout (AgreeOn chain other) sel) :
    c.shape chain name sel = c.shape other name sel := by
  have sameLevel := flatten_chain_congr agree
  cases flattened : c.flatten chain sel with
  | error e =>
    rw [shape_eq, shape_eq, ← sameLevel, flattened]
    rfl
  | ok level =>
    refine shape_eq_shape flattened (sameLevel ▸ flattened)
      (List.forall₂_same.mpr fun m merged => ⟨rfl, fun free => ?_⟩) rfl fun i membership free => ?_
    · have := freeNames_field_lt flattened merged free
      exact shape_chain_congr (throughout_nested (joins_agreeOn chain other) agree flattened merged)
    · have := freeNames_inline_lt flattened membership free
      exact shape_chain_congr (throughout_inline agree flattened membership)
termination_by c.freeNames name sel

theorem flatten_spread {c : Context} {x : Fragment}
    (found : c.settings.fragment? x.fragmentName = some x) :
    c.flatten [] { spreads := [x.fragmentName] } = c.flatten [x.fragmentName] x.selection := by
  rw [flatten, flatten, Settings.contributions_of_some List.not_mem_nil found,
    Settings.contributions]
  show (Settings.contributions _ _ _ x.selection.spreads >>= _) >>= _ = _
  cases c.settings.contributions c.pathText [x.fragmentName] x.selection.spreads with
  | error e => rfl
  | ok inner => exact congrArg Except.ok (Level.append_empty _)

/-- A fragment that is not spread in its own selection, at any depth, has the same shape as a
selection that only spreads it, and fails with the same error. -/
theorem shape_spread {c : Context} {name : String} {x : Fragment}
    (found : c.settings.fragment? x.fragmentName = some x)
    (notWithin : c.settings.Throughout (x.fragmentName ∉ ·.spreads) x.selection) :
    c.shape [x.fragmentName] name x.selection =
      c.shape [] name { spreads := [x.fragmentName] } := by
  have agree : c.settings.Throughout (AgreeOn [x.fragmentName] []) x.selection := by
    refine notWithin.mono fun sel notSpread other membership => ?_
    have different : other ≠ x.fragmentName := fun same => notSpread (same ▸ membership)
    simp [different]
  calc c.shape [x.fragmentName] name x.selection
    _ = c.shape [] name x.selection := shape_chain_congr agree
    _ = c.shape [] name { spreads := [x.fragmentName] } := by
      apply shape_congr
      rw [flatten_spread found, flatten_chain_congr agree]

end Context

namespace Sample

/-- A field that only spreads a fragment. -/
def spreading (name typeName : String) (spread : String) : Field :=
  { Field.leaf name typeName with fragmentSpreads := some [spread] }

def heroFragment : Fragment :=
  fragmentOf "Hero" [.leaf "id" "ID!", spreading "friends" "[Character]" "Named"] ["Entity"]
    [asDroid]

def namedFragment : Fragment := fragmentOf "Named" [.leaf "name" "String"] [] []

def entityFragment : Fragment := fragmentOf "Entity" [.leaf "created" "Int!"] ["Named"] []

/-- A fragment that spreads at its own level, below a field and in an inline fragment. -/
def crew : Context :=
  { settings := .ofConfig {} { fragments := [heroFragment, namedFragment, entityFragment] } ""
    path := ["crew"] }

theorem throughout_hero : crew.settings.Throughout ("Hero" ∉ ·.spreads) heroFragment.selection := by
  have leaf : crew.settings.Throughout ("Hero" ∉ ·.spreads) {} := .empty List.not_mem_nil
  have inNamed : crew.settings.Throughout ("Hero" ∉ ·.spreads) namedFragment.selection :=
    .intro (by decide) (List.forall_mem_singleton.mpr leaf) (List.forall_mem_nil _)
      (List.forall_mem_nil _)
  have spreadsNamed := inNamed.single "Named" rfl
  have inEntity : crew.settings.Throughout ("Hero" ∉ ·.spreads) entityFragment.selection :=
    .intro (by decide) (List.forall_mem_singleton.mpr leaf) (List.forall_mem_nil _) spreadsNamed
  refine .intro (by decide) ?_ ?_ ?_
  · refine List.forall_mem_cons.mpr ⟨leaf, List.forall_mem_singleton.mpr ?_⟩
    exact .intro (by decide) (List.forall_mem_nil _) (List.forall_mem_nil _) spreadsNamed
  · refine List.forall_mem_singleton.mpr ?_
    exact .intro (by decide) (List.forall_mem_singleton.mpr leaf) (List.forall_mem_nil _)
      spreadsNamed
  · exact inEntity.single "Entity" rfl

theorem shape_spread_hero :
    ∃ shape, crew.shape ["Hero"] "Hero" heroFragment.selection = .ok shape ∧
      crew.shape [] "Hero" { spreads := ["Hero"] } = .ok shape := by
  have few : crew.freeNames "Hero" heroFragment.selection < 20 := by decide +kernel
  obtain ⟨shape, built⟩ : ∃ shape, crew.shape ["Hero"] "Hero" heroFragment.selection = .ok shape :=
    Context.exists_shape few (by decide +kernel)
  exact ⟨shape, built, (Context.shape_spread rfl throughout_hero).symm.trans built⟩

/-- A fragment that is spread below one of its own fields.  On its own it is built, because the
spread below is held back.  From a spread it is not, because a shape would nest in itself. -/
example :
    let knot := fragmentOf "Knot" [spreading "friend" "Character" "Knot"] [] []
    let c : Context := { settings := .ofConfig {} { fragments := [knot] } "" }
    (c.shapeWithin ["Knot"] "Knot" knot.selection 20).isOk = true ∧
      (c.shapeWithin [] "Knot" { spreads := ["Knot"] } 20).isOk = false := by
  decide +kernel

end Sample

end QueryModel
