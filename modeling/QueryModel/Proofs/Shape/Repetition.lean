import QueryModel.Proofs.Shape.Assembly
import QueryModel.Proofs.Shape.Spreading

/-!
# Repeated spreads

A spread that stands twice contributes twice.  The second time its fields are merged into those of
the first time.  Nothing changes at that level, but the selections below the merged fields get
longer, since everything in them is joined to itself.  So the effect goes down all levels.

`Repeats` relates a list to one in which elements come again after their first place, and
`Selection.Restates` does so for selections.  Flattening and merging keep the relation
(`contributions_restates`, `mergeFields_restates`), and merged fields that are related differ in
nothing but the selections below.  Where there are no inline fragments, related selections have
the same shape (`shape_restates`).

Inline fragments are not merged.  One that comes twice asks for the same name twice, and the build
fails.
-/

namespace QueryModel

/-! ## Lists with repetitions -/

/-- The second list is the first one, with elements that come again later. -/
inductive Repeats {α : Type} : List α → List α → Prop
  | nil : Repeats [] []
  | keep {l l' : List α} {a : α} : Repeats l l' → Repeats (l ++ [a]) (l' ++ [a])
  | again {l l' : List α} {a : α} : Repeats l l' → a ∈ l → Repeats l (l' ++ [a])

namespace Repeats

variable {α : Type} {l l' : List α}

theorem refl (l : List α) : Repeats l l := by
  induction l using List.reverseRecOn with
  | nil => exact .nil
  | append_singleton l a ih => exact ih.keep

theorem append (first : Repeats l l') {m m' : List α} (second : Repeats m m') :
    Repeats (l ++ m) (l' ++ m') := by
  induction second with
  | nil => simpa using first
  | keep _ ih =>
    rw [← List.append_assoc, ← List.append_assoc]
    exact ih.keep
  | again _ membership ih =>
    rw [← List.append_assoc]
    exact ih.again (List.mem_append_right _ membership)

theorem append_known (repeats : Repeats l l') {known : List α} (subset : ∀ a ∈ known, a ∈ l) :
    Repeats l (l' ++ known) := by
  induction known using List.reverseRecOn with
  | nil => simpa using repeats
  | append_singleton known a ih =>
    rw [← List.append_assoc]
    refine (ih fun b inKnown => subset b (List.mem_append_left _ inKnown)).again ?_
    exact subset a (List.mem_append_right _ (List.mem_singleton_self a))

theorem eq_nil (repeats : Repeats [] l') : l' = [] := by
  generalize empty : ([] : List α) = l at repeats
  cases repeats with
  | nil => rfl
  | keep => simp at empty
  | again _ membership =>
    subst empty
    cases membership

end Repeats

/-- The second selection is the first one, with parts that come again later. -/
structure Selection.Restates (sel sel' : Selection) : Prop where
  fields : Repeats sel.fields sel'.fields
  spreads : Repeats sel.spreads sel'.spreads
  inlines : Repeats sel.inlines sel'.inlines

/-- Everything that stands in a selection also stands in another one. -/
structure Selection.PartOf (part whole : Selection) : Prop where
  fields : ∀ f ∈ part.fields, f ∈ whole.fields
  spreads : ∀ name ∈ part.spreads, name ∈ whole.spreads
  inlines : ∀ i ∈ part.inlines, i ∈ whole.inlines

namespace Selection.Restates

variable {sel sel' : Selection}

theorem refl (sel : Selection) : sel.Restates sel := ⟨.refl _, .refl _, .refl _⟩

theorem append (restates : sel.Restates sel') (more : Selection) :
    (sel ++ more).Restates (sel' ++ more) :=
  ⟨restates.fields.append (.refl _), restates.spreads.append (.refl _),
    restates.inlines.append (.refl _)⟩

theorem append_part (restates : sel.Restates sel') {part : Selection} (isPart : part.PartOf sel) :
    sel.Restates (sel' ++ part) :=
  ⟨restates.fields.append_known isPart.fields, restates.spreads.append_known isPart.spreads,
    restates.inlines.append_known isPart.inlines⟩

end Selection.Restates

/-! ## Merging -/

namespace MergedField

/-- Two merged fields differ in the selections below at most, and the second one restates the
selection below the first. -/
structure Restates (m m' : MergedField) : Prop where
  same : m' = { m with nested := m'.nested }
  nested : m.nested.Restates m'.nested

/-- Adding the field again changes nothing but the selection below. -/
structure Absorbs (m : MergedField) (f : Field) : Prop where
  hasSelection : (m.hasSelection || f.hasSelection) = m.hasSelection
  conditional : (m.conditional && f.isConditional) = m.conditional
  nested : f.selection.PartOf m.nested

theorem Restates.responseName {m m' : MergedField} (restates : m.Restates m') :
    m'.responseName = m.responseName := by
  rw [restates.same]
  rfl

theorem Restates.add {m m' : MergedField} (restates : m.Restates m') (f : Field) :
    (m.add f).Restates (m'.add f) := by
  constructor
  · rw [restates.same]
    rfl
  · exact restates.nested.append _

theorem Restates.add_absorbed {m m' : MergedField} (restates : m.Restates m') {f : Field}
    (absorbs : m.Absorbs f) : m.Restates (m'.add f) := by
  constructor
  · rw [restates.same]
    simp only [MergedField.add, absorbs.hasSelection, absorbs.conditional]
  · exact restates.nested.append_part absorbs.nested

theorem absorbs_ofGroup {first f : Field} {rest : List Field} (membership : f ∈ first :: rest) :
    (ofGroup first rest).Absorbs f := by
  refine ⟨?_, ?_, ?_, ?_, ?_⟩
  · rw [hasSelection_ofGroup, Bool.or_eq_left_iff_imp]
    intro selects
    exact List.any_eq_true.mpr ⟨f, membership, selects⟩
  · rw [conditional_ofGroup, Bool.and_eq_left_iff_imp]
    intro all
    exact List.all_eq_true.mp all f membership
  all_goals
    rw [nested_ofGroup]
    intro part own
    exact List.mem_flatMap.mpr ⟨_, List.mem_map.mpr ⟨f, membership, rfl⟩, own⟩

end MergedField

theorem mergeField_restates {ms ms' : List MergedField}
    (restate : List.Forall₂ MergedField.Restates ms ms') (f : Field) :
    List.Forall₂ MergedField.Restates (mergeField f ms) (mergeField f ms') := by
  induction restate with
  | nil => exact .cons ⟨rfl, .refl _⟩ .nil
  | @cons m m' ms ms' head tail ih =>
    rw [mergeField_cons, mergeField_cons, head.responseName]
    split
    next => exact .cons (head.add f) tail
    next => exact .cons head ih

theorem mergeField_absorbed {ms ms' : List MergedField}
    (restate : List.Forall₂ MergedField.Restates ms ms') {f : Field}
    (known : ∃ m ∈ ms, m.responseName = f.responseName)
    (absorb : ∀ m ∈ ms, m.responseName = f.responseName → m.Absorbs f) :
    List.Forall₂ MergedField.Restates ms (mergeField f ms') := by
  induction restate with
  | nil =>
    obtain ⟨_, absent, _⟩ := known
    cases absent
  | @cons m m' ms ms' head tail ih =>
    rw [mergeField_cons, head.responseName]
    split
    next same => exact .cons (head.add_absorbed (absorb m (List.mem_cons_self ..) same)) tail
    next different =>
      refine .cons head (ih ?_ fun n later => absorb n (List.mem_cons_of_mem _ later))
      obtain ⟨n, membership, same⟩ := known
      rcases List.mem_cons.mp membership with rfl | later
      · exact absurd same different
      · exact ⟨n, later, same⟩

/-- Fields that come again are absorbed. -/
theorem mergeFields_restates {fields fields' : List Field} (repeats : Repeats fields fields') :
    List.Forall₂ MergedField.Restates (mergeFields fields) (mergeFields fields') := by
  induction repeats with
  | nil => exact .nil
  | keep _ ih =>
    rw [mergeFields_concat, mergeFields_concat]
    exact mergeField_restates ih _
  | again _ membership ih =>
    rw [mergeFields_concat]
    refine mergeField_absorbed ih (exists_mem_mergeFields membership) ?_
    intro m merged same
    obtain ⟨first, rest, group, rfl⟩ := mem_mergeFields.mp merged
    rw [MergedField.responseName_ofGroup] at same
    apply MergedField.absorbs_ofGroup
    rw [← group]
    exact mem_fieldsNamed.mpr ⟨membership, same.symm⟩

/-! ## Flattening -/

theorem Level.append_assoc (a b c : Level) : a ++ b ++ c = a ++ (b ++ c) := by
  show Level.mk (a.fields ++ b.fields ++ c.fields) (a.inlines ++ b.inlines ++ c.inlines) = _
  rw [List.append_assoc, List.append_assoc]
  rfl

/-- The second level is the first one, with parts that come again later. -/
structure Level.Restates (level level' : Level) : Prop where
  fields : Repeats level.fields level'.fields
  inlines : Repeats level.inlines level'.inlines

/-- Two results fail with the same error, or both are there and related. -/
inductive Build.Both {α β : Type} (R : α → β → Prop) : Build α → Build β → Prop
  | fail (e : BuildError) : Both R (.error e) (.error e)
  | make {a : α} {b : β} : R a b → Both R (.ok a) (.ok b)

namespace Settings

variable {s : Settings} {path : String} {chain : List String} {spread : String}

/-- Spreads contribute one after the other. -/
theorem contributions_append (first second : List String) :
    s.contributions path chain (first ++ second) = (do
      let before ← s.contributions path chain first
      let after ← s.contributions path chain second
      return before ++ after) := by
  induction first with
  | nil =>
    rw [List.nil_append, contributions]
    show _ = s.contributions path chain second >>= _
    cases s.contributions path chain second with
    | error e => rfl
    | ok after => rfl
  | cons spread rest ih =>
    rw [List.cons_append]
    by_cases onChain : spread ∈ chain
    · rw [contributions_of_mem onChain, contributions_of_mem onChain, ih]
    · cases found : s.fragment? spread with
      | none =>
        rw [contributions_of_none onChain found, contributions_of_none onChain found]
        rfl
      | some f =>
        rw [contributions_of_some onChain found, contributions_of_some onChain found, ih]
        cases s.contributions path (spread :: chain) f.fragmentSpreads with
        | error e => rfl
        | ok inner =>
          cases s.contributions path chain rest with
          | error e => rfl
          | ok later =>
            cases s.contributions path chain second with
            | error e => rfl
            | ok after => exact congrArg Except.ok (Level.append_assoc _ _ _).symm

/-- What one of the spreads contributes is there. -/
theorem contributions_of_mem_spreads {spreads : List String} {level : Level}
    (contributed : s.contributions path chain spreads = .ok level) (membership : spread ∈ spreads) :
    ∃ own, s.contributions path chain [spread] = .ok own ∧
      (∀ f ∈ own.fields, f ∈ level.fields) ∧ ∀ i ∈ own.inlines, i ∈ level.inlines := by
  obtain ⟨before, after, rfl⟩ := List.append_of_mem membership
  rw [← List.singleton_append, contributions_append, contributions_append] at contributed
  obtain ⟨first, _, contributed⟩ := Build.bind_eq_ok.mp contributed
  obtain ⟨_, rest, contributed⟩ := Build.bind_eq_ok.mp contributed
  obtain ⟨own, single, rest⟩ := Build.bind_eq_ok.mp rest
  obtain ⟨last, _, rest⟩ := Build.bind_eq_ok.mp rest
  cases rest
  cases contributed
  refine ⟨own, single, ?_, ?_⟩
  · intro f inOwn
    simp only [Level.fields_append, List.mem_append]
    exact .inr (.inl inOwn)
  · intro i inOwn
    simp only [Level.inlines_append, List.mem_append]
    exact .inr (.inl inOwn)

theorem contributions_restates {spreads spreads' : List String}
    (repeats : Repeats spreads spreads') :
    Build.Both Level.Restates (s.contributions path chain spreads)
      (s.contributions path chain spreads') := by
  induction repeats with
  | nil =>
    rw [contributions]
    exact .make ⟨.refl _, .refl _⟩
  | @keep spreads spreads' spread _ ih =>
    rw [contributions_append, contributions_append]
    generalize s.contributions path chain spreads = first at ih
    generalize s.contributions path chain spreads' = second at ih
    cases ih with
    | fail e => exact .fail e
    | make restates =>
      cases s.contributions path chain [spread] with
      | error e => exact .fail e
      | ok own => exact .make ⟨restates.fields.append (.refl _), restates.inlines.append (.refl _)⟩
  | @again spreads spreads' spread _ membership ih =>
    rw [contributions_append]
    generalize contributed : s.contributions path chain spreads = first at ih
    generalize s.contributions path chain spreads' = second at ih
    cases ih with
    | fail e => exact .fail e
    | make restates =>
      obtain ⟨own, single, fields, inlines⟩ := contributions_of_mem_spreads contributed membership
      rw [single]
      exact .make ⟨restates.fields.append_known fields, restates.inlines.append_known inlines⟩

end Settings

/-! ## Shapes -/

namespace Context

theorem flatten_restates {c : Context} {sel sel' : Selection} (restates : sel.Restates sel')
    (chain : List String) :
    Build.Both Level.Restates (c.flatten chain sel) (c.flatten chain sel') := by
  have contributed : Build.Both Level.Restates
      (c.settings.contributions c.pathText chain sel.spreads)
      (c.settings.contributions c.pathText chain sel'.spreads) :=
    Settings.contributions_restates restates.spreads
  rw [flatten, flatten]
  generalize c.settings.contributions c.pathText chain sel.spreads = first at contributed
  generalize c.settings.contributions c.pathText chain sel'.spreads = second at contributed
  cases contributed with
  | fail e => exact .fail e
  | make levels =>
    exact .make ⟨restates.fields.append levels.fields, restates.inlines.append levels.inlines⟩

theorem joins_noInlines : Settings.Joins (·.inlines = []) := by
  intro l all
  exact List.flatMap_eq_nil_iff.mpr all

theorem inlines_eq_nil {c : Context} {chain : List String} {sel : Selection} {level : Level}
    (noInlines : c.settings.Throughout (·.inlines = []) sel)
    (flattened : c.flatten chain sel = .ok level) : level.inlines = [] := by
  obtain ⟨origins, all, _, inlines⟩ := throughout_origin noInlines flattened
  rw [inlines, List.flatMap_eq_nil_iff]
  exact fun origin inList => (all origin inList).here

/-- Without inline fragments, selections that restate each other have the same shape or the same
error.  By induction on the names that are free: the merged fields of both levels have the same
names, and the selections below them restate each other. -/
theorem shape_restates {c : Context} {chain : List String} {name : String} {sel sel' : Selection}
    (restates : sel.Restates sel') (noInlines : c.settings.Throughout (·.inlines = []) sel) :
    c.shape chain name sel = c.shape chain name sel' := by
  have levels := flatten_restates (c := c) restates chain
  generalize flattened : c.flatten chain sel = first at levels
  generalize flattened' : c.flatten chain sel' = second at levels
  cases levels with
  | fail e =>
    rw [shape_eq, shape_eq, flattened, flattened']
  | @make level level' levels =>
    have empty : level.inlines = [] := inlines_eq_nil noInlines flattened
    have empty' : level'.inlines = [] := (empty ▸ levels.inlines).eq_nil
    refine shape_eq_shape flattened flattened' ?_ (empty.trans empty'.symm) (by simp [empty])
    have merged := (List.forall₂_and_left (p := (· ∈ mergeFields level.fields)) _ _).mpr
      ⟨fun _ membership => membership, mergeFields_restates levels.fields⟩
    refine merged.imp fun m m' ⟨membership, restates⟩ => ⟨restates.same, fun free => ?_⟩
    have := freeNames_field_lt flattened membership free
    rw [restates.same]
    exact shape_restates restates.nested
      (throughout_nested joins_noInlines noInlines flattened membership)
termination_by c.freeNames name sel

/-! ## Inline fragments that come twice -/

/-- No two inline fragments of a level that a shape is built for ask for the same name. -/
theorem nodup_inlines_of_shape {c : Context} {chain : List String} {name : String}
    {sel : Selection} {shape : Shape} (built : c.shape chain name sel = .ok shape) :
    ∃ level, c.flatten chain sel = .ok level ∧ (level.inlines.map (·.shapeName)).Nodup := by
  obtain ⟨level, fields, inlines, assembly, _⟩ := shape_eq_ok_iff.mp built
  refine ⟨level, assembly.flattened, ?_⟩
  have distinct := assembly.shapesDistinct
  rw [shapeNames_append, shapeNames_of_inlineYields assembly.inlinesYield] at distinct
  exact (List.nodup_append.mp distinct).2.1

/-- What a repeated spread contributes stands in the level twice. -/
theorem flatten_again {c : Context} {chain : List String} {sel : Selection} {x : String}
    {before after : List String} {level own : Level} (isSpread : x ∈ before)
    (contributes : c.settings.contributions c.pathText chain [x] = .ok own)
    (flattened : c.flatten chain { sel with spreads := before ++ x :: after } = .ok level) :
    ∃ first last : Level, level = first ++ (own ++ last) ∧
      ∀ i ∈ own.inlines, i ∈ first.inlines := by
  obtain ⟨contributed, all, flattened⟩ := Build.bind_eq_ok.mp flattened
  cases flattened
  rw [← List.singleton_append, Settings.contributions_append, Settings.contributions_append,
    contributes] at all
  obtain ⟨first, firstMade, all⟩ := Build.bind_eq_ok.mp all
  obtain ⟨rest, restMade, all⟩ := Build.bind_eq_ok.mp all
  rw [Result.ok_bind] at restMade
  obtain ⟨last, _, restMade⟩ := Build.bind_eq_ok.mp restMade
  cases restMade
  cases all
  obtain ⟨same, contributesSame, _, inlines⟩ :=
    Settings.contributions_of_mem_spreads firstMade isSpread
  rw [contributes] at contributesSame
  cases contributesSame
  refine ⟨sel.level ++ first, last, (Level.append_assoc _ _ _).symm, ?_⟩
  intro i membership
  exact List.mem_append_right _ (inlines i membership)

theorem shape_ne_ok_of_again {c : Context} {chain : List String} {name : String} {sel : Selection}
    {x : String} {before after : List String} {own : Level} (isSpread : x ∈ before)
    (contributes : c.settings.contributions c.pathText chain [x] = .ok own)
    (hasInline : own.inlines ≠ []) (shape : Shape) :
    c.shape chain name { sel with spreads := before ++ x :: after } ≠ .ok shape := by
  intro built
  obtain ⟨level, flattened, distinct⟩ := nodup_inlines_of_shape built
  obtain ⟨first, last, rfl, inFirst⟩ := flatten_again isSpread contributes flattened
  obtain ⟨i, membership⟩ := List.exists_mem_of_ne_nil _ hasInline
  rw [Level.inlines_append, List.map_append] at distinct
  refine (List.nodup_append.mp distinct).2.2 i.shapeName
    (List.mem_map_of_mem (inFirst i membership)) i.shapeName (List.mem_map_of_mem ?_) rfl
  exact List.mem_append_left _ membership

/-- Let a selection spread a fragment, and let the spread come again anywhere after it.  If there
is no inline fragment in the selection or below it, the build has the same result as before.  If
the spread contributes an inline fragment to the level of the selection, the build fails. -/
theorem shape_spread_again (c : Context) (chain : List String) (name : String) {sel : Selection}
    {x : String} {before after : List String} (spreads : sel.spreads = before ++ after)
    (isSpread : x ∈ before) :
    (c.settings.Throughout (·.inlines = []) sel →
      c.shape chain name { sel with spreads := before ++ x :: after } = c.shape chain name sel) ∧
    ∀ own, c.settings.contributions c.pathText chain [x] = .ok own → own.inlines ≠ [] →
      ∀ shape, c.shape chain name { sel with spreads := before ++ x :: after } ≠ .ok shape := by
  constructor
  · intro noInlines
    have inserted : Repeats before (before ++ [x]) :=
      (Repeats.refl before).append_known (List.forall_mem_singleton.mpr isSpread)
    have repeats : Repeats sel.spreads (before ++ x :: after) := by
      rw [spreads, List.append_cons]
      exact inserted.append (.refl after)
    have restates : sel.Restates { sel with spreads := before ++ x :: after } :=
      ⟨.refl _, repeats, .refl _⟩
    exact (shape_restates restates noInlines).symm
  · intro own contributes hasInline shape
    exact shape_ne_ok_of_again isSpread contributes hasInline shape

end Context

namespace Sample

def palsFragment : Fragment :=
  fragmentOf "Pals" [spreading "friends" "[Character]" "Named"] ["Named"] []

/-- A fragment that spreads another one twice, at two levels, and one with an inline fragment. -/
def pals : Context :=
  { settings := .ofConfig {}
      { fragments := [palsFragment, namedFragment, fragmentOf "Droids" [] [] [asDroid]] } "" }

theorem throughout_pals :
    pals.settings.Throughout (·.inlines = []) { spreads := ["Pals", "Named"] } := by
  have leaf : pals.settings.Throughout (·.inlines = []) {} := .empty rfl
  have inNamed : pals.settings.Throughout (·.inlines = []) namedFragment.selection :=
    .intro rfl (List.forall_mem_singleton.mpr leaf) (List.forall_mem_nil _) (List.forall_mem_nil _)
  have spreadsNamed := inNamed.single "Named" rfl
  have inPals : pals.settings.Throughout (·.inlines = []) palsFragment.selection := by
    refine .intro rfl (List.forall_mem_singleton.mpr ?_) (List.forall_mem_nil _) spreadsNamed
    exact .intro rfl (List.forall_mem_nil _) (List.forall_mem_nil _) spreadsNamed
  refine .intro rfl (List.forall_mem_nil _) (List.forall_mem_nil _) ?_
  refine List.forall_mem_cons.mpr ⟨fun f found => ?_, spreadsNamed⟩
  cases found
  exact inPals

theorem shape_spread_again_pals :
    (∃ shape, pals.shape [] "Data" { spreads := ["Pals", "Named"] } = .ok shape ∧
      pals.shape [] "Data" { spreads := ["Pals", "Named", "Pals"] } = .ok shape) ∧
      ∀ shape, pals.shape [] "Data" { spreads := ["Droids", "Droids"] } ≠ .ok shape := by
  constructor
  · let sel : Selection := { spreads := ["Pals", "Named"] }
    have few : pals.freeNames "Data" sel < 20 := by decide +kernel
    obtain ⟨shape, built⟩ : ∃ shape, pals.shape [] "Data" sel = .ok shape :=
      Context.exists_shape few (by decide +kernel)
    have spreads : sel.spreads = ["Pals", "Named"] ++ [] := rfl
    have isSpread : "Pals" ∈ ["Pals", "Named"] := List.mem_cons_self ..
    have again := Context.shape_spread_again pals [] "Data" spreads isSpread
    exact ⟨shape, built, (again.1 throughout_pals).trans built⟩
  · have contributes : pals.settings.contributions pals.pathText [] ["Droids"] =
        .ok ⟨[], [asDroid]⟩ := by
      rw [Settings.contributions_of_some List.not_mem_nil rfl]
      simp only [fragmentOf, Settings.contributions]
      rfl
    have spreads : Selection.spreads { spreads := ["Droids"] } = ["Droids"] ++ [] := rfl
    have isSpread : "Droids" ∈ ["Droids"] := List.mem_cons_self ..
    have again := Context.shape_spread_again pals [] "Data" spreads isSpread
    exact again.2 _ contributes (List.cons_ne_nil _ _)

end Sample

end QueryModel
