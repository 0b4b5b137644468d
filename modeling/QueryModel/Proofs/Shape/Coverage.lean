import Mathlib.Data.Set.Basic
import QueryModel.Proofs.Shape.Assembly
import QueryModel.Proofs.Shape.Flattening

/-!
# A shape covers its selection exactly

A *response path* is a sequence of steps into a response: to the value of a response
name, or to the alternative for a type.  A selection has the paths that follow from
what it offers.  Below a response name lie the selections of all offered fields of
that name, read as one.  A shape has the paths of its properties, continued in the
nested shapes that they name.

`paths_shape` says that the two sets of paths are equal for every shape that was
built.  No selected field is lost, and none is invented.
-/

namespace QueryModel

/-- A step of a response path. -/
inductive Step
  | field (responseName : String)
  | on (typeCondition : String)
deriving DecidableEq, Repr

/-! ## Paths of selections -/

namespace Settings

/-- What lies below a step, for selections that are read as one. -/
def below (s : Settings) (sels : Selection → Prop) : Step → Selection → Prop
  | .field name, sub =>
    ∃ sel f, sels sel ∧ s.OffersField sel f ∧ f.responseName = name ∧ f.selection = sub
  | .on type, sub =>
    ∃ sel i, sels sel ∧ s.OffersInline sel i ∧ i.typeCondition = type ∧ i.selection = sub

/-- A path of selections that are read as one. -/
def HasPath (s : Settings) : (Selection → Prop) → List Step → Prop
  | _, [] => False
  | sels, step :: rest =>
    (∃ sub, s.below sels step sub) ∧ (rest = [] ∨ s.HasPath (s.below sels step) rest)

/-- The paths of a selection. -/
def paths (s : Settings) (sel : Selection) : Set (List Step) := {path | s.HasPath (· = sel) path}

theorem hasPath_congr {s : Settings} {sels sels' : Selection → Prop}
    (same : ∀ step, s.below sels step = s.below sels' step) (path : List Step) :
    s.HasPath sels path ↔ s.HasPath sels' path := by
  cases path with
  | nil => exact Iff.rfl
  | cons step rest => rw [HasPath, HasPath, same step]

/-- A joined selection is read as the selections it joins. -/
theorem below_joined (s : Settings) (l : List Selection) (step : Step) :
    s.below (· = .joined l) step = s.below (· ∈ l) step := by
  funext sub
  cases step with
  | field name =>
    apply propext
    constructor
    · rintro ⟨_, f, rfl, offered, named⟩
      obtain ⟨sel, membership, offered⟩ := offersField_joined.mp offered
      exact ⟨sel, f, membership, offered, named⟩
    · rintro ⟨sel, f, membership, offered, named⟩
      exact ⟨_, f, rfl, offersField_joined.mpr ⟨sel, membership, offered⟩, named⟩
  | on type =>
    apply propext
    constructor
    · rintro ⟨_, i, rfl, offered, applies⟩
      obtain ⟨sel, membership, offered⟩ := offersInline_joined.mp offered
      exact ⟨sel, i, membership, offered, applies⟩
    · rintro ⟨sel, i, membership, offered, applies⟩
      exact ⟨_, i, rfl, offersInline_joined.mpr ⟨sel, membership, offered⟩, applies⟩

/-- An empty selection has no path. -/
theorem not_hasPath_empty (s : Settings) (path : List Step) : ¬ s.HasPath (· = {}) path := by
  cases path with
  | nil => exact id
  | cons step rest =>
    rintro ⟨⟨sub, inBelow⟩, _⟩
    cases step with
    | field name =>
      obtain ⟨_, f, rfl, offered, _⟩ := inBelow
      cases offersField_fields.mp offered
    | on type =>
      obtain ⟨_, i, rfl, offered, _⟩ := inBelow
      rcases offered with own | ⟨g, reached, _⟩
      · cases own
      · exact not_reaches_nil reached

end Settings

/-! ## Paths of shapes -/

namespace Shape

/-- The nested shape that a property names. -/
def nestedOf? (shape : Shape) (p : Property) : Option Shape := p.kind.shape?.bind shape.nested?

/-- The step to a property. -/
def step? (shape : Shape) (p : Property) : Option Step :=
  match p.kind with
  | .inlineFragment _ => ((shape.nestedOf? p).bind (·.typeCondition)).map .on
  | _ => some (.field p.name)

/-- A path of a shape. -/
def HasPath : Shape → List Step → Prop
  | _, [] => False
  | shape, step :: rest => ∃ p ∈ shape.properties, shape.step? p = some step ∧
    (rest = [] ∨ ∃ nested, shape.nestedOf? p = some nested ∧ nested.HasPath rest)

/-- The paths of a shape. -/
def paths (shape : Shape) : Set (List Step) := {path | shape.HasPath path}

theorem exists_nestedOf {shape inner : Shape} {p : Property}
    (found : shape.nestedOf? p = some inner) (rest : List Step) :
    (∃ nested, shape.nestedOf? p = some nested ∧ nested.HasPath rest) ↔ inner.HasPath rest := by
  rw [found]
  simp

/-- The type condition of a shape does not change its paths. -/
theorem hasPath_withCondition (shape : Shape) (condition : Option String)
    (possible : List String) (path : List Step) :
    HasPath { shape with typeCondition := condition, possibleTypes := possible } path ↔
      shape.HasPath path := by
  cases path <;> exact Iff.rfl

end Shape

/-! ## The steps of an assembly -/

namespace Context

variable {c : Context} {name : String} {sel : Selection} {level : Level}
  {fields inlines : List Member}

/-- Below a response name lie the selections of the fields of that name. -/
theorem below_responseName (flattened : c.flatten [] sel = .ok level) (responseName : String) :
    c.settings.below (· = sel) (.field responseName) =
      (· ∈ (fieldsNamed responseName level.fields).map (·.selection)) := by
  funext sub
  apply propext
  constructor
  · rintro ⟨_, f, rfl, offered, named, rfl⟩
    have inLevel := (mem_fields_of_flatten flattened f).mpr offered
    exact List.mem_map.mpr ⟨f, mem_fieldsNamed.mpr ⟨inLevel, named⟩, rfl⟩
  · intro membership
    obtain ⟨f, inGroup, rfl⟩ := List.mem_map.mp membership
    obtain ⟨inLevel, named⟩ := mem_fieldsNamed.mp inGroup
    exact ⟨sel, f, rfl, (mem_fields_of_flatten flattened f).mp inLevel, named, rfl⟩

/-- Below a response name lies what the merged field has nested. -/
theorem below_field (flattened : c.flatten [] sel = .ok level) {m : MergedField}
    (merged : m ∈ mergeFields level.fields) (step : Step) :
    c.settings.below (· = m.nested) step =
      c.settings.below (c.settings.below (· = sel) (.field m.responseName)) step := by
  rw [nested_of_mem_mergeFields merged, Settings.below_joined, below_responseName flattened]

/-- Below a type lies the selection of the one inline fragment on it. -/
theorem below_inline (flattened : c.flatten [] sel = .ok level)
    (distinct : (level.inlines.map (·.shapeName)).Nodup) {i : InlineFragment}
    (membership : i ∈ level.inlines) :
    c.settings.below (· = sel) (.on i.typeCondition) = (· = i.selection) := by
  funext sub
  apply propext
  constructor
  · rintro ⟨_, j, rfl, offered, applies, rfl⟩
    have inLevel := (mem_inlines_of_flatten flattened j).mpr offered
    have sameName : j.shapeName = i.shapeName := by rw [InlineOf.shapeName, applies]; rfl
    rw [List.inj_on_of_nodup_map distinct inLevel membership sameName]
  · rintro rfl
    exact ⟨sel, i, rfl, (mem_inlines_of_flatten flattened i).mp membership, rfl, rfl⟩

/-- The inline fragments of a level that was assembled have distinct shape names. -/
theorem Assembly.inlinesDistinct {chain : List String}
    {Below : Context → String → Selection → Shape → Prop}
    (assembly : c.Assembly chain Below name sel level fields inlines) :
    (level.inlines.map (·.shapeName)).Nodup := by
  rw [← shapeNames_of_inlineYields assembly.inlinesYield]
  have all := assembly.shapesDistinct
  rw [shapeNames_append] at all
  exact (List.nodup_append.mp all).2.1

/-- A shape has the paths of its selection. -/
def Covers (c : Context) (_ : String) (sel : Selection) (shape : Shape) : Prop :=
  ∀ path, shape.HasPath path ↔ c.settings.HasPath (· = sel) path

namespace Assembly

variable (assembly : c.Assembly [] (BuiltWith [] Covers) name sel level fields inlines)

include assembly

/-- The member of a merged field is the step to its response name and continues as the
selections below that. -/
theorem field_path {m : MergedField} (merged : m ∈ mergeFields level.fields) {member : Member}
    (membership : member ∈ fields)
    (yields : m.Yields (c.reserve name) (fun m nested => BuiltWith [] Covers
      ((c.reserve name).push m.first.responseName) m.shapeName m.nested nested) member) :
    (Shape.ofMembers c.settings name (fields ++ inlines)).step? member.property =
        some (.field m.responseName) ∧
      ∀ rest, (∃ nested, (Shape.ofMembers c.settings name (fields ++ inlines)).nestedOf?
          member.property = some nested ∧ nested.HasPath rest) ↔
        c.settings.HasPath (c.settings.below (· = sel) (.field m.responseName)) rest := by
  refine ⟨by cases yields <;> rfl, fun rest => ?_⟩
  rw [← Settings.hasPath_congr (below_field assembly.flattened merged)]
  cases yields with
  | value leaf _ =>
    obtain ⟨first, others, group, rfl⟩ := mem_mergeFields.mp merged
    rw [MergedField.nested_ofGroup_eq_empty leaf]
    constructor
    · rintro ⟨nested, absent, _⟩
      cases absent
    · intro hasPath
      exact absurd hasPath (Settings.not_hasPath_empty _ rest)
  | @object t type inner _ _ _ below _ =>
    have found := assembly.nested?_eq_some (List.mem_append_left _ membership) rfl
    rw [Shape.exists_nestedOf found]
    exact below.2 rest

/-- The member of an inline fragment is the step to its type and continues as its
selection. -/
theorem inline_path {i : InlineFragment} (inLevel : i ∈ level.inlines) {member : Member}
    (membership : member ∈ inlines)
    (yields : InlineYields (c.reserve name) (fun i nested => BuiltWith [] Covers
      ((c.reserve name).push i.shapeName) i.shapeName i.selection nested) i member) :
    (Shape.ofMembers c.settings name (fields ++ inlines)).step? member.property =
        some (.on i.typeCondition) ∧
      ∀ rest, (∃ nested, (Shape.ofMembers c.settings name (fields ++ inlines)).nestedOf?
          member.property = some nested ∧ nested.HasPath rest) ↔
        c.settings.HasPath (c.settings.below (· = sel) (.on i.typeCondition)) rest := by
  rw [below_inline assembly.flattened assembly.inlinesDistinct inLevel]
  cases yields with
  | @nested inner _ below =>
    have found := assembly.nested?_eq_some (List.mem_append_right _ membership) rfl
    constructor
    · show Option.map Step.on (Option.bind (Shape.nestedOf? _ _) _) = _
      rw [Shape.nestedOf?, found]
      rfl
    · intro rest
      rw [Shape.exists_nestedOf found, Shape.hasPath_withCondition]
      exact below.2 rest

end Assembly

/-- The paths of a built shape are those of its selection. -/
theorem covers_of_shape {shape : Shape} (built : c.shape [] name sel = .ok shape) :
    c.Covers name sel shape := by
  refine shape_induction (fun {c name sel level fields inlines} assembly path => ?_) built
  cases path with
  | nil => exact Iff.rfl
  | cons step rest =>
    constructor
    · rintro ⟨p, inProperties, isStep, onward⟩
      obtain ⟨member, membership, rfl⟩ := List.mem_map.mp inProperties
      rcases assembly.member_cases membership with
        ⟨m, merged, inFields, yields⟩ | ⟨i, inLevel, inInlines, yields⟩
      · obtain ⟨stepTo, continued⟩ := assembly.field_path merged inFields yields
        rw [stepTo, Option.some.injEq] at isStep
        subst isStep
        have offered := (mem_fields_of_flatten assembly.flattened m.first).mp
          (first_mem_of_mem_mergeFields merged)
        exact ⟨⟨_, sel, m.first, rfl, offered, rfl, rfl⟩, onward.imp_right (continued rest).mp⟩
      · obtain ⟨stepOn, continued⟩ := assembly.inline_path inLevel inInlines yields
        rw [stepOn, Option.some.injEq] at isStep
        subst isStep
        have offered := (mem_inlines_of_flatten assembly.flattened i).mp inLevel
        exact ⟨⟨i.selection, sel, i, rfl, offered, rfl, rfl⟩, onward.imp_right (continued rest).mp⟩
    · rintro ⟨⟨sub, inBelow⟩, onward⟩
      cases step with
      | field r =>
        obtain ⟨_, f, rfl, offered, rfl, rfl⟩ := inBelow
        have inLevel := (mem_fields_of_flatten assembly.flattened f).mpr offered
        obtain ⟨m, merged, named⟩ := exists_mem_mergeFields inLevel
        obtain ⟨member, inFields, yields⟩ :=
          exists_right_of_forall₂ assembly.fieldsYield merged
        obtain ⟨stepTo, continued⟩ := assembly.field_path merged inFields yields
        rw [named] at stepTo continued
        exact ⟨member.property, List.mem_map_of_mem (List.mem_append_left _ inFields), stepTo,
          onward.imp_right (continued rest).mpr⟩
      | on type =>
        obtain ⟨_, i, rfl, offered, rfl, rfl⟩ := inBelow
        have inLevel := (mem_inlines_of_flatten assembly.flattened i).mpr offered
        obtain ⟨member, inInlines, yields⟩ :=
          exists_right_of_forall₂ assembly.inlinesYield inLevel
        obtain ⟨stepOn, continued⟩ := assembly.inline_path inLevel inInlines yields
        exact ⟨member.property, List.mem_map_of_mem (List.mem_append_right _ inInlines), stepOn,
          onward.imp_right (continued rest).mpr⟩

/-- A built shape has exactly the paths of its selection, whatever the fragments
spread. -/
theorem paths_shape {shape : Shape} (built : c.shape [] name sel = .ok shape) :
    shape.paths = c.settings.paths sel := by
  ext path
  exact covers_of_shape built path

end Context

/-- The second declaration of a field is not lost, and the spread of a fragment in
itself adds nothing. -/
theorem Sample.paths_shape_selection :
    ∃ shape, context.shape [] "Data" selection = .ok shape ∧
      shape.paths = context.settings.paths selection ∧
      [.field "hero", .field "name"] ∈ shape.paths := by
  obtain ⟨shape, built⟩ := exists_shape_selection
  have samePaths := Context.paths_shape built
  refine ⟨shape, built, samePaths, ?_⟩
  rw [samePaths]
  have second : selection.fields[1] ∈ selection.fields := List.getElem_mem _
  have below : context.settings.below (· = selection) (.field "hero")
      selection.fields[1].selection := ⟨selection, _, rfl, .inl second, rfl, rfl⟩
  refine ⟨⟨_, below⟩, .inr ⟨⟨_, _, .leaf "name" "String!", below, .inl ?_, rfl, rfl⟩, .inl rfl⟩⟩
  exact List.mem_singleton.mpr rfl

end QueryModel
