import QueryModel.Proofs.Shape.Coverage
import QueryModel.Proofs.Shape.References

/-!
# Conditions and options

A property shows the conditions of the first declaration of its response name.  Whether it is
optional depends on all of them: they are merged, and one declaration without conditions is
enough for the value to be there.  So a property may show conditions and not be optional.

A place in a tree of shapes is given by a response path.  What is declared there comes from
the selections that the path leads to, through all declarations of each response name on it
(`Settings.Declared`).  `optional_shape` says for every property at every place which
declarations decide its option, and `not_optional_nameTwice` that conditions alone do not.
-/

namespace QueryModel

/-! ## Declarations at the end of a path -/

namespace Settings

/-- A field is declared at the end of a path, for selections that are read as one. -/
def Declared (s : Settings) : (Selection → Prop) → List Step → Field → Prop
  | sels, [], f => ∃ sel, sels sel ∧ s.OffersField sel f
  | sels, step :: rest, f => s.Declared (s.below sels step) rest f

theorem declared_nil {s : Settings} {sel : Selection} {f : Field} :
    s.Declared (· = sel) [] f ↔ s.OffersField sel f := by
  simp [Declared]

/-- A joined selection declares what the selections it joins declare. -/
theorem declared_joined (s : Settings) (l : List Selection) (path : List Step) :
    s.Declared (· = .joined l) path = s.Declared (· ∈ l) path := by
  funext f
  cases path with
  | nil => simp [Declared, offersField_joined]
  | cons step rest => rw [Declared, Declared, below_joined]

end Settings

namespace Context

variable {c : Context} {sel : Selection} {level : Level}

/-- The selection below a merged field declares what is declared below its response name. -/
theorem declared_field (flattened : c.flatten [] sel = .ok level) {m : MergedField}
    (merged : m ∈ mergeFields level.fields) (path : List Step) :
    c.settings.Declared (· = m.nested) path =
      c.settings.Declared (· = sel) (.field m.responseName :: path) := by
  rw [nested_of_mem_mergeFields merged, Settings.declared_joined]
  funext f
  rw [Settings.Declared, below_responseName flattened]

/-- The selection of an inline fragment declares what is declared below its type. -/
theorem declared_inline (flattened : c.flatten [] sel = .ok level)
    (distinct : (level.inlines.map (·.shapeName)).Nodup) {i : InlineFragment}
    (membership : i ∈ level.inlines) (path : List Step) :
    c.settings.Declared (· = i.selection) path =
      c.settings.Declared (· = sel) (.on i.typeCondition :: path) := by
  funext f
  rw [Settings.Declared, below_inline flattened distinct membership]

end Context

/-! ## Properties at the end of a path -/

namespace Shape

/-- A path leads to a property. -/
def HasAt : Shape → List Step → Property → Prop
  | shape, [], p => p ∈ shape.properties
  | shape, step :: rest, p => ∃ q ∈ shape.properties, shape.step? q = some step ∧
    ∃ nested, shape.nestedOf? q = some nested ∧ nested.HasAt rest p

/-- The type condition of a shape does not change where its properties are. -/
theorem hasAt_withCondition (shape : Shape) (condition : Option String) (possible : List String)
    (path : List Step) (p : Property) :
    HasAt { shape with typeCondition := condition, possibleTypes := possible } path p ↔
      shape.HasAt path p := by
  cases path <;> exact Iff.rfl

end Shape

namespace Context.Assembly

variable {c : Context} {name : String} {sel : Selection} {level : Level}
  {fields inlines : List Member} {P : Context → String → Selection → Shape → Prop}

/-- The property of a member leads to the shape that nests for it, and to none where none
does. -/
theorem nestedOf?_property
    (assembly : c.Assembly [] (BuiltWith [] P) name sel level fields inlines) {member : Member}
    (membership : member ∈ fields ++ inlines) :
    (Shape.ofMembers c.settings name (fields ++ inlines)).nestedOf? member.property =
      member.nested := by
  cases nests : member.nested with
  | none =>
    have noShape := assembly.map_name_nested member membership
    rw [nests] at noShape
    rw [Shape.nestedOf?, ← noShape]
    rfl
  | some nested => exact assembly.nested?_eq_some membership nests

/-- A nested shape stands at a step, and it was built from a selection that declares what is
declared below that step. -/
theorem step_to_nested
    (assembly : c.Assembly [] (BuiltWith [] P) name sel level fields inlines) {member : Member}
    (membership : member ∈ fields ++ inlines) {nested : Shape}
    (nests : member.nested = some nested) :
    ∃ step, ∃ below : Context, ∃ nestedName nestedSel shape condition possible,
      (Shape.ofMembers c.settings name (fields ++ inlines)).step? member.property = some step ∧
      P below nestedName nestedSel shape ∧
      below.settings = c.settings ∧
      nested = { shape with typeCondition := condition, possibleTypes := possible } ∧
      ∀ path, c.settings.Declared (· = nestedSel) path =
        c.settings.Declared (· = sel) (step :: path) := by
  have found := (assembly.nestedOf?_property membership).trans nests
  rcases assembly.member_cases membership with ⟨m, merged, _, yields⟩ | ⟨i, inLevel, _, yields⟩
  · have sameDeclared := declared_field assembly.flattened merged
    cases yields with
    | value => cases nests
    | object _ _ _ below _ =>
      cases nests
      refine ⟨.field m.responseName, _, _, _, nested, nested.typeCondition, nested.possibleTypes,
        rfl, below.2, rfl, ?_, sameDeclared⟩
      cases nested
      rfl
  · have sameDeclared := declared_inline assembly.flattened assembly.inlinesDistinct inLevel
    cases yields with
    | nested _ below =>
      cases nests
      refine ⟨.on i.typeCondition, _, _, _, _, _, _, ?_, below.2, rfl, rfl, sameDeclared⟩
      show Option.map Step.on (Option.bind (Shape.nestedOf? _ _) _) = _
      rw [found]
      rfl

end Context.Assembly

/-- Every property of a tree that was built is at the end of a path. -/
theorem Context.exists_hasAt {c : Context} {name : String} {sel : Selection} {root shape : Shape}
    (built : c.shape [] name sel = .ok root) (inTree : Relation.ReflTransGen Shape.Nests root shape)
    {p : Property} (membership : p ∈ shape.properties) : ∃ path, root.HasAt path p := by
  refine shape_induction (motive := fun _ _ _ root =>
    Relation.ReflTransGen Shape.Nests root shape → ∃ path, root.HasAt path p)
    (fun {c name sel level fields inlines} assembly inTree => ?_) built inTree
  rcases Relation.ReflTransGen.cases_head inTree with rfl | ⟨nested, nests, rest⟩
  · exact ⟨[], membership⟩
  · obtain ⟨member, inMembers, isNested⟩ := List.mem_filterMap.mp nests
    obtain ⟨step, _, _, _, inner, condition, possible, stepTo, below, _, rfl, _⟩ :=
      assembly.step_to_nested inMembers isNested
    -- the type condition is not part of what was built below, and changes neither the
    -- properties nor the shapes under it
    obtain ⟨path, hasAt⟩ : ∃ path, inner.HasAt path p := by
      rcases Relation.ReflTransGen.cases_head rest with rfl | ⟨deeper, nestsDeeper, onward⟩
      · exact ⟨[], membership⟩
      · exact below (.head nestsDeeper onward)
    refine ⟨step :: path, member.property, List.mem_map_of_mem inMembers, stepTo, _,
      (assembly.nestedOf?_property inMembers).trans isNested, ?_⟩
    exact (Shape.hasAt_withCondition ..).mpr hasAt

/-! ## What decides an option -/

/-- Declared fields decide a property. -/
structure Property.DecidedBy (p : Property) (declared : Field → Prop) : Prop where
  /-- An inline fragment shows no conditions. -/
  inline : (∃ shape, p.kind = .inlineFragment shape) → p.conditions = []
  /-- Any other property has its name and its conditions from one of the declared fields.  It is
  optional when all declared fields of its name carry conditions, and also when the type of the
  one field allows null. -/
  field : (¬ ∃ shape, p.kind = .inlineFragment shape) →
    ∃ first t, declared first ∧ first.responseName = p.name ∧ first.fieldName = p.fieldName ∧
      first.conditionList = p.conditions ∧ TypeExpr.parse first.typeName = .ok t ∧
      (p.optional = true ↔
        (∀ f, declared f → f.responseName = p.name → f.conditionList ≠ []) ∨ t.isNonNull = false)

namespace MergedField

theorem optional_property {m : MergedField} {type : ResolvedType} {t : TypeExpr}
    (absent : type.isOptional = m.demand.optional.getD !t.isNonNull) (kind : PropertyKind) :
    (m.property type kind).optional = true ↔ m.conditional = true ∨ t.isNonNull = false := by
  show (type.isOptional || m.conditional) = true ↔ _
  rw [absent, demand]
  cases m.conditional <;> simp

/-- The member of a merged field is optional when all its fields are conditional, and also when
the type of the first allows null. -/
theorem Yields.optional_iff {c : Context} {Nested : MergedField → Shape → Prop} {m : MergedField}
    {member : Member} (yields : m.Yields c Nested member) :
    ∃ t, TypeExpr.parse m.first.typeName = .ok t ∧
      (member.property.optional = true ↔ m.conditional = true ∨ t.isNonNull = false) := by
  cases yields with
  | value _ resolved =>
    obtain ⟨t, parsed, resolved⟩ := Build.bind_eq_ok.mp resolved
    exact ⟨t, Context.parseType_eq_ok.mp parsed,
      optional_property (Context.resolveExpr_eq_ok resolved).2 _⟩
  | @object t _ _ _ parsed _ _ resolved =>
    exact ⟨t, Context.parseType_eq_ok.mp parsed,
      optional_property (Context.resolveExpr_eq_ok resolved).2 _⟩

end MergedField

namespace Context

variable {c : Context} {name : String} {sel : Selection}

/-- The fields that a selection offers decide the properties of its shape. -/
theorem Assembly.decided {Below : Context → String → Selection → Shape → Prop} {level : Level}
    {fields inlines : List Member}
    (assembly : c.Assembly [] Below name sel level fields inlines) {p : Property}
    (membership : p ∈ (Shape.ofMembers c.settings name (fields ++ inlines)).properties) :
    p.DecidedBy (c.settings.OffersField sel) := by
  obtain ⟨member, inMembers, rfl⟩ := List.mem_map.mp membership
  rcases assembly.member_cases inMembers with ⟨m, merged, _, yields⟩ | ⟨i, _, _, yields⟩
  · have offered := (mem_fields_of_flatten assembly.flattened m.first).mp
      (first_mem_of_mem_mergeFields merged)
    obtain ⟨t, parsed, optional⟩ := yields.optional_iff
    rw [conditional_of_flatten assembly.flattened merged] at optional
    cases yields with
    | value => exact ⟨nofun, fun _ => ⟨m.first, t, offered, rfl, rfl, rfl, parsed, optional⟩⟩
    | object => exact ⟨nofun, fun _ => ⟨m.first, t, offered, rfl, rfl, rfl, parsed, optional⟩⟩
  · cases yields
    exact ⟨fun _ => rfl, fun other => absurd ⟨_, rfl⟩ other⟩

/-- The fields that are declared at the end of a path decide the properties there. -/
theorem decided_of_hasAt {root : Shape} (built : c.shape [] name sel = .ok root)
    {path : List Step} {p : Property} (hasAt : root.HasAt path p) :
    p.DecidedBy (c.settings.Declared (· = sel) path) := by
  refine shape_induction (motive := fun c _ sel root => ∀ path, root.HasAt path p →
    p.DecidedBy (c.settings.Declared (· = sel) path))
    (fun {c name sel level fields inlines} assembly path hasAt => ?_) built path hasAt
  cases path with
  | nil =>
    have same : c.settings.Declared (· = sel) [] = c.settings.OffersField sel :=
      funext fun _ => propext Settings.declared_nil
    rw [same]
    exact assembly.decided hasAt
  | cons step rest =>
    obtain ⟨q, inProperties, isStep, nested, found, onward⟩ := hasAt
    obtain ⟨member, inMembers, rfl⟩ := List.mem_map.mp inProperties
    rw [assembly.nestedOf?_property inMembers] at found
    obtain ⟨_, _, _, _, inner, _, _, stepTo, below, sameSettings, rfl, sameDeclared⟩ :=
      assembly.step_to_nested inMembers found
    cases isStep.symm.trans stepTo
    rw [← sameDeclared, ← sameSettings]
    exact below rest ((Shape.hasAt_withCondition ..).mp onward)

/-- Every property of a tree is at the end of a path, and what is declared there decides it.  So a
property that shows conditions is optional, unless another declaration of its name there carries
none and its type is marked. -/
theorem optional_shape {root : Shape} (built : c.shape [] name sel = .ok root) :
    (∀ shape, Relation.ReflTransGen Shape.Nests root shape → ∀ p ∈ shape.properties,
      ∃ path, root.HasAt path p) ∧
    ∀ path p, root.HasAt path p → p.DecidedBy (c.settings.Declared (· = sel) path) := by
  constructor
  · intro shape inTree p membership
    exact exists_hasAt built inTree membership
  · intro path p hasAt
    exact decided_of_hasAt built hasAt

end Context

/-! ## Two declarations of one name -/

namespace Sample

/-- A name under conditions. -/
def nameIf (conditions : List Condition) : Field :=
  { Field.leaf "name" "String!" with conditions := some conditions }

def terse : Fragment :=
  { fragmentName := "Terse", source := "", typeCondition := "Query", possibleTypes := []
    fields := [.holding "hero" "Character" [nameIf [⟨"terse", true⟩]]], fragmentSpreads := []
    inlineFragments := [], fragmentsReferenced := [], filePath := none }

def terseContext : Context := { settings := .ofConfig {} { fragments := [terse] } "" }

/-- An object whose name is declared under a condition, and in a fragment under another. -/
def heroParts : Selection :=
  { fields := [.holding "hero" "Character" [nameIf [⟨"withName", false⟩]]], spreads := ["Terse"] }

theorem conditionList_ne_nil_of_declared {f : Field}
    (declared : terseContext.settings.Declared (· = heroParts) [.field "hero"] f) :
    f.conditionList ≠ [] := by
  obtain ⟨_, ⟨_, g, rfl, offered, -, rfl⟩, offers⟩ := declared
  rcases offered with own | ⟨fragment, reached, inFragment⟩
  · obtain rfl := List.mem_singleton.mp own
    obtain rfl := List.mem_singleton.mp (Settings.offersField_fields.mp offers)
    exact List.cons_ne_nil _ _
  · have isTerse : fragment = terse := by
      cases reached with
      | here spread found =>
        obtain rfl := List.mem_singleton.mp spread
        exact (Option.some.inj found).symm
      | through spread found onward =>
        obtain rfl := List.mem_singleton.mp spread
        cases found
        exact absurd onward Settings.not_reaches_nil
    subst isTerse
    obtain rfl := List.mem_singleton.mp inFragment
    obtain rfl := List.mem_singleton.mp (Settings.offersField_fields.mp offers)
    exact List.cons_ne_nil _ _

/-- A name that is declared under conditions only is optional, although its type is marked. -/
theorem optional_shape_heroParts :
    ∃ root p, terseContext.shape [] "Data" heroParts = .ok root ∧
      root.HasAt [.field "hero"] p ∧ p.name = "name" ∧ p.conditions ≠ [] ∧ p.optional = true := by
  have few : terseContext.freeNames "Data" heroParts < 20 := by decide +kernel
  obtain ⟨root, built, passes⟩ := Context.exists_shape_passing []
    (fun root => root.properties.any fun q => root.step? q == some (.field "hero") &&
      (root.nestedOf? q).any fun hero => hero.properties.any fun p =>
        p.name == "name" && !p.conditions.isEmpty) few (by decide +kernel)
  obtain ⟨p, hasAt, isName, conditioned⟩ :
      ∃ p, root.HasAt [.field "hero"] p ∧ p.name = "name" ∧ p.conditions ≠ [] := by
    simp only [List.any_eq_true, Bool.and_eq_true, beq_iff_eq, Option.any_eq_true,
      Bool.not_eq_true', List.isEmpty_eq_false_iff] at passes
    obtain ⟨q, inRoot, isStep, hero, found, p, inHero, isName, conditioned⟩ := passes
    exact ⟨p, ⟨q, inRoot, isStep, hero, found, inHero⟩, isName, conditioned⟩
  refine ⟨root, p, built, hasAt, isName, conditioned, ?_⟩
  have decided := (Context.optional_shape built).2 _ p hasAt
  obtain ⟨_, _, _, _, _, _, _, optional⟩ := decided.field fun inline =>
    conditioned (decided.inline inline)
  exact optional.mpr (.inl fun f declared _ => conditionList_ne_nil_of_declared declared)

def nameTwice : Selection :=
  { fields := [nameIf [⟨"withName", false⟩], .leaf "name" "String!"] }

/-- A name that is also declared without conditions shows conditions and is not optional. -/
theorem not_optional_nameTwice :
    ∃ root, context.shape [] "Data" nameTwice = .ok root ∧
      ∃ p ∈ root.properties, p.conditions ≠ [] ∧ p.optional = false := by
  have few : context.freeNames "Data" nameTwice < 20 := by decide +kernel
  obtain ⟨root, built, passes⟩ := Context.exists_shape_passing []
    (fun root => root.properties.any fun p => !p.conditions.isEmpty && !p.optional) few
    (by decide +kernel)
  refine ⟨root, built, ?_⟩
  simpa only [List.any_eq_true, Bool.and_eq_true, Bool.not_eq_true', List.isEmpty_eq_false_iff]
    using passes

end Sample

end QueryModel
