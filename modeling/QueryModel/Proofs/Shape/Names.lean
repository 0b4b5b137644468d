import QueryModel.Proofs.Shape.Assembly

/-!
# Names in a tree of shapes

A shape is generated as a class with its nested shapes inside, so names have to be
told apart in three ways.  The properties of a shape have distinct names, the shapes
that nest in it directly have distinct names, and no shape has the name of a shape
around it.  `Shape.WellNamed` gathers the three for one shape.

`wellNamed_shape` says that every shape of a built tree is well named, and that no
nested shape takes a name that was reserved before.
-/

namespace QueryModel

namespace Shape

/-- No shape below has one of some names. -/
def Avoids (shape : Shape) (names : List String) : Prop :=
  ∀ inner, Relation.TransGen Nests shape inner → inner.name ∉ names

theorem avoids_iff {shape : Shape} {names : List String} :
    shape.Avoids names ↔ ∀ nested ∈ shape.nested, nested.name ∉ names ∧ nested.Avoids names := by
  constructor
  · intro avoids nested nests
    refine ⟨avoids nested (.single nests), ?_⟩
    intro inner below
    exact avoids inner (.head nests below)
  · intro nestedAvoid inner below
    obtain ⟨nested, nests, rest⟩ := Relation.TransGen.head'_iff.mp below
    obtain ⟨notNamed, avoids⟩ := nestedAvoid nested nests
    rcases Relation.reflTransGen_iff_eq_or_transGen.mp rest with rfl | deeper
    · exact notNamed
    · exact avoids inner deeper

theorem Avoids.mono {shape : Shape} {names fewer : List String} (avoids : shape.Avoids names)
    (subset : ∀ name ∈ fewer, name ∈ names) : shape.Avoids fewer := by
  intro inner below membership
  exact avoids inner below (subset _ membership)

theorem avoids_withCondition {shape : Shape} (condition : Option String)
    (possible : List String) {names : List String} :
    Avoids { shape with typeCondition := condition, possibleTypes := possible } names ↔
      shape.Avoids names := by
  rw [avoids_iff, avoids_iff]

/-- The names of a shape and of what is in it are told apart. -/
structure WellNamed (shape : Shape) : Prop where
  /-- No two properties have the same name. -/
  properties : (shape.properties.map (·.name)).Nodup
  /-- No two directly nested shapes have the same name. -/
  nested : (shape.nested.map (·.name)).Nodup
  /-- No shape below has the name of the shape. -/
  below : shape.Avoids [shape.name]

end Shape

namespace Context

variable {c : Context} {chain : List String} {name : String} {sel : Selection}

/-- A nested shape has a name that was free, and the names that were taken when it was
built include all those taken around it. -/
theorem Assembly.avoids {Below : Context → String → Selection → Shape → Prop} {level : Level}
    {fields inlines : List Member}
    (assembly : c.Assembly chain Below name sel level fields inlines)
    (below : ∀ {c name sel shape}, Below c name sel shape →
      shape.name = name ∧ shape.Avoids (c.reserved ++ [name])) :
    (Shape.ofMembers c.settings name (fields ++ inlines)).Avoids (c.reserved ++ [name]) := by
  apply Shape.avoids_iff.mpr
  intro nested membership
  obtain ⟨step, nestedName, _, inner, condition, possible, free, isBelow, rfl⟩ :=
    assembly.of_mem_nested membership
  obtain ⟨named, avoids⟩ := below isBelow
  constructor
  · show inner.name ∉ _
    rw [named]
    simpa [isReserved, reserve] using free
  · rw [Shape.avoids_withCondition]
    refine avoids.mono ?_
    intro taken membership
    exact List.mem_append_left _ membership

theorem avoids_of_shape {shape : Shape} (built : c.shape chain name sel = .ok shape) :
    shape.Avoids (c.reserved ++ [name]) := by
  refine shape_induction (motive := fun c name _ shape => shape.Avoids (c.reserved ++ [name]))
    (fun assembly => ?_) built
  apply assembly.avoids
  intro c name sel shape below
  exact ⟨name_of_shape below.1, below.2⟩

/-- Names are told apart everywhere in a built tree of shapes, whatever the chain, and
nested shapes keep away from the names that are reserved. -/
theorem wellNamed_shape {root : Shape} (built : c.shape chain name sel = .ok root) :
    root.Everywhere Shape.WellNamed ∧ root.Avoids c.reserved := by
  constructor
  · refine shape_everywhere (P := fun _ => Shape.WellNamed) (fun assembly => ?_)
      (fun condition possible wellNamed => ?_) built
    · have avoids := assembly.avoids fun below =>
        ⟨name_of_shape below.1, avoids_of_shape below.1⟩
      refine ⟨?_, ?_, avoids.mono fun _ => List.mem_append_right _⟩
      · rw [map_name_properties]
        exact assembly.propertiesDistinct
      · rw [assembly.names_nested]
        exact assembly.shapesDistinct
    · exact ⟨wellNamed.properties, wellNamed.nested,
        (Shape.avoids_withCondition condition possible).mpr wellNamed.below⟩
  · exact (avoids_of_shape built).mono fun _ => List.mem_append_left _

end Context

theorem Sample.wellNamed_shape_selection :
    ∃ root, context.shape [] "Data" selection = .ok root ∧ root.Everywhere Shape.WellNamed ∧
      root.Avoids ["HeroQuery"] := by
  obtain ⟨root, built⟩ := exists_shape_selection
  exact ⟨root, built, Context.wellNamed_shape built⟩

end QueryModel
