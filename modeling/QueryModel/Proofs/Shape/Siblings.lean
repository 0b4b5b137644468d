import QueryModel.Proofs.Compile.Setters
import QueryModel.Proofs.Shape.Assembly
import QueryModel.Proofs.Shape.Inlining

/-!
# Sibling fields

The members of a level are made one after the other, each in view of the names that those before
it have taken.  So the first clash decides which error is reported, and the order of the fields
shows in the error.  It does not show in whether there is one, nor in any member.

For fields of distinct response names a level has one merged field for each.  Whether its member
can be made depends on the field and on the context, which is the same for all of them.  What the
siblings add is that no two names are equal, and this does not depend on the order
(`shape_eq_ok_iff`).  So the members are a function of the fields, and another order of the fields
gives the same members in that order (`shape_perm`).
-/

namespace QueryModel

/-! ## Fields of distinct response names -/

theorem mergeField_of_fresh {f : Field} {ms : List MergedField}
    (fresh : f.responseName ∉ ms.map (·.responseName)) : mergeField f ms = ms ++ [.ofField f] := by
  induction ms with
  | nil => rfl
  | cons m ms ih =>
    rw [List.map_cons, List.mem_cons, not_or] at fresh
    rw [mergeField_cons, if_neg (Ne.symm fresh.1), ih fresh.2, List.cons_append]

theorem mergeFields_of_nodup {fields : List Field}
    (distinct : (fields.map (·.responseName)).Nodup) :
    mergeFields fields = fields.map .ofField := by
  induction fields using List.reverseRecOn with
  | nil => rfl
  | append_singleton fields f ih =>
    rw [List.map_append, List.nodup_append] at distinct
    obtain ⟨distinct, _, apart⟩ := distinct
    have fresh : f.responseName ∉ (fields.map MergedField.ofField).map (·.responseName) := by
      rw [List.map_map]
      intro membership
      exact apart _ membership _ (List.mem_singleton_self _) rfl
    rw [mergeFields_concat, ih distinct, mergeField_of_fresh fresh, List.map_append]
    rfl

/-- Lists that are related element by element, the first without repetitions, are related by a
function. -/
theorem exists_map_of_forall₂ {α β : Type} [Nonempty β] {R : α → β → Prop} {as : List α}
    {bs : List β} (distinct : as.Nodup) (related : List.Forall₂ R as bs) :
    ∃ f : α → β, bs = as.map f ∧ ∀ a ∈ as, R a (f a) := by
  classical
  induction related with
  | nil => exact ⟨fun _ => Classical.arbitrary β, rfl, List.forall_mem_nil _⟩
  | @cons a b as bs head _ ih =>
    obtain ⟨fresh, distinct⟩ := List.nodup_cons.mp distinct
    obtain ⟨f, rfl, holds⟩ := ih distinct
    refine ⟨fun x => if x = a then b else f x, ?_, ?_⟩
    · have others : ∀ x ∈ as, (if x = a then b else f x) = f x := by
        intro x membership
        exact if_neg fun same : x = a => fresh (same ▸ membership)
      rw [List.map_cons, if_pos rfl, List.map_congr_left others]
    · intro x membership
      show R x (if x = a then b else f x)
      rcases List.mem_cons.mp membership with rfl | later
      · rw [if_pos rfl]
        exact head
      · rw [if_neg fun same : x = a => fresh (same ▸ later)]
        exact holds x later

/-! ## What a shape holds -/

/-- The accessor of a property. -/
def Property.accessor (p : Property) : Accessor := ⟨p.name, p.type⟩

/-- A shape holds the members of some fields in their order, and then some others. -/
structure Shape.Holds (shape : Shape) (s : Settings) (member : Field → Member)
    (fields : List Field) (others : List Member) : Prop where
  properties : shape.properties =
    fields.map (fun f => (member f).property) ++ others.map (·.property)
  nested : shape.nested =
    fields.filterMap (fun f => (member f).nested) ++ others.filterMap (·.nested)
  accessors : shape.accessors =
    if s.accessors then
      fields.map (fun f => (member f).property.accessor) ++ others.map (·.property.accessor)
    else []
  setters : shape.builder.map (·.setters) =
    if s.builders then
      some (fields.map (fun f => (member f).property.slot.setter) ++
        others.map (·.property.slot.setter))
    else none

theorem Shape.holds_ofMembers (s : Settings) (name : String) (member : Field → Member)
    (fields : List Field) (others : List Member) :
    (ofMembers s name (fields.map member ++ others)).Holds s member fields others := by
  constructor
  · simp [ofMembers]
  · simp [ofMembers, List.filterMap_map, Function.comp_def]
  · simp [ofMembers, Property.accessor, Function.comp_def]
  · simp only [ofMembers]
    split
    next =>
      rw [Option.map_some, Builder.setters_foldl Builder.adds_setter]
      simp [Property.slot, Function.comp_def]
    next => rfl

/-- What the members of a shape belong to.  The member of a field has its response name, and the
shape that nests for it is the one its property names.  The others are those of the inline
fragments, in order. -/
structure Belong (member : Field → Member) (fields : List Field) (others : List Member)
    (inlines : List InlineFragment) : Prop where
  name : ∀ f ∈ fields, (member f).property.name = f.responseName
  nested : ∀ f ∈ fields, (member f).nested.map (·.name) = (member f).property.kind.shape?
  others : others.map (·.property.kind) = inlines.map fun i => .inlineFragment i.shapeName

/-! ## Another order -/

namespace Context

variable {c : Context} {chain : List String} {name : String} {fields fields' : List Field}
  {inlines : List InlineFragment}

theorem flatten_noSpreads (c : Context) (chain : List String) (fields : List Field)
    (inlines : List InlineFragment) :
    c.flatten chain ⟨fields, [], inlines⟩ = .ok ⟨fields, inlines⟩ :=
  flatten_writtenOut c chain {} ⟨fields, inlines⟩

/-- The assembly of a selection, for another order of its fields. -/
theorem Assembly.perm {Below : Context → String → Selection → Shape → Prop}
    {member : Field → Member} {others : List Member}
    (assembly : c.Assembly chain Below name ⟨fields, [], inlines⟩ ⟨fields, inlines⟩
      (fields.map member) others)
    (distinct : (fields.map (·.responseName)).Nodup) (perm : fields.Perm fields') :
    c.Assembly chain Below name ⟨fields', [], inlines⟩ ⟨fields', inlines⟩
      (fields'.map member) others where
  flattened := flatten_noSpreads c chain fields' inlines
  fieldsYield := by
    have yields := assembly.fieldsYield
    rw [mergeFields_of_nodup distinct, List.forall₂_map_left_iff, List.forall₂_map_right_iff,
      List.forall₂_same] at yields
    rw [mergeFields_of_nodup ((perm.map _).nodup_iff.mp distinct), List.forall₂_map_left_iff,
      List.forall₂_map_right_iff, List.forall₂_same]
    intro f membership
    exact yields f (perm.mem_iff.mpr membership)
  inlinesYield := assembly.inlinesYield
  shapesDistinct :=
    (((perm.map member).append_right others).filterMap _).nodup_iff.mp assembly.shapesDistinct
  propertiesDistinct :=
    (((perm.map member).append_right others).map _).nodup_iff.mp assembly.propertiesDistinct

/-- A shape that is built has a member for each field, and the shape for another order of the
fields has the same members in that order. -/
theorem shape_perm {shape : Shape} (distinct : (fields.map (·.responseName)).Nodup)
    (perm : fields.Perm fields') (built : c.shape chain name ⟨fields, [], inlines⟩ = .ok shape) :
    ∃ member others, Belong member fields others inlines ∧
      shape = .ofMembers c.settings name (fields.map member ++ others) ∧
      c.shape chain name ⟨fields', [], inlines⟩ =
        .ok (.ofMembers c.settings name (fields'.map member ++ others)) := by
  have : Nonempty Member :=
    ⟨⟨(⟨"", none, [], none⟩ : InlineFragment).property (c.optionalShape ""), none⟩⟩
  obtain ⟨level, members, others, assembly, rfl⟩ := shape_eq_ok_iff.mp built
  obtain rfl : ⟨fields, inlines⟩ = level :=
    Except.ok.inj ((flatten_noSpreads c chain fields inlines).symm.trans assembly.flattened)
  have related := assembly.fieldsYield
  rw [mergeFields_of_nodup distinct, List.forall₂_map_left_iff] at related
  obtain ⟨member, rfl, yields⟩ := exists_map_of_forall₂ distinct.of_map related
  refine ⟨member, others, ⟨?_, ?_, ?_⟩, rfl, ?_⟩
  · intro f membership
    exact (yields f membership).name
  · intro f membership
    have nests : c.Assembly chain (BuiltWith chain fun _ _ _ _ => True) name _ _ _ others :=
      assembly.mono fun below => ⟨below, trivial⟩
    exact nests.map_name_nested _ (List.mem_append_left _ (List.mem_map_of_mem membership))
  · refine map_eq_of_forall₂ assembly.inlinesYield fun i _ yields => ?_
    cases yields
    rfl
  · exact shape_eq_ok_iff.mpr ⟨_, _, _, assembly.perm distinct perm, rfl⟩

/-- Fields of distinct response names do not see each other.  In another order they are built if
and only if they are built in this one.  The two shapes then have the same member for each field,
in the order of the fields, and after them the same members for the inline fragments. -/
theorem shape_perm_fields (c : Context) (chain : List String) (name : String)
    (inlines : List InlineFragment) {fields fields' : List Field}
    (distinct : (fields.map (·.responseName)).Nodup) (perm : fields.Perm fields') :
    ((∃ shape, c.shape chain name ⟨fields', [], inlines⟩ = .ok shape) ↔
      ∃ shape, c.shape chain name ⟨fields, [], inlines⟩ = .ok shape) ∧
    ∀ shape shape', c.shape chain name ⟨fields, [], inlines⟩ = .ok shape →
      c.shape chain name ⟨fields', [], inlines⟩ = .ok shape' →
      ∃ member others, Belong member fields others inlines ∧
        shape.Holds c.settings member fields others ∧
        shape'.Holds c.settings member fields' others := by
  refine ⟨⟨?_, ?_⟩, ?_⟩
  · rintro ⟨shape, built⟩
    have distinct' := (perm.map (·.responseName)).nodup_iff.mp distinct
    obtain ⟨_, _, _, _, built⟩ := shape_perm distinct' perm.symm built
    exact ⟨_, built⟩
  · rintro ⟨shape, built⟩
    obtain ⟨_, _, _, _, built⟩ := shape_perm distinct perm built
    exact ⟨_, built⟩
  · intro shape shape' built built'
    obtain ⟨member, others, belong, rfl, permuted⟩ := shape_perm distinct perm built
    obtain rfl := Except.ok.inj (permuted.symm.trans built')
    exact ⟨member, others, belong, Shape.holds_ofMembers .., Shape.holds_ofMembers ..⟩

end Context

namespace Sample

/-- Fields with and without a selection, one of them with a condition. -/
def siblings : List Field :=
  [.holding "hero" "Character!" [.leaf "name" "String"], .leaf "id" "ID!",
    { Field.holding "friends" "[Character]" [.leaf "height" "Float"] with
      conditions := some [⟨"withFriends", false⟩] }]

/-- A context with builders. -/
def building : Context :=
  { settings := .ofConfig { builders := true }
      { fragments := [fragmentOf "Named" [.leaf "name" "String"] [] []] } "" }

theorem shape_perm_fields_siblings :
    ∃ shape shape', building.shape [] "Data" ⟨siblings, [], [asDroid]⟩ = .ok shape ∧
      building.shape [] "Data" ⟨siblings.reverse, [], [asDroid]⟩ = .ok shape' ∧
      ∃ member others, Belong member siblings others [asDroid] ∧
        shape.Holds building.settings member siblings others ∧
        shape'.Holds building.settings member siblings.reverse others := by
  have few : building.freeNames "Data" ⟨siblings, [], [asDroid]⟩ < 20 := by decide +kernel
  have built : ∃ shape, building.shape [] "Data" ⟨siblings, [], [asDroid]⟩ = .ok shape :=
    Context.exists_shape few (by decide +kernel)
  have distinct : (siblings.map (·.responseName)).Nodup := by decide
  have permuted := Context.shape_perm_fields building [] "Data" [asDroid] distinct
    (List.reverse_perm siblings).symm
  obtain ⟨shape', built'⟩ := permuted.1.mpr built
  obtain ⟨shape, built⟩ := built
  exact ⟨shape, shape', built, built', permuted.2 shape shape' built built'⟩

end Sample

end QueryModel
