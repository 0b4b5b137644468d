import Mathlib.Data.List.Forall2
import Mathlib.Data.List.Nodup
import Mathlib.Logic.Relation
import QueryModel.Proofs.Shape.Depth
import QueryModel.Proofs.Shape.Merging

/-!
# How a shape is put together

A shape that was built comes from a level.  Every merged field of the level yields
a member (`MergedField.Yields`), and every inline fragment does (`InlineYields`).
No two members have the same property name or the same name of a nested shape.
`Context.Assembly` says all of this at once.

The shapes below the members are built in the same way, from the selections below.
`Context.shape_induction` is the induction that follows: a property of built shapes
holds when it holds of every assembly whose nested shapes have it.  The later
modules never open the definition of `Context.shape`.
-/

namespace QueryModel

/-! ## Related lists -/

theorem exists_right_of_forall₂ {α β : Type} {R : α → β → Prop} {as : List α} {bs : List β}
    (related : List.Forall₂ R as bs) {a : α} (membership : a ∈ as) : ∃ b ∈ bs, R a b := by
  induction related with
  | nil => cases membership
  | @cons a' b' as bs head _ ih =>
    cases List.mem_cons.mp membership with
    | inl same =>
      subst same
      exact ⟨b', List.mem_cons_self .., head⟩
    | inr later =>
      obtain ⟨b, inTail, rel⟩ := ih later
      exact ⟨b, List.mem_cons_of_mem _ inTail, rel⟩

theorem exists_left_of_forall₂ {α β : Type} {R : α → β → Prop} {as : List α} {bs : List β}
    (related : List.Forall₂ R as bs) {b : β} (membership : b ∈ bs) : ∃ a ∈ as, R a b :=
  exists_right_of_forall₂ related.flip membership

/-- Related lists agree on what related elements agree on. -/
theorem map_eq_of_forall₂ {α β γ : Type} {R : α → β → Prop} {f : α → γ} {g : β → γ}
    {as : List α} {bs : List β} (related : List.Forall₂ R as bs)
    (agree : ∀ a b, R a b → g b = f a) : bs.map g = as.map f := by
  induction related with
  | nil => rfl
  | cons head _ ih => rw [List.map_cons, List.map_cons, ih, agree _ _ head]

/-- Of elements with distinct keys, the one that is searched by its key is found. -/
theorem find?_eq_some_of_nodup {α : Type} {k : α → String} {l : List α} {x : α}
    (distinct : (l.map k).Nodup) (membership : x ∈ l) :
    l.find? (fun y => k y == k x) = some x := by
  cases found : l.find? (fun y => k y == k x) with
  | none => exact absurd (List.find?_eq_none.mp found x membership) (by simp)
  | some y =>
    have sameKey : k y = k x := by simpa using List.find?_some found
    rw [List.inj_on_of_nodup_map distinct (List.mem_of_find?_eq_some found) membership sameKey]

/-! ## Members -/

/-- The names of the properties of members. -/
def propertyNames (members : List Member) : List String := members.map (·.property.name)

/-- The names of the shapes that nest for members. -/
def shapeNames (members : List Member) : List String :=
  members.filterMap (·.property.kind.shape?)

theorem propertyNames_append (a b : List Member) :
    propertyNames (a ++ b) = propertyNames a ++ propertyNames b := List.map_append

theorem shapeNames_append (a b : List Member) :
    shapeNames (a ++ b) = shapeNames a ++ shapeNames b := List.filterMap_append

theorem nestsShape_eq_false {members : List Member} {name : String} :
    nestsShape members name = false ↔ name ∉ shapeNames members := by
  simp [nestsShape, shapeNames]

theorem hasProperty_eq_false {members : List Member} {name : String} :
    hasProperty members name = false ↔ name ∉ propertyNames members := by
  simp [hasProperty, propertyNames]

/-- The members that a merged field may yield, where `Nested` relates the field to
the shape below it. -/
inductive MergedField.Yields (c : Context) (Nested : MergedField → Shape → Prop)
    (m : MergedField) : Member → Prop
  | value {type : ResolvedType} :
      m.hasSelection = false →
      (c.push m.first.responseName).resolve m.demand m.first.typeName = .ok type →
      Yields c Nested m ⟨m.property type .value, none⟩
  | object {t : TypeExpr} {type : ResolvedType} {nested : Shape} :
      m.hasSelection = true →
      (c.push m.first.responseName).parseType m.first.typeName = .ok t →
      c.isReserved m.shapeName = false →
      Nested m nested →
      (c.push m.first.responseName).resolveExpr { m.demand with shape := some m.shapeName } t =
        .ok type →
      Yields c Nested m ⟨m.property type (.object m.shapeName), some nested⟩

theorem MergedField.Yields.name {c : Context} {Nested : MergedField → Shape → Prop}
    {m : MergedField} {member : Member} (yields : m.Yields c Nested member) :
    member.property.name = m.responseName := by
  cases yields <;> rfl

theorem MergedField.Yields.mono {c : Context} {Nested Nested' : MergedField → Shape → Prop}
    {m : MergedField} {member : Member} (yields : m.Yields c Nested member)
    (weaker : ∀ shape, Nested m shape → Nested' m shape) : m.Yields c Nested' member := by
  cases yields with
  | value leaf resolved => exact .value leaf resolved
  | object selects parsed free below resolved =>
    exact .object selects parsed free (weaker _ below) resolved

/-- The members that an inline fragment may yield, where `Nested` relates the
fragment to its shape. -/
inductive InlineYields (c : Context) (Nested : InlineFragment → Shape → Prop)
    (i : InlineFragment) : Member → Prop
  | nested {nested : Shape} :
      c.isReserved i.shapeName = false →
      Nested i nested →
      InlineYields c Nested i
        ⟨i.property ((c.push i.shapeName).optionalShape i.shapeName),
          some { nested with
            typeCondition := some i.typeCondition
            possibleTypes := i.possible }⟩

theorem InlineYields.mono {c : Context} {Nested Nested' : InlineFragment → Shape → Prop}
    {i : InlineFragment} {member : Member} (yields : InlineYields c Nested i member)
    (weaker : ∀ shape, Nested i shape → Nested' i shape) : InlineYields c Nested' i member := by
  cases yields with
  | nested free below => exact .nested free (weaker _ below)

theorem shapeNames_of_inlineYields {c : Context} {Nested : InlineFragment → Shape → Prop}
    {is : List InlineFragment} {members : List Member}
    (yield : List.Forall₂ (InlineYields c Nested) is members) :
    shapeNames members = is.map (·.shapeName) := by
  induction yield with
  | nil => rfl
  | cons head _ ih =>
    cases head
    exact congrArg (_ :: ·) ih

namespace Context

variable {c : Context} {done members : List Member} {member : Member}

theorem fieldMember_eq_ok {m : MergedField} {Nested : MergedField → Shape → Prop}
    {nest : c.isReserved m.shapeName = false → Build Shape}
    (made : c.fieldMember done m nest = .ok member)
    (nests : ∀ free shape, nest free = .ok shape → Nested m shape) :
    m.Yields c Nested member ∧
      ∀ name, member.property.kind.shape? = some name → name ∉ shapeNames done := by
  simp only [fieldMember] at made
  split at made
  next selects =>
    obtain ⟨t, parsed, made⟩ := Build.bind_eq_ok.mp made
    split at made
    next free =>
      split at made
      next => cases made
      next fresh =>
        obtain ⟨nested, built, made⟩ := Build.bind_eq_ok.mp made
        obtain ⟨type, resolved, made⟩ := Build.bind_eq_ok.mp made
        cases made
        refine ⟨.object selects parsed free (nests free nested built) resolved, ?_⟩
        intro name same
        cases same
        exact nestsShape_eq_false.mp (Bool.eq_false_iff.mpr fresh)
    next => cases made
  next leaf =>
    obtain ⟨type, resolved, made⟩ := Build.bind_eq_ok.mp made
    cases made
    refine ⟨.value (Bool.eq_false_iff.mpr leaf) resolved, ?_⟩
    intro name absent
    cases absent

/-- One more member keeps the names of nested shapes distinct. -/
theorem nodup_shapeNames_concat (distinct : (shapeNames done).Nodup)
    (fresh : ∀ name, member.property.kind.shape? = some name → name ∉ shapeNames done) :
    (shapeNames (done ++ [member])).Nodup := by
  rw [shapeNames_append]
  cases kind : member.property.kind.shape? with
  | none => simpa [shapeNames, kind] using distinct
  | some name =>
    have single : shapeNames [member] = [name] := by simp [shapeNames, kind]
    rw [single]
    exact List.Nodup.append distinct (List.nodup_singleton _) (by simpa using fresh name kind)

theorem nodup_propertyNames_concat (distinct : (propertyNames done).Nodup)
    (fresh : member.property.name ∉ propertyNames done) :
    (propertyNames (done ++ [member])).Nodup := by
  rw [propertyNames_append]
  refine List.Nodup.append distinct (List.nodup_singleton _) ?_
  simpa [propertyNames] using fresh

theorem fieldMembers_eq_ok {Nested : MergedField → Shape → Prop} {ms : List MergedField}
    {nest : (m : MergedField) → m ∈ ms → c.isReserved m.shapeName = false → Build Shape}
    (made : c.fieldMembers done ms nest = .ok members)
    (nests : ∀ m membership free shape, nest m membership free = .ok shape → Nested m shape)
    (distinct : (shapeNames done).Nodup) :
    ∃ new, members = done ++ new ∧ List.Forall₂ (MergedField.Yields c Nested) ms new ∧
      (shapeNames members).Nodup := by
  induction ms generalizing done with
  | nil =>
    cases made
    exact ⟨[], (List.append_nil _).symm, .nil, distinct⟩
  | cons m ms ih =>
    rw [fieldMembers] at made
    obtain ⟨member, first, made⟩ := Build.bind_eq_ok.mp made
    obtain ⟨yields, fresh⟩ := fieldMember_eq_ok first (nests m _)
    obtain ⟨new, rfl, all, distinctAll⟩ := ih made
      (fun m later => nests m (List.mem_cons_of_mem _ later))
      (nodup_shapeNames_concat distinct fresh)
    exact ⟨member :: new, List.append_assoc .., .cons yields all, distinctAll⟩

theorem inlineMember_eq_ok {i : InlineFragment} {Nested : InlineFragment → Shape → Prop}
    {nest : c.isReserved i.shapeName = false → Build Shape}
    (made : c.inlineMember done i nest = .ok member)
    (nests : ∀ free shape, nest free = .ok shape → Nested i shape) :
    InlineYields c Nested i member ∧
      (∀ name, member.property.kind.shape? = some name → name ∉ shapeNames done) ∧
      member.property.name ∉ propertyNames done := by
  simp only [inlineMember] at made
  split at made
  next free =>
    split at made
    next => cases made
    next freshShape =>
      split at made
      next => cases made
      next freshProperty =>
        obtain ⟨nested, built, made⟩ := Build.bind_eq_ok.mp made
        cases made
        refine ⟨.nested free (nests free nested built), ?_, ?_⟩
        · intro name same
          cases same
          exact nestsShape_eq_false.mp (Bool.eq_false_iff.mpr freshShape)
        · exact hasProperty_eq_false.mp (Bool.eq_false_iff.mpr freshProperty)
  next => cases made

theorem inlineMembers_eq_ok {Nested : InlineFragment → Shape → Prop} {is : List InlineFragment}
    {nest : (i : InlineFragment) → i ∈ is → c.isReserved i.shapeName = false → Build Shape}
    (made : c.inlineMembers done is nest = .ok members)
    (nests : ∀ i membership free shape, nest i membership free = .ok shape → Nested i shape)
    (distinctShapes : (shapeNames done).Nodup) (distinct : (propertyNames done).Nodup) :
    ∃ new, members = done ++ new ∧ List.Forall₂ (InlineYields c Nested) is new ∧
      (shapeNames members).Nodup ∧ (propertyNames members).Nodup := by
  induction is generalizing done with
  | nil =>
    cases made
    exact ⟨[], (List.append_nil _).symm, .nil, distinctShapes, distinct⟩
  | cons i is ih =>
    rw [inlineMembers] at made
    obtain ⟨member, first, made⟩ := Build.bind_eq_ok.mp made
    obtain ⟨yields, freshShape, freshProperty⟩ := inlineMember_eq_ok first (nests i _)
    obtain ⟨new, rfl, all, distinctAll⟩ := ih made
      (fun i later => nests i (List.mem_cons_of_mem _ later))
      (nodup_shapeNames_concat distinctShapes freshShape)
      (nodup_propertyNames_concat distinct freshProperty)
    exact ⟨member :: new, List.append_assoc .., .cons yields all, distinctAll⟩

/-! ## Shapes -/

/-- A level with its members, where `Below` holds of the shapes that nest for them. -/
structure Assembly (c : Context) (chain : List String)
    (Below : Context → String → Selection → Shape → Prop) (name : String) (sel : Selection)
    (level : Level) (fields inlines : List Member) : Prop where
  /-- The level is that of the selection. -/
  flattened : c.flatten chain sel = .ok level
  /-- The first members come from the merged fields. -/
  fieldsYield : List.Forall₂ (MergedField.Yields (c.reserve name) fun m nested =>
    Below ((c.reserve name).push m.first.responseName) m.shapeName m.nested nested)
      (mergeFields level.fields) fields
  /-- The others come from the inline fragments. -/
  inlinesYield : List.Forall₂ (InlineYields (c.reserve name) fun i nested =>
    Below ((c.reserve name).push i.shapeName) i.shapeName i.selection nested)
      level.inlines inlines
  /-- No two nested shapes have the same name. -/
  shapesDistinct : (shapeNames (fields ++ inlines)).Nodup
  /-- No two properties have the same name. -/
  propertiesDistinct : (propertyNames (fields ++ inlines)).Nodup

/-- A shape was built and has a property. -/
def BuiltWith (chain : List String) (P : Context → String → Selection → Shape → Prop)
    (c : Context) (name : String) (sel : Selection) (shape : Shape) : Prop :=
  c.shape chain name sel = .ok shape ∧ P c name sel shape

/-- What holds of every assembly whose nested shapes are built and have it holds of
every built shape. -/
theorem shape_induction {chain : List String}
    {motive : Context → String → Selection → Shape → Prop}
    (step : ∀ {c name sel level fields inlines},
      c.Assembly chain (BuiltWith chain motive) name sel level fields inlines →
      motive c name sel (.ofMembers c.settings name (fields ++ inlines)))
    {c : Context} {name : String} {sel : Selection} {shape : Shape}
    (built : c.shape chain name sel = .ok shape) : motive c name sel shape := by
  rw [shape_eq] at built
  obtain ⟨level, flattened, built⟩ := Build.bind_eq_ok.mp built
  obtain ⟨fields, fieldsMade, built⟩ := Build.bind_eq_ok.mp built
  obtain ⟨members, membersMade, built⟩ := Build.bind_eq_ok.mp built
  cases built
  -- fewer names are free below a member, so the induction applies to its shape
  have belowField : ∀ m ∈ mergeFields level.fields, ∀ nested,
      (c.reserve name).isReserved m.shapeName = false →
      ((c.reserve name).push m.first.responseName).shape chain m.shapeName m.nested =
        .ok nested →
      BuiltWith chain motive ((c.reserve name).push m.first.responseName) m.shapeName m.nested
        nested := by
    intro m membership nested free nestedBuilt
    have := freeNames_field_lt flattened membership free
    exact ⟨nestedBuilt, shape_induction step nestedBuilt⟩
  have belowInline : ∀ i ∈ level.inlines, ∀ nested,
      (c.reserve name).isReserved i.shapeName = false →
      ((c.reserve name).push i.shapeName).shape chain i.shapeName i.selection = .ok nested →
      BuiltWith chain motive ((c.reserve name).push i.shapeName) i.shapeName i.selection
        nested := by
    intro i membership nested free nestedBuilt
    have := freeNames_inline_lt flattened membership free
    exact ⟨nestedBuilt, shape_induction step nestedBuilt⟩
  obtain ⟨_, rfl, fieldsYield, distinctShapes⟩ := fieldMembers_eq_ok fieldsMade
    (fun m membership free nested => belowField m membership nested free) List.nodup_nil
  have distinctNames : (propertyNames fields).Nodup := by
    rw [propertyNames, map_eq_of_forall₂ fieldsYield fun _ _ yields => yields.name]
    exact nodup_responseNames_mergeFields level.fields
  obtain ⟨inlines, rfl, inlinesYield, distinctAll, distinctAllNames⟩ :=
    inlineMembers_eq_ok membersMade
      (fun i membership free nested => belowInline i membership nested free)
      distinctShapes distinctNames
  exact step ⟨flattened, fieldsYield, inlinesYield, distinctAll, distinctAllNames⟩
termination_by c.freeNames name sel

/-! ## Members that are made

Conversely, members that are yielded and have distinct names are made. -/

theorem fresh_of_nodup {new : List Member} {name : String}
    (distinct : (shapeNames (done ++ member :: new)).Nodup)
    (nests : member.property.kind.shape? = some name) : name ∉ shapeNames done := by
  rw [shapeNames_append] at distinct
  intro membership
  refine (List.nodup_append.mp distinct).2.2 name membership name ?_ rfl
  exact List.mem_filterMap.mpr ⟨member, List.mem_cons_self .., nests⟩

theorem fieldMember_of_yields {m : MergedField} {nest : MergedField → Build Shape}
    (yields : m.Yields c (fun m shape => nest m = .ok shape) member)
    (fresh : ∀ name, member.property.kind.shape? = some name → name ∉ shapeNames done) :
    c.fieldMember done m (fun _ => nest m) = .ok member := by
  cases yields with
  | value leaf resolved =>
    simp only [fieldMember, leaf, Bool.false_eq_true, if_false, resolved]
    rfl
  | object selects parsed free below resolved =>
    have unused : nestsShape done m.shapeName = false := nestsShape_eq_false.mpr (fresh _ rfl)
    simp only [fieldMember, selects, if_true, parsed, Result.ok_bind, free, dif_pos, unused,
      Bool.false_eq_true, if_false, below, resolved]
    rfl

theorem fieldMembers_of_yields {ms : List MergedField} {new : List Member}
    {nest : MergedField → Build Shape}
    (yield : List.Forall₂ (MergedField.Yields c fun m shape => nest m = .ok shape) ms new)
    (distinct : (shapeNames (done ++ new)).Nodup) :
    c.fieldMembers done ms (fun m _ _ => nest m) = .ok (done ++ new) := by
  induction yield generalizing done with
  | nil => rw [fieldMembers, List.append_nil]
  | @cons m member ms new head _ ih =>
    rw [fieldMembers, fieldMember_of_yields head fun _ => fresh_of_nodup distinct]
    rw [List.append_cons] at distinct ⊢
    exact ih distinct

theorem inlineMember_of_yields {i : InlineFragment} {nest : InlineFragment → Build Shape}
    (yields : InlineYields c (fun i shape => nest i = .ok shape) i member)
    (fresh : ∀ name, member.property.kind.shape? = some name → name ∉ shapeNames done)
    (unused : member.property.name ∉ propertyNames done) :
    c.inlineMember done i (fun _ => nest i) = .ok member := by
  cases yields with
  | nested free below =>
    have freshShape : nestsShape done i.shapeName = false := nestsShape_eq_false.mpr (fresh _ rfl)
    have freshProperty : hasProperty done i.propertyName = false := hasProperty_eq_false.mpr unused
    simp only [inlineMember, free, dif_pos, freshShape, freshProperty, Bool.false_eq_true, if_false,
      below, Result.ok_bind]
    rfl

theorem inlineMembers_of_yields {is : List InlineFragment} {new : List Member}
    {nest : InlineFragment → Build Shape}
    (yield : List.Forall₂ (InlineYields c fun i shape => nest i = .ok shape) is new)
    (distinctShapes : (shapeNames (done ++ new)).Nodup)
    (distinct : (propertyNames (done ++ new)).Nodup) :
    c.inlineMembers done is (fun i _ _ => nest i) = .ok (done ++ new) := by
  induction yield generalizing done with
  | nil => rw [inlineMembers, List.append_nil]
  | @cons i member is new head _ ih =>
    have unused : member.property.name ∉ propertyNames done := by
      rw [propertyNames_append] at distinct
      intro membership
      exact (List.nodup_append.mp distinct).2.2 _ membership _ (List.mem_cons_self ..) rfl
    rw [inlineMembers, inlineMember_of_yields head (fun _ => fresh_of_nodup distinctShapes) unused]
    rw [List.append_cons] at distinctShapes distinct ⊢
    exact ih distinctShapes distinct

theorem Assembly.mono {chain : List String}
    {Below Below' : Context → String → Selection → Shape → Prop} {name : String}
    {sel : Selection} {level : Level} {fields inlines : List Member}
    (assembly : c.Assembly chain Below name sel level fields inlines)
    (weaker : ∀ {c name sel shape}, Below c name sel shape → Below' c name sel shape) :
    c.Assembly chain Below' name sel level fields inlines where
  flattened := assembly.flattened
  fieldsYield := assembly.fieldsYield.imp fun _ _ yields => yields.mono fun _ => weaker
  inlinesYield := assembly.inlinesYield.imp fun _ _ yields => yields.mono fun _ => weaker
  shapesDistinct := assembly.shapesDistinct
  propertiesDistinct := assembly.propertiesDistinct

/-- A shape is built for a selection. -/
def Builds (chain : List String) (c : Context) (name : String) (sel : Selection) (shape : Shape) :
    Prop :=
  c.shape chain name sel = .ok shape

/-- A shape is built exactly when its members can be assembled. -/
theorem shape_eq_ok_iff {chain : List String} {name : String} {sel : Selection} {shape : Shape} :
    c.shape chain name sel = .ok shape ↔
      ∃ level fields inlines, c.Assembly chain (Builds chain) name sel level fields inlines ∧
        shape = .ofMembers c.settings name (fields ++ inlines) := by
  constructor
  · refine shape_induction (motive := fun c name sel shape => ∃ level fields inlines,
      c.Assembly chain (Builds chain) name sel level fields inlines ∧
        shape = .ofMembers c.settings name (fields ++ inlines)) fun assembly => ?_
    exact ⟨_, _, _, assembly.mono fun below => below.1, rfl⟩
  · rintro ⟨level, fields, inlines, assembly, rfl⟩
    have distinctFields : (shapeNames ([] ++ fields)).Nodup := by
      have distinct := assembly.shapesDistinct
      rw [shapeNames_append] at distinct
      exact (List.nodup_append.mp distinct).1
    rw [shape_eq, assembly.flattened, Result.ok_bind]
    simp only [fieldMembers_of_yields assembly.fieldsYield distinctFields, List.nil_append,
      Result.ok_bind, inlineMembers_of_yields assembly.inlinesYield assembly.shapesDistinct
        assembly.propertiesDistinct]
    rfl

theorem name_of_shape {chain : List String} {name : String} {sel : Selection} {shape : Shape}
    (built : c.shape chain name sel = .ok shape) : shape.name = name :=
  shape_induction (motive := fun _ name _ shape => shape.name = name) (fun _ => rfl) built

theorem map_name_properties (s : Settings) (name : String) (members : List Member) :
    (Shape.ofMembers s name members).properties.map (·.name) = propertyNames members := by
  show (members.map (·.property)).map (·.name) = _
  rw [List.map_map]
  rfl

/-! ## Nested shapes -/

namespace Assembly

variable {chain : List String} {P : Context → String → Selection → Shape → Prop} {name : String}
  {sel : Selection} {level : Level} {fields inlines : List Member}

/-- A member comes from a merged field or from an inline fragment. -/
theorem member_cases {Below : Context → String → Selection → Shape → Prop}
    (assembly : c.Assembly chain Below name sel level fields inlines) {member : Member}
    (membership : member ∈ fields ++ inlines) :
    (∃ m ∈ mergeFields level.fields, member ∈ fields ∧
      m.Yields (c.reserve name) (fun m nested =>
        Below ((c.reserve name).push m.first.responseName) m.shapeName m.nested nested) member) ∨
    ∃ i ∈ level.inlines, member ∈ inlines ∧
      InlineYields (c.reserve name) (fun i nested =>
        Below ((c.reserve name).push i.shapeName) i.shapeName i.selection nested) i member := by
  rcases List.mem_append.mp membership with inFields | inInlines
  · obtain ⟨m, merged, yields⟩ := exists_left_of_forall₂ assembly.fieldsYield inFields
    exact .inl ⟨m, merged, inFields, yields⟩
  · obtain ⟨i, inLevel, yields⟩ := exists_left_of_forall₂ assembly.inlinesYield inInlines
    exact .inr ⟨i, inLevel, inInlines, yields⟩

/-- The property of a member names the shape that nests for it. -/
theorem map_name_nested
    (assembly : c.Assembly chain (BuiltWith chain P) name sel level fields inlines) :
    ∀ member ∈ fields ++ inlines, member.nested.map (·.name) = member.property.kind.shape? := by
  intro member membership
  rcases assembly.member_cases membership with ⟨m, _, _, yields⟩ | ⟨i, _, _, yields⟩
  · cases yields with
    | value => rfl
    | object _ _ _ below _ => exact congrArg some (name_of_shape below.1)
  · cases yields with
    | @nested inner _ below =>
      have named : inner.name = i.shapeName := name_of_shape below.1
      exact congrArg some named

/-- The names of the nested shapes are those that the properties name, in order. -/
theorem names_nested
    (assembly : c.Assembly chain (BuiltWith chain P) name sel level fields inlines) :
    (Shape.ofMembers c.settings name (fields ++ inlines)).nested.map (·.name) =
      shapeNames (fields ++ inlines) := by
  show ((fields ++ inlines).filterMap (·.nested)).map (·.name) = _
  rw [List.map_filterMap, shapeNames]
  exact List.filterMap_congr assembly.map_name_nested

/-- The shape that nests for a member is found by the name in its property. -/
theorem nested?_eq_some
    (assembly : c.Assembly chain (BuiltWith chain P) name sel level fields inlines)
    {member : Member} (membership : member ∈ fields ++ inlines) {nested : Shape}
    (nests : member.nested = some nested) :
    member.property.kind.shape?.bind
      (Shape.ofMembers c.settings name (fields ++ inlines)).nested? = some nested := by
  rw [← assembly.map_name_nested member membership, nests]
  refine find?_eq_some_of_nodup (k := Shape.name) ?_ ?_
  · rw [assembly.names_nested]
    exact assembly.shapesDistinct
  · exact List.mem_filterMap.mpr ⟨member, membership, nests⟩

/-- A nested shape was built below, under a name that was free, and got a type
condition and possible types at most. -/
theorem of_mem_nested {Below : Context → String → Selection → Shape → Prop}
    (assembly : c.Assembly chain Below name sel level fields inlines) {nested : Shape}
    (membership : nested ∈ (Shape.ofMembers c.settings name (fields ++ inlines)).nested) :
    ∃ step nestedName nestedSel shape condition possible,
      (c.reserve name).isReserved nestedName = false ∧
      Below ((c.reserve name).push step) nestedName nestedSel shape ∧
      nested = { shape with typeCondition := condition, possibleTypes := possible } := by
  obtain ⟨member, inMembers, nests⟩ := List.mem_filterMap.mp membership
  rcases assembly.member_cases inMembers with ⟨m, _, _, yields⟩ | ⟨i, _, _, yields⟩
  · cases yields with
    | value => cases nests
    | object _ _ free below _ =>
      cases nests
      refine ⟨_, _, _, nested, nested.typeCondition, nested.possibleTypes, free, below, ?_⟩
      cases nested
      rfl
  · cases yields with
    | nested free below =>
      cases nests
      exact ⟨_, _, _, _, _, _, free, below, rfl⟩

end Assembly

end Context

/-! ## Trees of shapes -/

namespace Shape

/-- A shape nests directly in another. -/
def Nests (outer inner : Shape) : Prop := inner ∈ outer.nested

/-- A property of a shape and of all shapes below it. -/
def Everywhere (P : Shape → Prop) (root : Shape) : Prop :=
  ∀ shape, Relation.ReflTransGen Nests root shape → P shape

theorem everywhere_iff {P : Shape → Prop} {root : Shape} :
    root.Everywhere P ↔ P root ∧ ∀ nested ∈ root.nested, nested.Everywhere P := by
  constructor
  · intro everywhere
    refine ⟨everywhere root .refl, fun nested nests shape below => ?_⟩
    exact everywhere shape (.head nests below)
  · rintro ⟨here, below⟩ shape path
    rcases Relation.ReflTransGen.cases_head path with rfl | ⟨nested, nests, rest⟩
    · exact here
    · exact below nested nests shape rest

end Shape

/-- What holds of every assembly, whatever the type condition, holds everywhere in a
built shape. -/
theorem Context.shape_everywhere {chain : List String} {P : Settings → Shape → Prop}
    (assembled : ∀ {c name sel level fields inlines Q},
      Context.Assembly c chain (Context.BuiltWith chain Q) name sel level fields inlines →
      P c.settings (.ofMembers c.settings name (fields ++ inlines)))
    (ignores : ∀ {s shape} condition possible, P s shape →
      P s { shape with typeCondition := condition, possibleTypes := possible })
    {c : Context} {name : String} {sel : Selection} {shape : Shape}
    (built : c.shape chain name sel = .ok shape) : shape.Everywhere (P c.settings) := by
  refine Context.shape_induction (motive := fun c _ _ shape => shape.Everywhere (P c.settings))
    (fun assembly => ?_) built
  refine Shape.everywhere_iff.mpr ⟨assembled assembly, fun nested membership => ?_⟩
  obtain ⟨_, _, _, inner, condition, possible, _, below, rfl⟩ :=
    assembly.of_mem_nested membership
  obtain ⟨here, deeper⟩ := Shape.everywhere_iff.mp below.2
  exact Shape.everywhere_iff.mpr ⟨ignores condition possible here, deeper⟩

end QueryModel
