import QueryModel.Proofs.Shape.Assembly

/-!
# References between shapes and properties

The types of properties refer to the shapes that nest beside them.  A reference holds
another one only as the element of a list, so it leads to at most one shape, which
stands below all list layers (`TypeRef.shape?`).

The resolver is asked for a shape or for none, and what it returns leads to exactly
that.  It is also told whether the type may be absent, and then it is wrapped as such,
because a name is never primitive where null is allowed (`resolveExpr_eq_ok`).

`closed_shape` puts this together: in every shape of a built tree, properties, nested
shapes and accessors fit each other.
-/

namespace QueryModel

/-! ## References -/

namespace TypeRef

/-- The shape that a reference leads to, below all list layers. -/
def shape? : TypeRef → Option String
  | .shape name => some name
  | .list { base, .. } => base.shape?
  | .primitive _ => none
  | .boxed _ => none
  | .text => none
  | .named _ => none

@[simp]
theorem shape?_list (element : ResolvedType) : (list element).shape? = element.base.shape? := by
  rw [shape?]

@[simp]
theorem shape?_box (r : TypeRef) : r.box.shape? = r.shape? := by
  cases r <;> rfl

/-- The target of a scalar leads to no shape and is not primitive. -/
theorem shape?_ofTarget (target : String) :
    (ofTarget target).shape? = none ∧ (ofTarget target).isPrimitive = false :=
  ofTarget_induction (P := fun r => r.shape? = none ∧ r.isPrimitive = false) (by decide)
    (fun _ => ⟨rfl, rfl⟩) target

end TypeRef

theorem Wrapped.isOptional_iff {R : Type} {t : Wrapped R} :
    t.isOptional = true ↔ ∃ policy, t.wrapping = .nullable policy := by
  rw [isOptional]
  cases t.wrapping with
  | none => simp
  | nonNull => simp
  | nullable policy => simp

/-! ## Resolving -/

namespace Context

variable {c : Context} {shape : Option String} {optional : Bool}

/-- A name resolves to no shape, and to no primitive where null is allowed. -/
theorem lookup_eq_ok {name : String} {ref : TypeRef} (found : c.lookup name optional = .ok ref) :
    ref.shape? = none ∧ (optional = true → ref.isPrimitive = false) := by
  rcases lookup_cases found with
    ⟨_, rfl⟩ | ⟨p, _, rfl⟩ | ⟨_, ⟨target, _, rfl⟩ | ⟨_, _, _, rfl⟩⟩
  · exact ⟨rfl, fun _ => rfl⟩
  · cases optional with
    | true => exact ⟨rfl, fun _ => rfl⟩
    | false => exact ⟨rfl, fun allowed => nomatch allowed⟩
  · obtain ⟨noShape, notPrimitive⟩ := TypeRef.shape?_ofTarget target
    exact ⟨noShape, fun _ => notPrimitive⟩
  · exact ⟨rfl, fun _ => rfl⟩

theorem nameRef_eq_ok {name : String} {ref : TypeRef}
    (found : c.nameRef shape name optional = .ok ref) :
    ref.shape? = shape ∧ (optional = true → ref.isPrimitive = false) := by
  cases shape with
  | none => exact lookup_eq_ok found
  | some shape =>
    cases found
    exact ⟨rfl, fun _ => rfl⟩

/-- An element of a list leads to the shape that was asked for. -/
theorem shape?_of_resolveElement {t : TypeExpr} {type : ResolvedType}
    (resolved : c.resolveElement shape t = .ok type) : type.base.shape? = shape := by
  fun_induction resolveElement c shape t generalizing type with
  | case1 name =>
    obtain ⟨ref, found, resolved⟩ := Build.bind_eq_ok.mp resolved
    cases resolved
    rw [elementType, TypeRef.shape?_box]
    exact (nameRef_eq_ok found).1
  | case2 inner ih =>
    obtain ⟨element, found, resolved⟩ := Build.bind_eq_ok.mp resolved
    cases resolved
    rw [elementType, TypeRef.shape?_box, TypeRef.shape?_list]
    exact ih found
  | case3 name =>
    obtain ⟨ref, found, resolved⟩ := Build.bind_eq_ok.mp resolved
    cases resolved
    rw [elementType, TypeRef.shape?_box]
    exact (nameRef_eq_ok found).1
  | case4 inner ih =>
    obtain ⟨element, found, resolved⟩ := Build.bind_eq_ok.mp resolved
    cases resolved
    rw [elementType, TypeRef.shape?_box, TypeRef.shape?_list]
    exact ih found
  | case5 => cases resolved

theorem baseRef_eq_ok {t : TypeExpr} {ref : TypeRef}
    (found : c.baseRef shape optional t = .ok ref) :
    ref.shape? = shape ∧ (optional = true → ref.isPrimitive = false) := by
  cases t with
  | named name => exact nameRef_eq_ok found
  | list inner =>
    obtain ⟨element, resolved, found⟩ := Build.bind_eq_ok.mp found
    cases found
    rw [TypeRef.shape?_list]
    exact ⟨shape?_of_resolveElement resolved, fun _ => rfl⟩
  | nonNull inner => cases found

/-- What is wrapped may be absent when that was asked for, unless it is primitive. -/
theorem isOptional_wrap {base : TypeRef} (notPrimitive : optional = true → base.isPrimitive = false)
    (policy : Option NullPolicy) (deprecated : Bool) :
    (c.wrap base optional policy deprecated).isOptional = optional := by
  cases optional with
  | true =>
    rw [wrap, notPrimitive rfl]
    rfl
  | false =>
    rw [wrap]
    cases base.isPrimitive with
    | true => rfl
    | false => rfl

theorem parseType_eq_ok {typeName : String} {t : TypeExpr} :
    c.parseType typeName = .ok t ↔ TypeExpr.parse typeName = .ok t := by
  rw [parseType]
  cases TypeExpr.parse typeName <;> simp

/-- A resolved type leads to the shape that was asked for, and it may be absent when that
was asked for or else when the mark is missing. -/
theorem resolveExpr_eq_ok {d : Demand} {t : TypeExpr} {type : ResolvedType}
    (resolved : c.resolveExpr d t = .ok type) :
    type.base.shape? = d.shape ∧ type.isOptional = d.optional.getD !t.isNonNull := by
  obtain ⟨base, found, resolved⟩ := Build.bind_eq_ok.mp resolved
  cases resolved
  obtain ⟨leads, notPrimitive⟩ := baseRef_eq_ok found
  refine ⟨leads, ?_⟩
  rw [isOptional_wrap notPrimitive]
  cases t with
  | named name => rfl
  | list inner => rfl
  | nonNull inner => rfl

end Context

/-! ## Properties -/

/-- The type of a property fits its kind and its option. -/
structure Property.Fits (p : Property) : Prop where
  /-- The type leads to the shape of the kind, and to none for a plain value. -/
  reference : p.type.base.shape? = p.kind.shape?
  /-- The type of an inline fragment is the shape itself and no list. -/
  inline : ∀ shape, p.kind = .inlineFragment shape → p.type.base = .shape shape
  /-- Exactly the optional properties have a type that may be absent. -/
  optional : p.optional = true ↔ ∃ policy, p.type.wrapping = .nullable policy

/-- A condition on all declarations of a field asks the resolver for a type that may be
absent, so the type alone decides the option. -/
theorem MergedField.fits_property {m : MergedField} {type : ResolvedType} {kind : PropertyKind}
    {unmarked : Bool} (notInline : ∀ shape, kind ≠ .inlineFragment shape)
    (leads : type.base.shape? = kind.shape?)
    (absent : type.isOptional = m.demand.optional.getD unmarked) :
    (m.property type kind).Fits := by
  refine ⟨leads, ?_, ?_⟩
  · intro shape isInline
    exact absurd isInline (notInline shape)
  · have decided : (type.isOptional || m.conditional) = type.isOptional := by
      rw [absent, demand]
      cases m.conditional with
      | true => rfl
      | false => exact Bool.or_false _
    show (type.isOptional || m.conditional) = true ↔ _
    rw [decided]
    exact Wrapped.isOptional_iff

theorem MergedField.Yields.fits {c : Context} {Nested : MergedField → Shape → Prop}
    {m : MergedField} {member : Member} (yields : m.Yields c Nested member) :
    member.property.Fits := by
  cases yields with
  | value _ resolved =>
    obtain ⟨t, _, resolved⟩ := Build.bind_eq_ok.mp resolved
    obtain ⟨leads, absent⟩ := Context.resolveExpr_eq_ok resolved
    exact MergedField.fits_property (by simp) leads absent
  | object _ _ _ _ resolved =>
    obtain ⟨leads, absent⟩ := Context.resolveExpr_eq_ok resolved
    exact MergedField.fits_property (by simp) leads absent

theorem InlineYields.fits {c : Context} {Nested : InlineFragment → Shape → Prop}
    {i : InlineFragment} {member : Member} (yields : InlineYields c Nested i member) :
    member.property.Fits := by
  cases yields with
  | nested =>
    refine ⟨rfl, ?_, ?_⟩
    · intro shape kind
      cases kind
      rfl
    · exact iff_of_true rfl ⟨_, rfl⟩

/-! ## Shapes -/

/-- The parts of a shape fit each other. -/
structure Shape.Closed (s : Settings) (shape : Shape) : Prop where
  /-- The nested shapes are those that the properties name, in order. -/
  nested : shape.nested.map (·.name) = shape.properties.filterMap (·.kind.shape?)
  /-- Every property has a type that fits it. -/
  properties : ∀ p ∈ shape.properties, p.Fits
  /-- There is an accessor for every property, if the settings ask for accessors. -/
  accessors : shape.accessors =
    if s.accessors then shape.properties.map fun p => ⟨p.name, p.type⟩ else []

namespace Context

variable {c : Context} {chain : List String} {name : String} {sel : Selection}

theorem Assembly.closed {P : Context → String → Selection → Shape → Prop} {level : Level}
    {fields inlines : List Member}
    (assembly : c.Assembly chain (BuiltWith chain P) name sel level fields inlines) :
    (Shape.ofMembers c.settings name (fields ++ inlines)).Closed c.settings := by
  refine ⟨?_, ?_, rfl⟩
  · rw [assembly.names_nested]
    show _ = ((fields ++ inlines).map (·.property)).filterMap (·.kind.shape?)
    rw [List.filterMap_map]
    rfl
  · intro p membership
    obtain ⟨member, inMembers, rfl⟩ := List.mem_map.mp membership
    rcases assembly.member_cases inMembers with ⟨m, _, _, yields⟩ | ⟨i, _, _, yields⟩
    · exact yields.fits
    · exact yields.fits

/-- Properties, nested shapes and accessors fit each other everywhere in a built tree of
shapes. -/
theorem closed_shape {root : Shape} (built : c.shape chain name sel = .ok root) :
    root.Everywhere (Shape.Closed c.settings) := by
  refine shape_everywhere (P := Shape.Closed) (fun assembly => assembly.closed) ?_ built
  intro s shape condition possible closed
  exact ⟨closed.nested, closed.properties, closed.accessors⟩

end Context

theorem Sample.closed_shape_selection :
    ∃ root, context.shape [] "Data" selection = .ok root ∧
      root.Everywhere (Shape.Closed context.settings) := by
  obtain ⟨root, built⟩ := exists_shape_selection
  exact ⟨root, built, Context.closed_shape built⟩

end QueryModel
