import Mathlib.Data.List.Forall2
import QueryModel.Build.Resolve

/-!
# Resolved types keep the layers of their expressions

A type expression has a layer for every list and one for the name at the bottom, and so
has the type it resolves to.  The layers below the outermost are the elements of lists.
`TypeExpr.elements` and `TypeRef.elements` list them from the outside in.

What a caller demands counts at the outermost layer only.  An element follows its own
mark: it is never primitive, its null is annotated, and it is not marked as deprecated.
`Mirrors` says this for all layers, and `mirrors_resolve` holds for every demand.
-/

namespace QueryModel

/-! ## Layers -/

/-- The types of the elements of lists, from the outside in. -/
def TypeExpr.elements : TypeExpr → List TypeExpr
  | .named _ => []
  | .list inner => inner :: inner.elements
  | .nonNull inner => inner.elements

namespace TypeRef

/-- The elements of lists, from the outside in. -/
def elements : TypeRef → List ResolvedType
  | .list { base, wrapping, deprecated } => ⟨base, wrapping, deprecated⟩ :: base.elements
  | .primitive _ => []
  | .boxed _ => []
  | .text => []
  | .named _ => []
  | .shape _ => []

@[simp]
theorem elements_list (element : ResolvedType) :
    (list element).elements = element :: element.base.elements := by
  rw [elements]

@[simp]
theorem elements_box (r : TypeRef) : r.box.elements = r.elements := by
  cases r <;> rfl

theorem isPrimitive_box (r : TypeRef) : r.box.isPrimitive = false := by
  cases r <;> rfl

theorem ofTarget_plain (target : String) :
    (ofTarget target).isPrimitive = false ∧ (ofTarget target).elements = [] :=
  ofTarget_induction (P := fun r => r.isPrimitive = false ∧ r.elements = []) (by decide)
    (fun _ => ⟨rfl, rfl⟩) target

end TypeRef

/-- An element of a list follows its own mark. -/
structure MirrorsElement (t : TypeExpr) (r : ResolvedType) : Prop where
  boxed : r.base.isPrimitive = false
  wrapping : r.wrapping = if t.isNonNull then .nonNull else .nullable .annotated
  deprecated : r.deprecated = false

/-- Whether a type may be absent: as demanded, else when its mark is missing. -/
def Demand.allowsAbsence (d : Demand) (t : TypeExpr) : Bool := d.optional.getD !t.isNonNull

/-- A resolved type has the layers of its expression, and its outermost layer follows the
demand. -/
structure Mirrors (s : Settings) (d : Demand) (t : TypeExpr) (r : ResolvedType) : Prop where
  elements : List.Forall₂ MirrorsElement t.elements r.base.elements
  primitive : r.base.isPrimitive = true ↔
    t.isList = false ∧ d.allowsAbsence t = false ∧ d.shape = none ∧
      t.baseName ∈ ["Int", "Boolean", "Float", "AWSTimestamp"]
  unwrapped : r.wrapping = .none ↔ r.base.isPrimitive = true
  wrapping : r.base.isPrimitive = false →
    r.wrapping =
      if d.allowsAbsence t then .nullable (d.policy.getD s.policy) else .nonNull
  deprecated : r.deprecated = d.deprecated

/-! ## Resolving -/

namespace Context

variable {c : Context} {shape : Option String} {optional : Bool}

theorem lookup_layers {name : String} {ref : TypeRef} (found : c.lookup name optional = .ok ref) :
    ref.elements = [] ∧
      (ref.isPrimitive = true ↔ optional = false ∧ name ∈ primitiveScalars.map Prod.fst) := by
  have absent : primitiveScalars.lookup name = none → name ∉ primitiveScalars.map Prod.fst := by
    intro other builtIn
    obtain ⟨entry, membership, rfl⟩ := List.mem_map.mp builtIn
    have different := List.lookup_eq_none_iff.mp other entry membership
    simp at different
  rcases lookup_cases found with
    ⟨rfl, rfl⟩ | ⟨p, builtIn, rfl⟩ | ⟨other, ⟨target, _, rfl⟩ | ⟨_, _, _, rfl⟩⟩
  · exact ⟨rfl, by simp [TypeRef.isPrimitive, primitiveScalars]⟩
  · have named : name ∈ primitiveScalars.map Prod.fst := List.mem_map.mpr ⟨_, builtIn, rfl⟩
    cases optional with
    | true => exact ⟨rfl, by simp [TypeRef.isPrimitive]⟩
    | false => exact ⟨rfl, by simp [TypeRef.isPrimitive, named]⟩
  · obtain ⟨boxed, flat⟩ := TypeRef.ofTarget_plain target
    exact ⟨flat, by simp [boxed, absent other]⟩
  · exact ⟨rfl, by simp [TypeRef.isPrimitive, absent other]⟩

theorem nameRef_layers {name : String} {ref : TypeRef}
    (found : c.nameRef shape name optional = .ok ref) :
    ref.elements = [] ∧
      (ref.isPrimitive = true ↔
        optional = false ∧ shape = none ∧ name ∈ primitiveScalars.map Prod.fst) := by
  cases shape with
  | none =>
    obtain ⟨flat, primitive⟩ := lookup_layers found
    exact ⟨flat, by rw [primitive]; simp⟩
  | some shape =>
    cases found
    exact ⟨rfl, by simp [TypeRef.isPrimitive]⟩

theorem mirrorsElement_elementType (t : TypeExpr) {base : TypeRef}
    (below : List.Forall₂ MirrorsElement t.elements base.elements) :
    MirrorsElement t (elementType base !t.isNonNull) ∧
      List.Forall₂ MirrorsElement t.elements (elementType base !t.isNonNull).base.elements := by
  refine ⟨⟨base.isPrimitive_box, ?_, rfl⟩, ?_⟩
  · cases t <;> rfl
  · rw [elementType, TypeRef.elements_box]
    exact below

/-- By induction on the expression, with the mark of an element taken together with what it
marks. -/
theorem resolveElement_layers {t : TypeExpr} {r : ResolvedType}
    (resolved : c.resolveElement shape t = .ok r) :
    MirrorsElement t r ∧ List.Forall₂ MirrorsElement t.elements r.base.elements := by
  fun_induction resolveElement c shape t generalizing r with
  | case1 name =>
    obtain ⟨ref, found, resolved⟩ := Build.bind_eq_ok.mp resolved
    cases resolved
    refine mirrorsElement_elementType (.named name) ?_
    rw [(nameRef_layers found).1]
    exact .nil
  | case2 inner ih =>
    obtain ⟨element, found, resolved⟩ := Build.bind_eq_ok.mp resolved
    cases resolved
    refine mirrorsElement_elementType (.list inner) ?_
    rw [TypeRef.elements_list]
    exact .cons (ih found).1 (ih found).2
  | case3 name =>
    obtain ⟨ref, found, resolved⟩ := Build.bind_eq_ok.mp resolved
    cases resolved
    refine mirrorsElement_elementType (.nonNull (.named name)) ?_
    rw [(nameRef_layers found).1]
    exact .nil
  | case4 inner ih =>
    obtain ⟨element, found, resolved⟩ := Build.bind_eq_ok.mp resolved
    cases resolved
    refine mirrorsElement_elementType (.nonNull (.list inner)) ?_
    rw [TypeRef.elements_list]
    exact .cons (ih found).1 (ih found).2
  | case5 => cases resolved

theorem baseRef_layers {t : TypeExpr} {ref : TypeRef}
    (found : c.baseRef shape optional t = .ok ref) :
    List.Forall₂ MirrorsElement t.elements ref.elements ∧
      (ref.isPrimitive = true ↔ t.isList = false ∧ optional = false ∧ shape = none ∧
        t.baseName ∈ primitiveScalars.map Prod.fst) := by
  cases t with
  | named name =>
    obtain ⟨flat, primitive⟩ := nameRef_layers found
    rw [flat, primitive]
    exact ⟨.nil, by simp [TypeExpr.isList, TypeExpr.baseName]⟩
  | list inner =>
    obtain ⟨element, resolved, found⟩ := Build.bind_eq_ok.mp found
    cases found
    obtain ⟨mirrors, below⟩ := resolveElement_layers resolved
    rw [TypeRef.elements_list]
    exact ⟨.cons mirrors below, by simp [TypeRef.isPrimitive, TypeExpr.isList]⟩
  | nonNull inner => cases found

theorem mirrors_wrap {d : Demand} {t : TypeExpr} {base : TypeRef}
    (elements : List.Forall₂ MirrorsElement t.elements base.elements)
    (primitive : base.isPrimitive = true ↔
      t.isList = false ∧ d.allowsAbsence t = false ∧ d.shape = none ∧
        t.baseName ∈ primitiveScalars.map Prod.fst) :
    Mirrors c.settings d t (c.wrap base (d.allowsAbsence t) d.policy d.deprecated) := by
  refine ⟨elements, primitive, ?_, ?_, rfl⟩
  · rw [wrap]
    cases base.isPrimitive <;> cases d.allowsAbsence t <;> simp
  · intro boxed
    rw [wrap, show base.isPrimitive = false from boxed]
    rfl

/-- The mark of the outermost layer is taken off before the rest is resolved. -/
theorem mirrors_resolveExpr {d : Demand} {t : TypeExpr} {r : ResolvedType}
    (resolved : c.resolveExpr d t = .ok r) : Mirrors c.settings d t r := by
  obtain ⟨base, found, resolved⟩ := Build.bind_eq_ok.mp resolved
  cases resolved
  obtain ⟨elements, primitive⟩ := baseRef_layers found
  cases t with
  | named name => exact mirrors_wrap elements primitive
  | list inner => exact mirrors_wrap elements primitive
  | nonNull inner => exact mirrors_wrap elements primitive

/-- A type that resolves keeps the layers of its expression, whatever the caller demands. -/
theorem mirrors_resolve {d : Demand} {typeName : String} {t : TypeExpr} {r : ResolvedType}
    (parsed : TypeExpr.parse typeName = .ok t) (resolved : c.resolve d typeName = .ok r) :
    Mirrors c.settings d t r := by
  rw [resolve, parseType, parsed] at resolved
  exact mirrors_resolveExpr resolved

end Context

namespace Sample

def optionals : Context := { settings := .ofConfig { policy := .javaOptional } {} "com.example" }

/-- What a deprecated field of an input object asks for. -/
def inputDemand : Demand := { policy := some .inputType, deprecated := true }

def grid : TypeExpr := .list (.list (.nonNull (.named "Int")))

def resolvedGrid : ResolvedType :=
  ⟨.list ⟨.list ⟨.boxed .int, .nonNull, false⟩, .nullable .annotated, false⟩,
    .nullable .inputType, true⟩

theorem mirrors_resolve_grid :
    TypeExpr.parse "[[Int!]]" = .ok grid ∧
      optionals.resolve inputDemand "[[Int!]]" = .ok resolvedGrid ∧
      Mirrors optionals.settings inputDemand grid resolvedGrid := by
  have parsed : TypeExpr.parse "[[Int!]]" = .ok grid := by decide +kernel
  have resolved : optionals.resolve inputDemand "[[Int!]]" = .ok resolvedGrid := by
    rw [Context.resolve, Context.parseType, parsed]
    rfl
  exact ⟨parsed, resolved, Context.mirrors_resolve parsed resolved⟩

end Sample

end QueryModel
