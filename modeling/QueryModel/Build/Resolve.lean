import QueryModel.Build.Error
import QueryModel.Model.TypeRef
import QueryModel.Settings
import QueryModel.TypeExpr

/-!
# Resolving type expressions

A type expression resolves layer by layer.  A list resolves to a list of its
resolved element.  A name resolves to a built-in type, else to the target of a
scalar, else to a declared enum or input object.  The name may be replaced by a
generated shape.

Null is decided at each layer by the mark of that layer.  Only the outermost
layer knows the policy, and there the caller may force it.  Elements of lists are
never primitive and their null is only annotated.
-/

namespace QueryModel

/-- The built-in types that are primitive where null is excluded. -/
def primitiveScalars : List (String × Primitive) :=
  [("Int", .int), ("Boolean", .boolean), ("Float", .double), ("AWSTimestamp", .long)]

/-- What a caller may ask of a resolved type beyond its expression. -/
structure Demand where
  /-- Whether the type may be absent, if the expression does not decide it. -/
  optional : Option Bool := none
  /-- The policy, if it is not that of the settings. -/
  policy : Option NullPolicy := none
  /-- Whether the type is marked as deprecated. -/
  deprecated : Bool := false
  /-- The generated shape that stands for the name. -/
  shape : Option String := none
deriving DecidableEq, Repr

namespace Context

/-- The error that a type does not resolve here. -/
def unresolvable (c : Context) (typeName : String) : BuildError :=
  .unresolvableType typeName c.pathText

/-- The type of a type expression, as far as it can be read. -/
def parseType (c : Context) (typeName : String) : Build TypeExpr :=
  match TypeExpr.parse typeName with
  | .ok t => .ok t
  | .error _ => .error (c.unresolvable typeName)

/-- The reference of a name.  `optional` says whether the type may be absent. -/
def lookup (c : Context) (name : String) (optional : Bool) : Build TypeRef :=
  if name = "String" then .ok .text
  else
    match primitiveScalars.lookup name with
    | some p => .ok (if optional then .boxed p else .primitive p)
    | none =>
      match c.settings.scalars.get? name with
      | some target => .ok (.ofTarget target)
      | none =>
        match c.settings.declaration? name with
        | some (.enum ..) => .ok (.named ⟨c.settings.typesPackage, name⟩)
        | some (.inputObject ..) => .ok (.named ⟨c.settings.typesPackage, name⟩)
        | _ => .error (c.unresolvable name)

/-- What a name can resolve to. -/
theorem lookup_cases {c : Context} {name : String} {optional : Bool} {ref : TypeRef}
    (found : c.lookup name optional = .ok ref) :
    (name = "String" ∧ ref = .text) ∨
    (∃ p, (name, p) ∈ primitiveScalars ∧ ref = if optional then .boxed p else .primitive p) ∨
    (primitiveScalars.lookup name = none ∧
      ((∃ target, c.settings.scalars.get? name = some target ∧ ref = .ofTarget target) ∨
        ∃ d, c.settings.declaration? name = some d ∧ d.isGenerated = true ∧
          ref = .named ⟨c.settings.typesPackage, name⟩)) := by
  rw [lookup] at found
  split at found
  next isString =>
    cases found
    exact .inl ⟨isString, rfl⟩
  next =>
    split at found
    next p builtIn =>
      cases found
      exact .inr (.inl ⟨p, mem_of_lookup_eq_some builtIn, rfl⟩)
    next other =>
      refine .inr (.inr ⟨other, ?_⟩)
      split at found
      next target mapped =>
        cases found
        exact .inl ⟨target, mapped, rfl⟩
      next =>
        split at found
        next declared =>
          cases found
          exact .inr ⟨_, declared, rfl, rfl⟩
        next declared =>
          cases found
          exact .inr ⟨_, declared, rfl, rfl⟩
        next => cases found

/-- The reference of a name, which a shape may replace. -/
def nameRef (c : Context) (shape : Option String) (name : String) (optional : Bool) :
    Build TypeRef :=
  match shape with
  | some shape => .ok (.shape shape)
  | none => c.lookup name optional

/-- The type of a list element. -/
def elementType (base : TypeRef) (optional : Bool) : ResolvedType :=
  { base := base.box
    wrapping := if optional then .nullable .annotated else .nonNull
    deprecated := false }

/-- Wraps a reference at the outermost layer. -/
def wrap (c : Context) (base : TypeRef) (optional : Bool) (policy : Option NullPolicy)
    (deprecated : Bool) : ResolvedType :=
  { base
    wrapping :=
      if base.isPrimitive then .none
      else if optional then .nullable (policy.getD c.settings.policy)
      else .nonNull
    deprecated }

/-- Resolves an element of a list. -/
def resolveElement (c : Context) (shape : Option String) : TypeExpr → Build ResolvedType
  | .named name => return elementType (← c.nameRef shape name true) true
  | .list inner => return elementType (.list (← c.resolveElement shape inner)) true
  | .nonNull (.named name) => return elementType (← c.nameRef shape name false) false
  | .nonNull (.list inner) => return elementType (.list (← c.resolveElement shape inner)) false
  | .nonNull (.nonNull inner) => .error (c.unresolvable (TypeExpr.nonNull (.nonNull inner)).render)

/-- The reference of a type below its outer mark. -/
def baseRef (c : Context) (shape : Option String) (optional : Bool) : TypeExpr → Build TypeRef
  | .named name => c.nameRef shape name optional
  | .list inner => return .list (← c.resolveElement shape inner)
  | .nonNull inner => .error (c.unresolvable (TypeExpr.nonNull (.nonNull inner)).render)

/-- Resolves a type expression. -/
def resolveExpr (c : Context) (d : Demand) (t : TypeExpr) : Build ResolvedType := do
  let (marked, inner) := match t with
    | .nonNull inner => (true, inner)
    | other => (false, other)
  let optional := d.optional.getD !marked
  return c.wrap (← c.baseRef d.shape optional inner) optional d.policy d.deprecated

/-- Resolves the text of a type expression. -/
def resolve (c : Context) (d : Demand) (typeName : String) : Build ResolvedType := do
  c.resolveExpr d (← c.parseType typeName)

/-- A generated shape that may be absent. -/
def optionalShape (c : Context) (shape : String) : ResolvedType :=
  c.wrap (.shape shape) true none false

end Context

end QueryModel
