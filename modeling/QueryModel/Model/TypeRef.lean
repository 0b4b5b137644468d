import QueryModel.Config.Basic
import QueryModel.Text.Pieces

/-!
# Types of the target language

A resolved type is a reference with a wrapping.  The reference is a primitive, a
boxed primitive, a text, a class, a generated shape, or a list of resolved types.
The wrapping says how null is kept out or let in.
-/

namespace QueryModel

/-- The types that cannot hold null. -/
inductive Primitive
  /-- A whole number of 32 bits. -/
  | int
  /-- A Boolean. -/
  | boolean
  /-- A floating-point number of 64 bits. -/
  | double
  /-- A whole number of 64 bits. -/
  | long
deriving DecidableEq, Repr

/-- The word for a primitive. -/
def Primitive.word : Primitive → String
  | .int => "int"
  | .boolean => "boolean"
  | .double => "double"
  | .long => "long"

/-- The word for the class of a boxed primitive. -/
def Primitive.boxedWord : Primitive → String
  | .int => "Integer"
  | .boolean => "Boolean"
  | .double => "Double"
  | .long => "Long"

/-! ## Classes -/

/-- A class in a package. -/
structure ClassName where
  /-- The package. -/
  package : String
  /-- The name in the package. -/
  name : String
deriving DecidableEq, Repr

namespace ClassName

/-- The class of a qualified name, which is cut at its last dot. -/
def parse (qualified : String) : ClassName :=
  match Text.splitLast? '.' qualified.toList with
  | some (package, name) => ⟨String.ofList package, String.ofList name⟩
  | none => ⟨"", qualified⟩

/-- A class as text. -/
def render (c : ClassName) : String :=
  if c.package.isEmpty then c.name else c.package ++ "." ++ c.name

end ClassName

/-! ## References -/

/-- How null is kept out or let in. -/
inductive Wrapping
  /-- Primitives need none. -/
  | none
  /-- A reference without null. -/
  | nonNull
  /-- A reference that may be absent. -/
  | nullable (policy : NullPolicy)
deriving DecidableEq, Repr

/-- A reference of type `R` with its wrapping. -/
structure Wrapped (R : Type) where
  /-- The reference. -/
  base : R
  /-- Its wrapping. -/
  wrapping : Wrapping
  /-- Whether it is marked as deprecated. -/
  deprecated : Bool
deriving DecidableEq, Repr

/-- A reference to a type. -/
inductive TypeRef
  /-- A primitive. -/
  | primitive (p : Primitive)
  /-- A boxed primitive. -/
  | boxed (p : Primitive)
  /-- A text. -/
  | text
  /-- A class. -/
  | named (c : ClassName)
  /-- A generated shape, by its name. -/
  | shape (name : String)
  /-- A list. -/
  | list (element : Wrapped TypeRef)
deriving Repr

/-- A type of the target language. -/
abbrev ResolvedType := Wrapped TypeRef

namespace TypeRef

/-- Whether a reference is a primitive. -/
def isPrimitive : TypeRef → Bool
  | .primitive _ => true
  | _ => false

/-- The reference with a primitive boxed. -/
def box : TypeRef → TypeRef
  | .primitive p => .boxed p
  | other => other

/-- The names of targets that are not classes. -/
def wellKnownTargets : List (String × TypeRef) :=
  [("String", .text), ("Boolean", .boxed .boolean), ("Integer", .boxed .int),
   ("Int", .boxed .int), ("Long", .boxed .long), ("Double", .boxed .double),
   ("Float", .boxed .double)]

/-- The target without the package of the language, if it stands in front. -/
def simpleTarget (target : String) : String :=
  match "java.lang.".toList.isPrefixOf? target.toList with
  | some rest => String.ofList rest
  | none => target

/-- The reference of a target of a scalar. -/
def ofTarget (target : String) : TypeRef :=
  match wellKnownTargets.lookup (simpleTarget target) with
  | some known => known
  | none => .named (ClassName.parse target)

/-- What holds of the well-known targets and of classes holds of all targets. -/
theorem ofTarget_induction {P : TypeRef → Prop} (known : ∀ entry ∈ wellKnownTargets, P entry.2)
    (named : ∀ c, P (.named c)) (target : String) : P (ofTarget target) := by
  rw [ofTarget]
  split
  next found => exact known _ (mem_of_lookup_eq_some found)
  next => exact named _

end TypeRef

/-! ## Text -/

/-- A reference with its wrapping as text. -/
def Wrapping.decorate (w : Wrapping) (deprecated : Bool) (base : String) : String :=
  let wrapped := match w with
    | .none => base
    | .nonNull => s!"@Nonnull {base}"
    | .nullable .annotated => s!"@Nullable {base}"
    | .nullable .apolloOptional => s!"Optional<{base}>"
    | .nullable .guavaOptional => s!"com.google.common.base.Optional<{base}>"
    | .nullable .javaOptional => s!"java.util.Optional<{base}>"
    | .nullable .inputType => s!"Input<{base}>"
  if deprecated then "@Deprecated " ++ wrapped else wrapped

/-- A reference as text. -/
def TypeRef.render : TypeRef → String
  | .primitive p => p.word
  | .boxed p => p.boxedWord
  | .text => "String"
  | .named c => c.render
  | .shape name => name
  | .list { base, wrapping, deprecated } => s!"List<{wrapping.decorate deprecated base.render}>"

namespace Wrapped

/-- A type as text. -/
def render (t : ResolvedType) : String := t.wrapping.decorate t.deprecated t.base.render

/-- Whether a type is a primitive. -/
def isPrimitive (t : ResolvedType) : Bool := t.base.isPrimitive

/-- Whether a type may be absent. -/
def isOptional {R : Type} (t : Wrapped R) : Bool :=
  match t.wrapping with
  | .nullable _ => true
  | _ => false

/-- The type of a plain value: whatever may be absent is only annotated. -/
def unwrapOptional {R : Type} (t : Wrapped R) : Wrapped R :=
  match t.wrapping with
  | .nullable _ => { t with wrapping := .nullable .annotated }
  | _ => t

end Wrapped

end QueryModel
