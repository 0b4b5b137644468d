import QueryModel.Naming.Package
import QueryModel.Result

/-!
# Types that cannot be built

A fragment, a declared type or an operation fails to build for one of five
reasons.  An error knows where in the type it arose, if that is known.  Its
message leaves the place out.
-/

namespace QueryModel

/-- Why a type cannot be built. -/
inductive BuildError
  /-- An operation is of no known kind. -/
  | unknownOperation (operation kind : String)
  /-- A type expression does not resolve. -/
  | unresolvableType (typeName path : String)
  /-- A generated name is taken. -/
  | nameTaken (name path : String)
  /-- The package does not follow from the path of a file. -/
  | packagePath (file : String)
  /-- A fragment is not there. -/
  | unknownFragment (name path : String)
deriving DecidableEq, Repr

namespace BuildError

/-- The error in words. -/
def message : BuildError → String
  | .unknownOperation operation kind =>
    s!"unknown operation type '{kind}' for operation '{operation}'"
  | .unresolvableType typeName _ => s!"cannot resolve type '{typeName}'"
  | .nameTaken name _ => s!"generated name '{name}' is already taken"
  | .packagePath file => packagePathMessage file
  | .unknownFragment name _ => s!"unknown fragment '{name}'"

/-- The code of the error. -/
def code : BuildError → String
  | .unknownOperation .. => "unknown_operation_type"
  | .unresolvableType .. => "unresolvable_type"
  | .nameTaken .. => "naming_collision"
  | .packagePath .. => "package_path_malformed"
  | .unknownFragment .. => "unknown_fragment"

/-- Where the error arose. -/
def path? : BuildError → Option String
  | .unknownOperation .. => none
  | .unresolvableType _ path => some path
  | .nameTaken _ path => some path
  | .packagePath _ => none
  | .unknownFragment _ path => some path

end BuildError

/-- A result that may fail to build. -/
abbrev Build := Except BuildError

theorem Build.isOk_iff {α : Type} {result : Build α} :
    result.isOk = true ↔ ∃ a, result = .ok a := by
  cases result with
  | error e => simp [Except.isOk, Except.toBool]
  | ok a => simp [Except.isOk, Except.toBool]

/-- A result that uses another one is there when both are. -/
theorem Build.bind_eq_ok {α β : Type} {first : Build α} {next : α → Build β} {b : β} :
    first >>= next = .ok b ↔ ∃ a, first = .ok a ∧ next a = .ok b := Result.bind_eq_ok

end QueryModel
