import QueryModel.Config.Basic
import QueryModel.Naming.Identifier
import QueryModel.Text.Span

/-!
# Checking a configuration

The package has to be a qualified name, every scalar a GraphQL name, and every
target a qualified name.  A violation says where in the text it stands, if the
text shows it in the usual way.

The checks come in a fixed order: first the package, then the scalars in the
order of the text, the name of each before its target.  `Config.violation?` is
the first violation.
-/

namespace QueryModel

open Text

/-- What is wrong with a configuration. -/
inductive Violation
  /-- A scalar has no valid name. -/
  | scalarName (name : String) (fault : NameFault) (span : Option Span)
  /-- A scalar has an empty target. -/
  | emptyTarget (path : String) (span : Option Span)
  /-- A scalar has a target that is no qualified name. -/
  | badTarget (path target : String) (span : Option Span)
  /-- The package is no qualified name. -/
  | badPackage (path key package : String) (span : Option Span)
deriving DecidableEq, Repr

namespace Violation

/-- The violation in words. -/
def message : Violation → String
  | .scalarName name _ _ => s!"invalid custom scalar name '{name}'"
  | .emptyTarget path _ => s!"'{path}' must name a target type"
  | .badTarget path target _ => s!"'{path}' target '{target}' is not a dotted type name"
  | .badPackage path key package _ =>
    s!"'{path}.{key}' must be a dotted package name, got '{package}'"

/-- Where the violation stands in the text. -/
def span : Violation → Option Span
  | .scalarName _ _ span => span
  | .emptyTarget _ span => span
  | .badTarget _ _ span => span
  | .badPackage _ _ _ span => span

end Violation

/-- The violation in the name of a scalar. -/
def scalarViolation? (src name : String) : Option Violation :=
  (nameFault? name.toList).map fun fault => .scalarName name fault (keySpan src name)

/-- The violation in the target of a scalar.  `path` leads to it. -/
def targetViolation? (src : String) (path : List String) (key target : String) :
    Option Violation :=
  if isQualifiedName target then none
  else if target.isEmpty then some (.emptyTarget (dotted path) (valueSpan src key target))
  else some (.badTarget (dotted path) target (valueSpan src key target))

/-- The violation in a package.  `path` leads to the table it stands in. -/
def packageViolation? (src : String) (path : List String) (key package : String) :
    Option Violation :=
  if isQualifiedName package then none
  else some (.badPackage (dotted path) key package (valueSpan src key package))

/-- The first violation among scalars and their targets. -/
def customTypesViolation? (src : String) : List (String × String) → Option Violation
  | [] => none
  | (name, target) :: rest =>
    (scalarViolation? src name).or <|
      (targetViolation? src ["custom_types", name] name target).or <|
        customTypesViolation? src rest

/-- The first violation of a configuration, with positions in its text. -/
def Config.violation? (c : Config) (src : String) : Option Violation :=
  (c.outputPackage.bind (packageViolation? src ["codegen"] "output_package_name")).or <|
    customTypesViolation? src c.customTypes.entries

end QueryModel
