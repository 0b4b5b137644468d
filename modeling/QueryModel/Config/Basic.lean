import QueryModel.Dict

/-!
# Configuration

What a user may set: how optional values are represented, which members shapes
get, how operations are named, the package of everything generated, and the
targets of scalars.
-/

namespace QueryModel

/-- How an optional value is represented. -/
inductive NullPolicy
  /-- A reference annotated as nullable. -/
  | annotated
  /-- The optional box of the client library. -/
  | apolloOptional
  /-- The optional box of a third party. -/
  | guavaOptional
  /-- The optional of the platform. -/
  | javaOptional
  /-- A box that tells null from absence, for input objects. -/
  | inputType
deriving DecidableEq, Repr, Inhabited

namespace NullPolicy

/-- All policies, in their order. -/
def all : List NullPolicy :=
  [.annotated, .apolloOptional, .guavaOptional, .javaOptional, .inputType]

/-- The word for a policy. -/
def word : NullPolicy → String
  | .annotated => "annotated"
  | .apolloOptional => "apolloOptional"
  | .guavaOptional => "guavaOptional"
  | .javaOptional => "javaOptional"
  | .inputType => "inputType"

/-- The policy of a word. -/
def ofWord? (s : String) : Option NullPolicy := all.find? (·.word == s)

end NullPolicy

/-- A configuration. -/
structure Config where
  /-- How optional values are represented. -/
  policy : NullPolicy := .annotated
  /-- Whether properties get accessors. -/
  accessors : Bool := true
  /-- Whether shapes get builders. -/
  builders : Bool := false
  /-- Whether operations are named after themselves, not after their files. -/
  semanticNames : Bool := true
  /-- The package of everything generated, if it is not derived. -/
  outputPackage : Option String := none
  /-- The targets of scalars. -/
  customTypes : Dict String := .empty

instance : Inhabited Config := ⟨{}⟩

end QueryModel
