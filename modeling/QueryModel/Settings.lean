import QueryModel.Config.Basic
import QueryModel.Document.Basic

/-!
# Settings of a run

The settings gather what every part of a run looks up: the targets of scalars,
the packages, the options of the configuration, and the fragments and declared
types by name.  Of repeated names the last one counts.

A context adds where the run is: the names that enclosing types have taken, and
the path from the type down to the current member.  Contexts are values, so a
name taken in one branch is not seen in another.
-/

namespace QueryModel

/-! ## Scalars -/

/-- The scalars of the service with their targets. -/
def serviceScalars : List (String × String) :=
  [("AWSDate", "String"), ("AWSTime", "String"), ("AWSDateTime", "String"),
   ("AWSTimestamp", "Long"), ("AWSEmail", "String"), ("AWSJSON", "String"),
   ("AWSURL", "String"), ("AWSPhone", "String"), ("AWSIPAddress", "String")]

/-- The scalars that always have a target. -/
def standardScalars : List (String × String) := ("ID", "String") :: serviceScalars

/-- The target of a declared scalar that nobody maps. -/
def unmappedTarget : String := "java.lang.Object"

/-- The targets of all scalars of a run: the declared ones in order, then the
standard ones.  What the user maps wins over every default. -/
def scalarTargets (user : Dict String) (declarations : List Declaration) : Dict String :=
  let target (name default : String) : String × String := (name, (user.get? name).getD default)
  let declared := (declarations.filter (·.isScalar)).map fun d => target d.name unmappedTarget
  let standard := standardScalars.map fun s => target s.1 s.2
  (Dict.ofList declared).insertAll standard

/-! ## Settings -/

/-- What every part of a run looks up. -/
structure Settings where
  /-- The targets of scalars. -/
  scalars : Dict String
  /-- How optional values are represented. -/
  policy : NullPolicy
  /-- The package of declared types. -/
  typesPackage : String
  /-- The package of fragments. -/
  fragmentsPackage : String
  /-- The package of everything generated, if the configuration names one. -/
  outputPackage : Option String
  /-- Whether properties get accessors. -/
  accessors : Bool
  /-- Whether shapes get builders. -/
  builders : Bool
  /-- Whether operations are named after themselves. -/
  semanticNames : Bool
  /-- The declared types by name. -/
  declarations : Dict Declaration
  /-- The fragments by name. -/
  fragments : Dict Fragment

/-- A package below another.  The empty package has no dot. -/
def subPackage (base name : String) : String :=
  if base.isEmpty then name else base ++ "." ++ name

namespace Settings

/-- The settings of a document.  The base package is used when the configuration
names no package. -/
def ofConfig (c : Config) (d : Document) (basePackage : String) : Settings :=
  let base := c.outputPackage.getD basePackage
  { scalars := scalarTargets c.customTypes d.declarations
    policy := c.policy
    typesPackage := subPackage base "type"
    fragmentsPackage := subPackage base "fragment"
    outputPackage := c.outputPackage
    accessors := c.accessors
    builders := c.builders
    semanticNames := c.semanticNames
    declarations := .ofList (d.declarations.map fun t => (t.name, t))
    fragments := .ofList (d.fragments.map fun f => (f.fragmentName, f)) }

/-- A fragment by its name. -/
def fragment? (s : Settings) (name : String) : Option Fragment := s.fragments.get? name

/-- A declared type by its name. -/
def declaration? (s : Settings) (name : String) : Option Declaration := s.declarations.get? name

end Settings

/-! ## Contexts -/

/-- Where a run is. -/
structure Context where
  /-- The settings of the run. -/
  settings : Settings
  /-- The names that enclosing types have taken, outermost first. -/
  reserved : List String := []
  /-- The path to the current member. -/
  path : List String := []

namespace Context

/-- The context in which a name is taken. -/
def reserve (c : Context) (name : String) : Context := { c with reserved := c.reserved ++ [name] }

/-- The context one step down the path. -/
def push (c : Context) (step : String) : Context := { c with path := c.path ++ [step] }

/-- Whether a name is taken. -/
def isReserved (c : Context) (name : String) : Bool := c.reserved.contains name

/-- The path as text. -/
def pathText (c : Context) : String := Text.dotted c.path

end Context

end QueryModel
