import QueryModel.Compile.Diagnostic
import QueryModel.Compile.Item

/-!
# Compiling documents

Every item of a document has an outcome: a generated type, diagnostics, or
neither.  An item that fails leaves the others alone.

Afterwards no two outcomes generate the same class.  The first one keeps it, and
each later one fails.
-/

namespace QueryModel

/-- What came of an item. -/
structure Outcome where
  /-- The kind of the item. -/
  kind : ItemKind
  /-- The name of the item. -/
  name : String
  /-- The generated type, unless the item failed or generates nothing. -/
  generated : Option GeneratedType
  /-- What went wrong. -/
  diagnostics : List Diagnostic

namespace Outcome

/-- The outcome of building an item. -/
def ofItem (c : Context) (i : Item) : Outcome :=
  match i.build c with
  | .ok generated => ⟨i.kind, i.name, generated, []⟩
  | .error e => ⟨i.kind, i.name, none, [.ofError i.name e]⟩

/-- Whether something went wrong. -/
def hasErrors (o : Outcome) : Bool := !o.diagnostics.isEmpty

/-- The outcome after its class was refused. -/
def refuse (o : Outcome) (taken : ClassName) : Outcome :=
  { o with
    generated := none
    diagnostics := o.diagnostics ++ [.ofError o.name (.nameTaken taken.name taken.render)] }

/-- An outcome as JSON. -/
def toJson (o : Outcome) : Json :=
  .object ([("kind", .text o.kind.word), ("name", .text o.name)] ++
    presentMember "generated" (o.generated.map GeneratedType.toJson) ++
    filledMember "diagnostics" (o.diagnostics.map Diagnostic.toJson))

end Outcome

/-- Refuses every class that is in `seen` or that an earlier outcome generates. -/
def refuseRepeated (seen : List ClassName) : List Outcome → List Outcome
  | [] => []
  | o :: rest =>
    match o.generated with
    | none => o :: refuseRepeated seen rest
    | some t =>
      if t.className ∈ seen then o.refuse t.className :: refuseRepeated seen rest
      else o :: refuseRepeated (t.className :: seen) rest

/-- The outcomes of a document. -/
structure Compilation where
  /-- The outcomes, in the order of the items. -/
  outcomes : List Outcome

namespace Compilation

/-- Compiles a document. -/
def ofDocument (s : Settings) (d : Document) : Compilation :=
  ⟨refuseRepeated [] ((d.items s).map (Outcome.ofItem { settings := s }))⟩

/-- The generated types. -/
def generated (c : Compilation) : List GeneratedType := c.outcomes.filterMap (·.generated)

/-- The diagnostics. -/
def diagnostics (c : Compilation) : List Diagnostic := c.outcomes.flatMap (·.diagnostics)

/-- The first outcome of a kind and a name. -/
def outcome? (c : Compilation) (kind : ItemKind) (name : String) : Option Outcome :=
  c.outcomes.find? fun o => o.kind == kind && o.name == name

/-- Whether something went wrong. -/
def hasErrors (c : Compilation) : Bool := c.outcomes.any (·.hasErrors)

/-- How many things went wrong. -/
def errorCount (c : Compilation) : Nat := c.diagnostics.length

/-- A compilation as JSON. -/
def toJson (c : Compilation) : Json := .object [("units", listJson Outcome.toJson c.outcomes)]

end Compilation

end QueryModel
