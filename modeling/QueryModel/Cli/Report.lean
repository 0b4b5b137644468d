import QueryModel.Compile.Compilation

/-!
# Reports

A report lists what a document generates, one class per line under a count, and
ends with a verdict.  Diagnostics are kept apart from it, and an empty line stands
in their place.
-/

namespace QueryModel

/-- A number of things. -/
def counted (n : Nat) (thing : String) : String :=
  s!"{n} {thing}" ++ if n = 1 then "" else "s"

/-- Lines, each with its end. -/
def unlines (lines : List String) : String := String.join (lines.map (· ++ "\n"))

/-- What is reported on a document. -/
structure Report where
  /-- The file of the document. -/
  documentPath : String
  /-- The kind and the class of each generated type. -/
  generated : List (ItemKind × ClassName)
  /-- The diagnostics. -/
  diagnostics : List Diagnostic

namespace Report

/-- The report on a compilation. -/
def ofCompilation (documentPath : String) (c : Compilation) : Report :=
  { documentPath
    generated := c.outcomes.filterMap fun o => o.generated.map fun t => (o.kind, t.className)
    diagnostics := c.diagnostics }

/-- Whether nothing went wrong. -/
def isValid (r : Report) : Bool := r.diagnostics.isEmpty

/-- The line of a generated type. -/
def generatedLine (entry : ItemKind × ClassName) : String :=
  s!"  + {entry.1.title} {entry.2.render}"

/-- The last line. -/
def verdict (r : Report) : String :=
  if r.isValid then s!"✓ {r.documentPath} compiled"
  else s!"✗ {r.documentPath} failed with " ++ counted r.diagnostics.length "error"

/-- A report as text. -/
def render (r : Report) : String :=
  unlines ((if r.isValid then [] else [""]) ++
    [counted r.generated.length "type" ++ ":"] ++ r.generated.map generatedLine ++
    ["", r.verdict])

end Report

end QueryModel
