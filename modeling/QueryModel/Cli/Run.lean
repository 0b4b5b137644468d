import QueryModel.Cli.Arguments
import QueryModel.Cli.Report
import QueryModel.Document.Decode
import QueryModel.Json.Printer
import QueryModel.LoadError

/-!
# Runs

A run loads a configuration, then a document, compiles the document, and prints
what was asked for.  Its files are given as texts by path, so that a run is a
function of its arguments and files.
-/

namespace QueryModel

/-- The file of the configuration when none is named.  It may be missing. -/
def defaultConfigPath : String := "shapegen.toml"

/-- What is printed for the version. -/
def versionLine : String := "shapegen 0.3.0"

/-- Texts by path. -/
abbrev Files := List (String × String)

/-! ## Inputs -/

/-- What a run works on. -/
structure Inputs where
  /-- The configuration. -/
  config : Config
  /-- The document. -/
  document : Document
  /-- The package that is used when the configuration names none. -/
  basePackage : String

namespace Invocation

/-- The files that a run may read. -/
def paths (i : Invocation) : List String :=
  [i.configPath.getD defaultConfigPath, i.documentPath]

/-- The configuration of a text. -/
def parseConfig (src : String) : Except LoadError Config :=
  match Config.ofText src with
  | .ok config => .ok config
  | .error e => .error (.config e)

/-- The document of a text. -/
def parseDocument (src : String) : Except LoadError Document :=
  match Document.ofText src with
  | .ok document => .ok document
  | .error p => .error (.document p)

/-- The configuration of a run. -/
def config (i : Invocation) (files : Files) : Except LoadError Config :=
  match i.configPath with
  | none =>
    match files.lookup defaultConfigPath with
    | some src => parseConfig src
    | none => .ok {}
  | some path =>
    match files.lookup path with
    | some src => parseConfig src
    | none => .error (.file path)

/-- The document of a run. -/
def document (i : Invocation) (files : Files) : Except LoadError Document :=
  match files.lookup i.documentPath with
  | some src => parseDocument src
  | none => .error (.file i.documentPath)

/-- The base package: that of the configuration, else the one that is named, else
that of the file of the document, else the empty one. -/
def basePackage (i : Invocation) (c : Config) : String :=
  match c.outputPackage, i.package with
  | some package, _ => package
  | none, some package => package
  | none, none => (packageOfPath? i.documentPath).getD ""

/-- Loads the inputs of a run. -/
def load (i : Invocation) (files : Files) : Except LoadError Inputs := do
  let config ← i.config files
  let document ← i.document files
  return { config, document, basePackage := i.basePackage config }

end Invocation

/-- Compiles the inputs of a run. -/
def Inputs.compile (inputs : Inputs) : Compilation :=
  .ofDocument (.ofConfig inputs.config inputs.document inputs.basePackage) inputs.document

/-! ## Answers -/

/-- What a run leaves. -/
structure Answer where
  /-- The exit code. -/
  exitCode : Nat
  /-- What is printed. -/
  printed : String
  /-- The diagnostics, one per line. -/
  diagnostics : String
deriving DecidableEq, Repr

/-- What is printed for a compilation. -/
def Invocation.print (i : Invocation) (c : Compilation) : String :=
  match i.command with
  | .check => (Report.ofCompilation i.documentPath c).render
  | .build true => c.toJson.compact ++ "\n"
  | .build false => c.toJson.pretty 0 ++ "\n"

/-- Runs, if the inputs can be loaded. -/
def Invocation.run (i : Invocation) (files : Files) : Except LoadError Answer := do
  let compilation := (← i.load files).compile
  return {
    exitCode := if compilation.hasErrors then 1 else 0
    printed := i.print compilation
    diagnostics := unlines (compilation.diagnostics.map Diagnostic.render) }

end QueryModel
