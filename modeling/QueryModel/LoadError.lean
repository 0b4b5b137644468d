import QueryModel.Config.Read
import QueryModel.Document.Format

/-!
# Inputs that cannot be loaded

A run stops before it compiles anything when a file is missing, the configuration
is refused, or the document has a problem.  Each such error has a message, a code
and sometimes a word of help.
-/

namespace QueryModel

/-- Why the inputs of a run cannot be loaded. -/
inductive LoadError
  /-- A file cannot be read. -/
  | file (path : String)
  /-- The configuration is refused. -/
  | config (e : ConfigError)
  /-- The document has a problem. -/
  | document (p : Problem)
deriving DecidableEq, Repr

namespace LoadError

/-- The error in words. -/
def message : LoadError → String
  | .file path => s!"failed to read '{path}'"
  | .config .unreadable => "failed to parse shapegen.toml"
  | .config (.violation v) => v.message
  | .document _ => "malformed IR document"

/-- The code of the error. -/
def code : LoadError → String
  | .file _ => "shapegen::io"
  | .config .unreadable => "shapegen::parse_error"
  | .config (.violation (.scalarName ..)) => "shapegen::invalid_scalar"
  | .config (.violation _) => "shapegen::validation_error"
  | .document _ => "shapegen::malformed_ir"

/-- A word of help. -/
def help : LoadError → Option String
  | .config (.violation (.scalarName _ fault _)) =>
    some <| fault.message ++ ". GraphQL names use only letters, numbers, and underscores, " ++
      "starting with a letter or underscore."
  | .document _ =>
    some "the IR must be a JSON object with `operations`, `fragments` and `typesUsed`"
  | _ => none

end LoadError

end QueryModel
