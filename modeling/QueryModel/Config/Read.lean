import QueryModel.Config.Validate
import QueryModel.Toml.Reader

/-!
# Reading a configuration

A configuration is a TOML text with two tables, `codegen` for the options and
`custom_types` for the targets of scalars.  Both may be missing.  Unknown keys and
values of the wrong type are refused, without saying why.  A text that can be
read is then checked (`Config.violation?`).

The options may also be written as a list in their order.  It may stop early, and
what it holds beyond the last option is ignored.

A date or a time in place of the targets counts as a table with one entry
(`momentName`).
-/

namespace QueryModel

open Toml (Node Entries)

/-- Why a configuration is refused. -/
inductive ConfigError
  /-- The text cannot be read. -/
  | unreadable
  /-- A value is not valid. -/
  | violation (v : Violation)
deriving DecidableEq, Repr

namespace Config

/-- A Boolean. -/
def readFlag? : Node → Option Bool
  | .bool b => some b
  | _ => none

/-- A text. -/
def readText? : Node → Option String
  | .text s => some s
  | _ => none

/-- A policy: its word, or a table with the word as its only key and nothing
below it. -/
def readPolicy? : Node → Option NullPolicy
  | .text s => NullPolicy.ofWord? s
  | .table _ [(word, .table _ [])] => NullPolicy.ofWord? word
  | .table _ [(word, .list [] _)] => NullPolicy.ofWord? word
  | _ => none

/-- Sets an option. -/
def setOption? (c : Config) (key : String) (value : Node) : Option Config :=
  match key with
  | "nullable_value_type" => (readPolicy? value).map fun p => { c with policy := p }
  | "generate_accessors" => (readFlag? value).map fun b => { c with accessors := b }
  | "generate_model_builder" => (readFlag? value).map fun b => { c with builders := b }
  | "use_semantic_naming" => (readFlag? value).map fun b => { c with semanticNames := b }
  | "output_package_name" => (readText? value).map fun s => { c with outputPackage := some s }
  | _ => none

/-- The options, in their order. -/
def optionKeys : List String :=
  ["nullable_value_type", "generate_accessors", "generate_model_builder", "use_semantic_naming",
   "output_package_name"]

/-- Sets several options. -/
def setOptions? (c : Config) : Entries → Option Config
  | [] => some c
  | (key, value) :: rest => do setOptions? (← c.setOption? key value) rest

/-- Sets the options of a table or a list. -/
def readOptions? (c : Config) : Node → Option Config
  | .table _ entries => c.setOptions? entries
  | .list items _ => c.setOptions? (optionKeys.zip items)
  | _ => none

/-- The targets of scalars. -/
def readTargets? : Entries → Option (List (String × String))
  | [] => some []
  | (name, value) :: rest => do
    let target ← readText? value
    return (name, target) :: (← readTargets? rest)

/-- The name of the only entry of a date or a time that stands for a table.  It is
not a valid name. -/
def momentName : String := "$__toml_private_datetime"

/-- Sets one of the two tables. -/
def setTable? (c : Config) (key : String) (value : Node) : Option Config :=
  match key, value with
  | "codegen", value => c.readOptions? value
  | "custom_types", .table _ entries =>
    (readTargets? entries).map fun targets => { c with customTypes := .ofList targets }
  | "custom_types", .moment text => some { c with customTypes := .ofList [(momentName, text)] }
  | _, _ => none

/-- Sets the tables of a text. -/
def setTables? (c : Config) : Entries → Option Config
  | [] => some c
  | (key, value) :: rest => do setTables? (← c.setTable? key value) rest

/-- The configuration of a text, before it is checked. -/
def read? (src : String) : Option Config := (Toml.parse? src).bind (setTables? {})

/-- The configuration of a text. -/
def ofText (src : String) : Except ConfigError Config :=
  match read? src with
  | none => .error .unreadable
  | some c =>
    match c.violation? src with
    | some v => .error (.violation v)
    | none => .ok c

end Config

end QueryModel
