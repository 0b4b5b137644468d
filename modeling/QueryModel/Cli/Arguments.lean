/-!
# Arguments of the command line

The first argument is a command, and options follow it.  An option that takes a
value has it in the next argument or attached to its own.  No option may be given
twice, and no argument may stand alone.  Whatever breaks these rules is refused.

The last argument may be `--`, which says that no options follow.
-/

namespace QueryModel

/-- What a run is asked for. -/
inductive Command
  /-- A report on what a document generates. -/
  | check
  /-- The generated types as JSON, compact or laid out. -/
  | build (compact : Bool)
deriving DecidableEq, Repr

/-- A run and where its inputs are. -/
structure Invocation where
  /-- What is asked for. -/
  command : Command
  /-- The file of the document. -/
  documentPath : String
  /-- The file of the configuration, if it is named. -/
  configPath : Option String := none
  /-- The base package, if it is named. -/
  package : Option String := none
deriving DecidableEq, Repr

/-- What a command line asks for. -/
inductive Request
  /-- The version. -/
  | version
  /-- A run. -/
  | run (i : Invocation)
  /-- Nothing that makes sense. -/
  | refused
deriving DecidableEq, Repr

/-! ## Words -/

/-- An option that takes a value. -/
inductive ValueOption
  /-- The file of the document. -/
  | document
  /-- The file of the configuration. -/
  | config
  /-- The base package. -/
  | package
deriving DecidableEq, Repr

/-- An option without a value. -/
inductive Flag
  /-- Builds items one after the other.  The result is the same. -/
  | serial
  /-- Prints compact JSON. -/
  | compact
deriving DecidableEq, Repr

/-- What an argument says on its own. -/
inductive Word
  /-- An option, with its value if that is attached. -/
  | value (o : ValueOption) (attached : Option String)
  /-- A flag. -/
  | flag (f : Flag)
  /-- No options follow. -/
  | last
  /-- Anything else. -/
  | other
deriving DecidableEq, Repr

namespace Word

/-- The options that take a value, by their long names. -/
def longOptions : List (String × ValueOption) :=
  [("ir", .document), ("config", .config), ("package", .package)]

/-- The options that take a value, by their letters. -/
def shortOptions : List (Char × ValueOption) := [('c', .config), ('p', .package)]

/-- The flags. -/
def flags : List (String × Flag) := [("serial", .serial), ("compact", .compact)]

/-- A long option, given its name and an attached value. -/
def ofLong (name : String) (attached : Option String) : Word :=
  match longOptions.lookup name, flags.lookup name, attached with
  | some o, _, _ => .value o attached
  | none, some f, none => .flag f
  | _, _, _ => .other

/-- A short option, given its letter and what follows the letter.  An equals sign
before the value does not belong to it. -/
def ofShort (letter : Char) (rest : List Char) : Word :=
  match shortOptions.lookup letter, rest with
  | none, _ => .other
  | some o, [] => .value o none
  | some o, '=' :: cs => .value o (some (String.ofList cs))
  | some o, cs => .value o (some (String.ofList cs))

/-- What an argument says. -/
def ofArgument (argument : String) : Word :=
  match argument.toList with
  | ['-', '-'] => .last
  | '-' :: '-' :: cs =>
    let name := String.ofList (cs.takeWhile (· != '='))
    match cs.dropWhile (· != '=') with
    | [] => ofLong name none
    | _ :: attached => ofLong name (some (String.ofList attached))
  | '-' :: letter :: rest => ofShort letter rest
  | _ => .other

end Word

/-- Whether an argument cannot be the value of the option before it. -/
def looksLikeOption (argument : String) : Bool :=
  match argument.toList with
  | '-' :: _ :: _ => true
  | _ => false

/-! ## Options -/

/-- The options given so far. -/
structure Options where
  /-- The file of the document. -/
  document : Option String := none
  /-- The file of the configuration. -/
  config : Option String := none
  /-- The base package. -/
  package : Option String := none
  /-- Whether items are built one after the other. -/
  serial : Bool := false
  /-- Whether compact JSON is printed. -/
  compact : Bool := false
deriving DecidableEq, Repr

namespace Options

/-- Sets an option once.  Files have names. -/
def put? (o : Options) (key : ValueOption) (value : String) : Option Options :=
  match key with
  | .document =>
    if o.document.isSome || value.isEmpty then none else some { o with document := some value }
  | .config =>
    if o.config.isSome || value.isEmpty then none else some { o with config := some value }
  | .package => if o.package.isSome then none else some { o with package := some value }

/-- Sets a flag once. -/
def raise? (o : Options) : Flag → Option Options
  | .serial => if o.serial then none else some { o with serial := true }
  | .compact => if o.compact then none else some { o with compact := true }

/-- Adds the options of some arguments. -/
def read? (o : Options) : List String → Option Options
  | [] => some o
  | [argument] =>
    match Word.ofArgument argument with
    | .value key (some value) => o.put? key value
    | .value _ none => none
    | .flag f => o.raise? f
    | .last => some o
    | .other => none
  | argument :: next :: rest =>
    match Word.ofArgument argument with
    | .value key (some value) => do (← o.put? key value).read? (next :: rest)
    | .value key none =>
      if looksLikeOption next then none else do (← o.put? key next).read? rest
    | .flag f => do (← o.raise? f).read? (next :: rest)
    | .last => none
    | .other => none

/-- The run that some options describe.  The document is needed. -/
def invocation? (o : Options) (command : Command) : Option Invocation :=
  o.document.map fun documentPath =>
    { command, documentPath, configPath := o.config, package := o.package }

end Options

/-! ## Requests -/

namespace Request

/-- The request for a run, or a refusal. -/
def ofInvocation : Option Invocation → Request
  | some i => .run i
  | none => .refused

/-- Whether an argument asks for the version. -/
def asksVersion (argument : String) : Bool :=
  argument == "--version" || ['-', 'V'].isPrefixOf argument.toList

/-- What some arguments ask for. -/
def ofArguments : List String → Request
  | [] => .refused
  | "check" :: rest =>
    .ofInvocation do
      let o ← Options.read? {} rest
      if o.compact then none else o.invocation? .check
  | "build" :: rest =>
    .ofInvocation do
      let o ← Options.read? {} rest
      o.invocation? (.build o.compact)
  | argument :: _ => if asksVersion argument then .version else .refused

end Request

end QueryModel
