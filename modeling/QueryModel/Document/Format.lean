import QueryModel.Json.Draft
import QueryModel.Text.Quoted
import QueryModel.Json.Printer

/-!
# The format of documents

A document is written in JSON.  Each kind of entity has a list of keys
(`Entity.keys`), and each key says what its value is.  The table is the whole
format; `checkValue` holds a draft against it.

* Unknown keys are skipped.  A known key may stand once, under its name or an
  alias.
* A key that is not required may be missing.  A nullable key may be null.
* An entity may also be written as an array of its values in the order of its
  keys.  Values may be missing at the end, as long as none of them is required.
* A declared type is read whole before it is checked.  Its kind decides its keys,
  and may stand anywhere in it.

The check goes through the draft in the order of the text and reports the first
problem.  Missing keys are noticed at the end of their entity.
-/

namespace QueryModel

open Json (Draft Fault Reading)

/-! ## Entities and keys -/

/-- The kinds of entities. -/
inductive Entity
  /-- The document. -/
  | document
  /-- An operation. -/
  | operation
  /-- A fragment. -/
  | fragment
  /-- A variable. -/
  | variable
  /-- A field. -/
  | field
  /-- An inline fragment. -/
  | inlineFragment
  /-- A condition. -/
  | condition
  /-- A declared enum. -/
  | enumType
  /-- A declared input object. -/
  | inputObjectType
  /-- A declared scalar. -/
  | scalarType
  /-- A value of an enum. -/
  | enumValue
  /-- A field of an input object. -/
  | inputField
deriving DecidableEq, Repr

/-- What a value has to be. -/
inductive ValueKind
  /-- A text. -/
  | text
  /-- A Boolean. -/
  | flag
  /-- Any value. -/
  | anything
  /-- The word for the kind of a condition. -/
  | conditionKind
  /-- An entity. -/
  | entity (e : Entity)
  /-- A declared type of any kind. -/
  | declaration
  /-- A list. -/
  | listOf (item : ValueKind)
deriving DecidableEq, Repr

/-- A key of an entity. -/
structure Key where
  /-- The main name. -/
  name : String
  /-- What its value is. -/
  kind : ValueKind
  /-- Whether the key has to be there. -/
  required : Bool := false
  /-- Whether the value may be null. -/
  nullable : Bool := false
  /-- Other names of the key. -/
  aliases : List String := []
deriving DecidableEq, Repr

namespace Key

/-- A key that has to be there. -/
def needed (name : String) (kind : ValueKind) : Key := { name, kind, required := true }

/-- A key that has to be there, under one of two names. -/
def neededAs (name other : String) (kind : ValueKind) : Key :=
  { name, kind, required := true, aliases := [other] }

/-- A key that may be missing but not null. -/
def defaulted (name : String) (kind : ValueKind) : Key := { name, kind }

/-- A key that may be missing or null. -/
def maybe (name : String) (kind : ValueKind) : Key := { name, kind, nullable := true }

/-- Whether the key answers to a name. -/
def answersTo (k : Key) (name : String) : Bool := k.name == name || k.aliases.contains name

end Key

namespace Entity

/-- What an entity is called in messages. -/
def title : Entity → String
  | .document => "struct CodegenIr"
  | .operation => "struct Operation"
  | .fragment => "struct Fragment"
  | .variable => "struct Variable"
  | .field => "struct Field"
  | .inlineFragment => "struct InlineFragment"
  | .condition => "struct Condition"
  | .enumType => "struct variant TypeDeclaration::Enum"
  | .inputObjectType => "struct variant TypeDeclaration::InputObject"
  | .scalarType => "struct variant TypeDeclaration::Scalar"
  | .enumValue => "struct EnumValue"
  | .inputField => "struct InputField"

/-- The keys of an entity, in their order in the array form. -/
def keys : Entity → List Key
  | .document =>
    [.defaulted "operations" (.listOf (.entity .operation)),
      .defaulted "fragments" (.listOf (.entity .fragment)),
      .defaulted "typesUsed" (.listOf .declaration)]
  | .operation =>
    [.neededAs "operationName" "name" .text, .neededAs "operationType" "kind" .text,
      .defaulted "variables" (.listOf (.entity .variable)), .needed "source" .text,
      .defaulted "fields" (.listOf (.entity .field)), .needed "filePath" .text,
      .defaulted "fragmentsReferenced" (.listOf .text), .defaulted "operationId" .text]
  | .fragment =>
    [.neededAs "fragmentName" "name" .text, .needed "source" .text, .needed "typeCondition" .text,
      .defaulted "possibleTypes" (.listOf .text), .defaulted "fields" (.listOf (.entity .field)),
      .defaulted "fragmentSpreads" (.listOf .text),
      .defaulted "inlineFragments" (.listOf (.entity .inlineFragment)),
      .defaulted "fragmentsReferenced" (.listOf .text), .maybe "filePath" .text]
  | .variable => [.needed "name" .text, .needed "type" .text]
  | .field =>
    [.needed "responseName" .text, .needed "fieldName" .text, .needed "type" .text,
      .maybe "description" .text, .maybe "isDeprecated" .flag, .maybe "deprecationReason" .text,
      .maybe "fields" (.listOf (.entity .field)), .maybe "fragmentSpreads" (.listOf .text),
      .maybe "inlineFragments" (.listOf (.entity .inlineFragment)),
      .maybe "conditions" (.listOf (.entity .condition))]
  | .inlineFragment =>
    [.needed "typeCondition" .text, .maybe "possibleTypes" (.listOf .text),
      .defaulted "fields" (.listOf (.entity .field)), .maybe "fragmentSpreads" (.listOf .text)]
  | .condition =>
    [.needed "kind" .conditionKind, .needed "variableName" .text, .needed "inverted" .flag]
  | .enumType =>
    [.needed "name" .text, .maybe "description" .text,
      .defaulted "values" (.listOf (.entity .enumValue))]
  | .inputObjectType =>
    [.needed "name" .text, .maybe "description" .text,
      .defaulted "fields" (.listOf (.entity .inputField))]
  | .scalarType => [.needed "name" .text, .maybe "description" .text]
  | .enumValue =>
    [.needed "name" .text, .maybe "description" .text, .maybe "isDeprecated" .flag,
      .maybe "deprecationReason" .text]
  | .inputField =>
    [.needed "name" .text, .maybe "description" .text, .needed "type" .text,
      .maybe "defaultValue" .anything]

/-- The key of an entity that answers to a name. -/
def key? (e : Entity) (name : String) : Option Key := e.keys.find? (·.answersTo name)

/-- What the array form of an entity is called in messages. -/
def arrayTitle (e : Entity) : String := s!"{e.title} with {e.keys.length} elements"

end Entity

/-- The words for the kinds of declared types. -/
def declarationKinds : List (String × Entity) :=
  [("EnumType", .enumType), ("InputObjectType", .inputObjectType), ("ScalarType", .scalarType)]

/-- The words for the kinds of conditions. -/
def conditionKinds : List String := ["BooleanCondition"]

/-! ## Problems -/

/-- A text that is valid JSON but no document. -/
inductive Mismatch
  /-- A required key is missing. -/
  | missingField (name : String)
  /-- A key stands twice. -/
  | duplicateField (name : String)
  /-- A value of the wrong type. -/
  | wrongType (found expected : String)
  /-- A word outside a list of known words. -/
  | unknownVariant (name : String) (known : List String)
  /-- An array of the wrong length. -/
  | wrongLength (length : Nat) (expected : String)
deriving DecidableEq, Repr

/-- A list of words in messages. -/
def alternatives (known : List String) : String :=
  match known.map (fun k => s!"`{k}`") with
  | [only] => only
  | [first, second] => s!"{first} or {second}"
  | several => "one of " ++ String.intercalate ", " several

/-- The mismatch in words. -/
def Mismatch.message : Mismatch → String
  | .missingField name => s!"missing field `{name}`"
  | .duplicateField name => s!"duplicate field `{name}`"
  | .wrongType found expected => s!"invalid type: {found}, expected {expected}"
  | .unknownVariant name known => s!"unknown variant `{name}`, expected {alternatives known}"
  | .wrongLength length expected => s!"invalid length {length}, expected {expected}"

/-- The first thing wrong with the text of a document. -/
inductive Problem
  /-- The text breaks. -/
  | fault (f : Fault)
  /-- The text is no document. -/
  | mismatch (m : Mismatch)
deriving DecidableEq, Repr

/-! ## The check -/

/-- What a value has to be, in words. -/
def ValueKind.expected : ValueKind → String
  | .text => "a string"
  | .flag => "a boolean"
  | .anything => "any value"
  | .conditionKind => "variant identifier"
  | .entity e => e.title
  | .declaration => "internally tagged enum TypeDeclaration"
  | .listOf _ => "a sequence"

/-- What a number is, in words. -/
def describeNumber (n : Json.Number) : String :=
  match n with
  | .int _ => s!"integer `{n.render}`"
  | .float _ => s!"floating point `{n.render}`"

/-- The problem with a value of the wrong type. -/
def unexpected (expected : String) : Draft → Problem
  | .null => .mismatch (.wrongType "null" expected)
  | .bool b => .mismatch (.wrongType (if b then "boolean `true`" else "boolean `false`") expected)
  | .number n =>
    match n.read with
    | .ok n => .mismatch (.wrongType (describeNumber n) expected)
    | .error fault => .fault fault
  | .text s =>
    match s.read with
    | .ok s => .mismatch (.wrongType s!"string {Text.quote s}" expected)
    | .error fault => .fault fault
  | .array .. => .mismatch (.wrongType "sequence" expected)
  | .object .. => .mismatch (.wrongType "map" expected)
  | .cut _ whole => .fault whole

/-- Passes unless there is a fault. -/
def noFault : Option Fault → Except Problem Unit
  | none => .ok ()
  | some fault => .error (.fault fault)

/-- The value of a lexeme. -/
def readLexeme {α : Type} (r : Reading α) : Except Problem α :=
  match r.read with
  | .ok a => .ok a
  | .error fault => .error (.fault fault)

/-- The entity for the kind of a declared type. -/
def declarationKind : Draft → Except Problem Entity
  | .text s => do
    let name ← readLexeme s
    match declarationKinds.lookup name with
    | some e => .ok e
    | none => .error (.mismatch (.unknownVariant name (declarationKinds.map Prod.fst)))
  | d => .error (unexpected "variant identifier" d)

/-- Passes if a name is the word for the kind of a condition. -/
def knownCondition (name : String) : Except Problem Unit :=
  if conditionKinds.contains name then .ok ()
  else .error (.mismatch (.unknownVariant name conditionKinds))

/-- Checks the kind of a condition.  It is a word, or an object with the word as
its only key and null as its value.  The first character alone tells that a value
is neither. -/
def checkConditionKind : Draft → Except Problem Unit
  | .text s => do knownCondition (← readLexeme s)
  | .object [] closing => do
    noFault (Draft.readFault closing)
    .error (.fault .malformed)
  | .object ((key, value) :: rest) closing => do
    knownCondition (← readLexeme key)
    match value with
    | .null => .ok ()
    | other => .error (unexpected "unit" other)
    if rest.isEmpty then noFault (Draft.readFault closing) else .error (.fault .malformed)
  | .cut first _ => .error (.fault first)
  | _ => .error (.fault .malformed)

/-- Reads a declared type whole and finds its kind.  `found` is the kind found so
far. -/
def findKind (found : Option Entity) :
    List (Reading String × Draft) → Except Problem (Option Entity)
  | [] => .ok found
  | (key, value) :: rest => do
    if (← readLexeme key) = "kind" then
      if found.isSome then
        .error (.mismatch (.duplicateField "kind"))
      else
        findKind (some (← declarationKind value)) rest
    else
      noFault value.fault
      findKind found rest

/-- The kind that was found, or the problem that there is none. -/
def requireKind : Option Entity → Except Problem Entity
  | some e => .ok e
  | none => .error (.mismatch (.missingField "kind"))

/-- Passes if every required key of an entity was seen. -/
def requireKeys (e : Entity) (seen : List String) : Except Problem Unit :=
  match e.keys.find? fun k => k.required && !seen.contains k.name with
  | some k => .error (.mismatch (.missingField k.name))
  | none => .ok ()

/-- Passes if none of the keys without a value in the array form is required.
`index` is the position of the first of them. -/
def requirePositions (e : Entity) (keys : List Key) (index : Nat) : Except Problem Unit :=
  match keys.findIdx? (·.required) with
  | some i => .error (.mismatch (.wrongLength (index + i) e.arrayTitle))
  | none => .ok ()

/-- The problem with more values than keys.  What was read whole beforehand has a
known length, otherwise the closing bracket is missing. -/
def tooManyValues (whole : Bool) (expected extra : Nat) : Problem :=
  if whole then
    .mismatch (.wrongLength (expected + extra)
      (if expected = 1 then "1 element in sequence" else s!"{expected} elements in sequence"))
  else
    .fault .malformed

mutual

/-- Checks a value.  `whole` says that it was read whole beforehand. -/
def checkValue (whole nullable : Bool) (kind : ValueKind) : Draft → Except Problem Unit
  | .null =>
    if nullable then .ok ()
    else
      match kind with
      | .anything => .ok ()
      | .conditionKind => checkConditionKind .null
      | _ => .error (unexpected kind.expected .null)
  | .array items closing =>
    match kind with
    | .listOf item => do
      checkItems whole item items
      noFault (Draft.readFault closing)
    | .entity e => checkPositions whole e closing e.keys 0 items
    | .declaration =>
      match items with
      | [] => do
        noFault (Draft.readFault closing)
        .error (.mismatch (.missingField "kind"))
      | tag :: rest => do
        let e ← declarationKind tag
        noFault ((Draft.faultItems rest).or (Draft.readFault closing))
        checkPositions true e closing e.keys 0 rest
    | .anything => noFault ((Draft.faultItems items).or (Draft.readFault closing))
    | .conditionKind => checkConditionKind (.array items closing)
    | .text => .error (unexpected kind.expected (.array items closing))
    | .flag => .error (unexpected kind.expected (.array items closing))
  | .object members closing =>
    match kind with
    | .entity e => do
      let seen ← checkMembers whole e [] members
      noFault (Draft.readFault closing)
      requireKeys e seen
    | .declaration => do
      let found ← findKind none members
      noFault (Draft.readFault closing)
      let e ← requireKind found
      let seen ← checkMembers true e [] members
      requireKeys e seen
    | .anything => noFault ((Draft.faultMembers members).or (Draft.readFault closing))
    | .conditionKind => checkConditionKind (.object members closing)
    | .listOf _ => .error (unexpected kind.expected (.object members closing))
    | .text => .error (unexpected kind.expected (.object members closing))
    | .flag => .error (unexpected kind.expected (.object members closing))
  | .bool b =>
    match kind with
    | .flag => .ok ()
    | .anything => .ok ()
    | .conditionKind => checkConditionKind (.bool b)
    | _ => .error (unexpected kind.expected (.bool b))
  | .text s =>
    match kind with
    | .text => noFault (Draft.readFault s)
    | .anything => noFault (Draft.readFault s)
    | .conditionKind => checkConditionKind (.text s)
    | _ => .error (unexpected kind.expected (.text s))
  | .number n =>
    match kind with
    | .anything => noFault (Draft.readFault n)
    | .conditionKind => checkConditionKind (.number n)
    | _ => .error (unexpected kind.expected (.number n))
  | .cut first whole =>
    match kind with
    | .conditionKind => checkConditionKind (.cut first whole)
    | _ => .error (.fault whole)

/-- Checks the items of a list. -/
def checkItems (whole : Bool) (kind : ValueKind) : List Draft → Except Problem Unit
  | [] => .ok ()
  | item :: items => do
    checkValue whole false kind item
    checkItems whole kind items

/-- Checks the members of an entity, and gives the keys that were seen. -/
def checkMembers (whole : Bool) (e : Entity) (seen : List String) :
    List (Reading String × Draft) → Except Problem (List String)
  | [] => .ok seen
  | (key, value) :: rest => do
    match e.key? (← readLexeme key) with
    | none =>
      noFault value.skip
      checkMembers whole e seen rest
    | some k =>
      if seen.contains k.name then
        .error (.mismatch (.duplicateField k.name))
      else
        checkValue whole k.nullable k.kind value
        checkMembers whole e (k.name :: seen) rest

/-- Checks the array form of an entity.  The values left stand for the keys left,
and `index` values came before. -/
def checkPositions (whole : Bool) (e : Entity) (closing : Reading Unit) (keys : List Key)
    (index : Nat) : List Draft → Except Problem Unit
  | [] => do
    noFault (Draft.readFault closing)
    requirePositions e keys index
  | item :: items =>
    match keys with
    | [] => .error (tooManyValues whole index (items.length + 1))
    | k :: keys => do
      checkValue whole k.nullable k.kind item
      checkPositions whole e closing keys (index + 1) items

end

end QueryModel
