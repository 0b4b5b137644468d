import QueryModel.Build.Error
import QueryModel.Model.Encode

/-!
# Diagnostics

A diagnostic says what went wrong with one item of a document, and where if that
is known.
-/

namespace QueryModel

/-- What went wrong with an item. -/
structure Diagnostic where
  /-- The name of the item. -/
  item : String
  /-- The code of the error. -/
  code : Option String := none
  /-- What went wrong. -/
  message : String
  /-- Where in the item. -/
  location : Option String := none
deriving DecidableEq, Repr

namespace Diagnostic

/-- The diagnostic at a location. -/
def located (d : Diagnostic) (location : String) : Diagnostic :=
  { d with location := some location }

/-- The diagnostic with a code. -/
def withCode (d : Diagnostic) (code : String) : Diagnostic := { d with code := some code }

/-- The diagnostic of an error.  An empty path is no location. -/
def ofError (item : String) (e : BuildError) : Diagnostic :=
  { item
    code := some e.code
    message := e.message
    location := e.path?.filter fun path => !path.isEmpty }

/-- A diagnostic as one line. -/
def render (d : Diagnostic) : String :=
  let code := match d.code with
    | some code => s!"[{code}]"
    | none => ""
  let location := match d.location with
    | some location => s!" (at {location})"
    | none => ""
  s!"error{code}: {d.item}: {d.message}{location}"

/-- A diagnostic as JSON. -/
def toJson (d : Diagnostic) : Json :=
  .object ([("unit", .text d.item)] ++ presentMember "code" (d.code.map .text) ++
    [("message", .text d.message)] ++ presentMember "location" (d.location.map .text))

end Diagnostic

end QueryModel
