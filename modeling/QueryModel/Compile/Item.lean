import QueryModel.Build.Declared
import QueryModel.Build.Operation

/-!
# Items of a document

The items of a document are built one by one, and none depends on another.  They
come in this order: the fragments, the enums and input objects, one item for all
scalars, and the operations.
-/

namespace QueryModel

/-- What an item generates. -/
inductive ItemKind
  /-- The type of a fragment. -/
  | fragment
  /-- The type of an enum. -/
  | enum
  /-- The type of an input object. -/
  | inputObject
  /-- The type that lists the scalars. -/
  | scalars
  /-- The type of an operation. -/
  | operation
deriving DecidableEq, Repr

namespace ItemKind

/-- All kinds. -/
def all : List ItemKind := [fragment, enum, inputObject, scalars, operation]

/-- The kind in prose. -/
def title : ItemKind → String
  | .fragment => "fragment"
  | .enum => "enum"
  | .inputObject => "input object"
  | .scalars => "custom scalars"
  | .operation => "operation"

/-- The word for the kind in JSON. -/
def word : ItemKind → String
  | .fragment => "fragment"
  | .enum => "enum"
  | .inputObject => "input_object"
  | .scalars => "custom_scalars"
  | .operation => "operation"

/-- The kind of a word. -/
def ofWord? (s : String) : Option ItemKind := all.find? (·.word == s)

end ItemKind

/-- A part of a document that is built on its own. -/
inductive Item
  /-- A fragment. -/
  | fragment (f : Fragment)
  /-- A declared type. -/
  | declaration (d : Declaration)
  /-- The scalars. -/
  | scalars
  /-- An operation. -/
  | operation (o : Operation)

namespace Item

/-- The kind of an item.  A declared scalar generates nothing and counts as an
enum. -/
def kind : Item → ItemKind
  | .fragment _ => .fragment
  | .declaration (.inputObject ..) => .inputObject
  | .declaration _ => .enum
  | .scalars => .scalars
  | .operation _ => .operation

/-- The name under which an item is reported. -/
def name : Item → String
  | .fragment f => f.fragmentName
  | .declaration d => d.name
  | .scalars => scalarsTypeName
  | .operation o => o.operationName

/-- The type that an item generates, if any. -/
def build (c : Context) : Item → Build (Option GeneratedType)
  | .fragment f => return some (.fragment (← c.fragmentType f))
  | .declaration (.enum name description values) =>
    return some (.enum (c.enumType name description values))
  | .declaration (.inputObject name description fields) =>
    return some (.inputObject (← c.inputType name description fields))
  | .declaration (.scalar ..) => return none
  | .scalars => return c.scalarsType?.map .scalars
  | .operation o => return some (.operation (← c.operationType o))

end Item

/-- The items of a document. -/
def Document.items (d : Document) (s : Settings) : List Item :=
  d.fragments.map .fragment ++
    (d.declarations.filter (·.isGenerated)).map .declaration ++
    (if s.scalars.isEmpty then [] else [.scalars]) ++
    d.operations.map .operation

end QueryModel
