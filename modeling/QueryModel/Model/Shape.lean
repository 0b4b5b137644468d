import QueryModel.Document.Basic
import QueryModel.Model.TypeRef

/-!
# Shapes

A shape is the type of the objects that one selection yields.  It has a property
for every response name and every inline fragment, and the shapes of its
object-valued properties nest inside it.  Accessors expose the properties, and a
builder sets them.
-/

namespace QueryModel

/-- What a property holds. -/
inductive PropertyKind
  /-- A value without a selection. -/
  | value
  /-- An object, of the nested shape of that name. -/
  | object (shape : String)
  /-- An alternative of the object, of the nested shape of that name. -/
  | inlineFragment (shape : String)
deriving DecidableEq, Repr

/-- The name of the nested shape of a property. -/
def PropertyKind.shape? : PropertyKind → Option String
  | .value => none
  | .object shape => some shape
  | .inlineFragment shape => some shape

/-- A property of a shape. -/
structure Property where
  /-- The name. -/
  name : String
  /-- The name of the field in the schema, empty for inline fragments. -/
  fieldName : String
  /-- The type. -/
  type : ResolvedType
  /-- What it holds. -/
  kind : PropertyKind
  /-- Whether the value may be absent. -/
  optional : Bool
  /-- The description. -/
  description : Option String
  /-- Why it is deprecated. -/
  deprecationReason : Option String
  /-- The conditions of the field. -/
  conditions : List Condition

/-- A method that gives the value of a property. -/
structure Accessor where
  /-- The name. -/
  name : String
  /-- The type it returns. -/
  returns : ResolvedType

/-- A method of a builder that takes a value. -/
structure Setter where
  /-- The name. -/
  name : String
  /-- The type it takes. -/
  type : ResolvedType
  /-- Whether it has to be called. -/
  required : Bool
  /-- The value if it is not called. -/
  defaultValue : Option Json

/-- A companion that builds values of a type. -/
structure Builder where
  /-- The name of the type. -/
  target : String
  /-- The setters, in order. -/
  setters : List Setter := []

namespace Builder

/-- Adds a setter for a value of a type.  Values that may be absent can be left
out, and primitives always have a value. -/
def setter (b : Builder) (name : String) (type : ResolvedType) : Builder :=
  { b with setters := b.setters ++
      [{ name, type := type.unwrapOptional, required := !type.isOptional && !type.isPrimitive,
         defaultValue := none }] }

/-- Sets the default value of the last setter. -/
def defaultValue (b : Builder) (value : Option Json) : Builder :=
  match b.setters.getLast? with
  | some last => { b with setters := b.setters.dropLast ++ [{ last with defaultValue := value }] }
  | none => b

/-- The names of the setters that have to be called. -/
def requiredSetters (b : Builder) : List String :=
  (b.setters.filter (·.required)).map (·.name)

end Builder

/-- The type of the objects of a selection. -/
structure Shape where
  /-- The name. -/
  name : String
  /-- The type condition, for inline fragments. -/
  typeCondition : Option String := none
  /-- The object types it may stand for. -/
  possibleTypes : List String := []
  /-- The properties. -/
  properties : List Property := []
  /-- The accessors. -/
  accessors : List Accessor := []
  /-- The shapes of its object-valued properties. -/
  nested : List Shape := []
  /-- The builder. -/
  builder : Option Builder := none

namespace Shape

/-- The first property of a name. -/
def property? (s : Shape) (name : String) : Option Property :=
  s.properties.find? (·.name == name)

/-- The first directly nested shape of a name. -/
def nested? (s : Shape) (name : String) : Option Shape := s.nested.find? (·.name == name)

mutual

/-- The names of a shape and of all shapes below it, depth first. -/
def allNames : Shape → List String
  | { name, nested, .. } => name :: namesBelow nested

/-- The names of shapes and of all shapes below them. -/
def namesBelow : List Shape → List String
  | [] => []
  | shape :: rest => shape.allNames ++ namesBelow rest

end

end Shape

end QueryModel
