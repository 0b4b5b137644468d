import QueryModel.Build.Candidates
import QueryModel.Build.Resolve
import QueryModel.Model.Shape

/-!
# Building shapes

A selection becomes a shape.  Its merged fields give properties, then its inline
fragments do.  A field with a selection and an inline fragment also give a nested
shape.  That shape is built in a context that has taken the names of the shapes
around it.

Two names never clash.  A nested shape takes neither the name of a shape around
it nor that of a sibling, and the property of an inline fragment does not take the
name of a property before it.  A clash is an error, and it also ends fragments
that nest in themselves.
-/

namespace QueryModel

/-! ## Members -/

/-- A property with the shape that nests for it. -/
structure Member where
  /-- The property. -/
  property : Property
  /-- The nested shape, unless the property is a plain value. -/
  nested : Option Shape

/-- Whether one of the members has a nested shape of a name. -/
def nestsShape (members : List Member) (name : String) : Bool :=
  members.any fun m => m.property.kind.shape? == some name

/-- Whether one of the members has a property of a name. -/
def hasProperty (members : List Member) (name : String) : Bool :=
  members.any fun m => m.property.name == name

/-- The shape of some members. -/
def Shape.ofMembers (s : Settings) (name : String) (members : List Member) : Shape :=
  let properties := members.map (·.property)
  { name
    properties
    accessors := if s.accessors then properties.map fun p => ⟨p.name, p.type⟩ else []
    nested := members.filterMap (·.nested)
    builder :=
      if s.builders then
        some (properties.foldl (fun b p => b.setter p.name p.type) { target := name })
      else none }

/-! ## Properties -/

/-- The property of a merged field. -/
def MergedField.property (m : MergedField) (type : ResolvedType) (kind : PropertyKind) :
    Property :=
  { name := m.first.responseName
    fieldName := m.first.fieldName
    type
    kind
    optional := type.isOptional || m.conditional
    description := m.first.description
    deprecationReason := m.first.deprecationReason
    conditions := m.first.conditionList }

/-- What a merged field asks of its type. -/
def MergedField.demand (m : MergedField) : Demand :=
  { optional := if m.conditional then some true else none
    deprecated := m.first.deprecated }

/-- The name of the property of an inline fragment. -/
def InlineOf.propertyName {F : Type} (i : InlineOf F) : String := Text.decapitalize i.shapeName

/-- The property of an inline fragment. -/
def InlineOf.property {F : Type} (i : InlineOf F) (type : ResolvedType) : Property :=
  { name := i.propertyName
    fieldName := ""
    type
    kind := .inlineFragment i.shapeName
    optional := true
    description := none
    deprecationReason := none
    conditions := [] }

namespace Context

/-- The error that a name is taken here. -/
def taken (c : Context) (name : String) : BuildError := .nameTaken name c.pathText

/-! ## Members of a shape -/

/-- The member of a merged field, after the members before it.  `nest` builds the
shape below the field. -/
def fieldMember (c : Context) (done : List Member) (m : MergedField)
    (nest : c.isReserved m.shapeName = false → Build Shape) : Build Member :=
  let here := c.push m.first.responseName
  if m.hasSelection then do
    let t ← here.parseType m.first.typeName
    if free : c.isReserved m.shapeName = false then
      if nestsShape done m.shapeName then .error (here.taken m.shapeName)
      else do
        let nested ← nest free
        let type ← here.resolveExpr { m.demand with shape := some m.shapeName } t
        return ⟨m.property type (.object m.shapeName), some nested⟩
    else .error (here.taken m.shapeName)
  else do
    let type ← here.resolve m.demand m.first.typeName
    return ⟨m.property type .value, none⟩

/-- Adds the members of merged fields, in order. -/
def fieldMembers (c : Context) (done : List Member) (ms : List MergedField)
    (nest : (m : MergedField) → m ∈ ms → c.isReserved m.shapeName = false → Build Shape) :
    Build (List Member) :=
  match ms with
  | [] => .ok done
  | m :: rest => do
    let member ← c.fieldMember done m (nest m (by simp))
    c.fieldMembers (done ++ [member]) rest fun m later => nest m (List.mem_cons_of_mem _ later)

/-- The member of an inline fragment, after the members before it.  `nest` builds
its shape. -/
def inlineMember (c : Context) (done : List Member) (i : InlineFragment)
    (nest : c.isReserved i.shapeName = false → Build Shape) : Build Member :=
  let here := c.push i.shapeName
  if free : c.isReserved i.shapeName = false then
    if nestsShape done i.shapeName then .error (here.taken i.shapeName)
    else if hasProperty done i.propertyName then .error (here.taken i.propertyName)
    else do
      let nested ← nest free
      return ⟨i.property (here.optionalShape i.shapeName),
        some { nested with
          typeCondition := some i.typeCondition
          possibleTypes := i.possible }⟩
  else .error (here.taken i.shapeName)

/-- Adds the members of inline fragments, in order. -/
def inlineMembers (c : Context) (done : List Member) (is : List InlineFragment)
    (nest : (i : InlineFragment) → i ∈ is → c.isReserved i.shapeName = false → Build Shape) :
    Build (List Member) :=
  match is with
  | [] => .ok done
  | i :: rest => do
    let member ← c.inlineMember done i (nest i (by simp))
    c.inlineMembers (done ++ [member]) rest fun i later => nest i (List.mem_cons_of_mem _ later)

/-! ## Shapes -/

theorem freeNames_field_lt {c : Context} {chain : List String} {name : String}
    {s : Selection} {level : Level} (flattened : c.flatten chain s = .ok level)
    {m : MergedField} (membership : m ∈ mergeFields level.fields)
    (free : (c.reserve name).isReserved m.shapeName = false) :
    ((c.reserve name).push m.first.responseName).freeNames m.shapeName m.nested <
      c.freeNames name s := by
  have origin := from_mergeFields membership
  refine freeNames_lt ?_ free ?_
  · exact mem_candidates_of_field flattened origin.1 (mem_field_candidates.2 (.inl rfl))
  · intro n candidate
    obtain ⟨f, inLevel, below⟩ := origin.2 n candidate
    exact mem_candidates_of_field flattened inLevel (mem_field_candidates.2 (.inr below))

theorem freeNames_inline_lt {c : Context} {chain : List String} {name : String}
    {s : Selection} {level : Level} (flattened : c.flatten chain s = .ok level)
    {i : InlineFragment} (membership : i ∈ level.inlines)
    (free : (c.reserve name).isReserved i.shapeName = false) :
    ((c.reserve name).push i.shapeName).freeNames i.shapeName i.selection <
      c.freeNames name s :=
  freeNames_lt (mem_candidates_of_inline flattened membership (.inl rfl)) free
    fun _ candidate => mem_candidates_of_inline flattened membership (.inr candidate)

/-- The shape of a selection.  The fragments on the chain count as expanded, at
every depth. -/
def shape (c : Context) (chain : List String) (name : String) (s : Selection) : Build Shape :=
  match flattened : c.flatten chain s with
  | .error e => .error e
  | .ok level => do
    let inner := c.reserve name
    let fields ← inner.fieldMembers [] (mergeFields level.fields) fun m membership free =>
      have := freeNames_field_lt flattened membership free
      (inner.push m.first.responseName).shape chain m.shapeName m.nested
    let members ← inner.inlineMembers fields level.inlines fun i membership free =>
      have := freeNames_inline_lt flattened membership free
      (inner.push i.shapeName).shape chain i.shapeName i.selection
    return .ofMembers c.settings name members
termination_by c.freeNames name s

/-- One step of building a shape. -/
theorem shape_eq (c : Context) (chain : List String) (name : String) (s : Selection) :
    c.shape chain name s = (do
      let level ← c.flatten chain s
      let inner := c.reserve name
      let fields ← inner.fieldMembers [] (mergeFields level.fields) fun m _ _ =>
        (inner.push m.first.responseName).shape chain m.shapeName m.nested
      let members ← inner.inlineMembers fields level.inlines fun i _ _ =>
        (inner.push i.shapeName).shape chain i.shapeName i.selection
      return .ofMembers c.settings name members) := by
  rw [Context.shape]
  split
  next e failed =>
    rw [failed]
    rfl
  next level flattened =>
    -- the termination proofs mention the level, so it cannot be rewritten there
    simp only [flattened]
    rfl

end Context

end QueryModel
