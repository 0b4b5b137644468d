import QueryModel.Build.Shape
import QueryModel.Model.Generated

/-!
# Building fragments and operations

A fragment becomes a type around the shape of its selection.  An operation becomes
a type around the shape of its response, with its variables, the document that is
sent, and a builder over the variables.

Of several things wrong with an operation the first one counts, in this order: its
kind, its package, its document, its variables, its response.
-/

namespace QueryModel

open Text

/-- The name of the shape of a response. -/
def dataTypeName : String := "Data"

/-- The name of the type of the variables. -/
def variablesTypeName : String := "Variables"

/-! ## Names and texts -/

/-- The name of the type of an operation.  A semantic name is that of the operation
and ends with its kind, which is not written twice.  Any other name is that of the
file. -/
def operationTypeName (operationName filePath : String) (kind : OperationKind)
    (semantic : Bool) : String :=
  if semantic then
    let name := capitalize operationName
    if endsWith name kind.suffix then name else name ++ kind.suffix
  else
    pascalCase (fileStem filePath)

namespace Settings

/-- The package of an operation: that of the configuration, else that of its
file. -/
def operationPackage (s : Settings) (o : Operation) : Build String :=
  match s.outputPackage with
  | some package => .ok package
  | none =>
    match packageOfPath? o.filePath with
    | some package => .ok package
    | none => .error (.packagePath o.filePath)

/-- The text of a fragment that an operation refers to. -/
def fragmentSource (s : Settings) (o : Operation) (name : String) : Build String :=
  match s.fragment? name with
  | some f => .ok f.source
  | none => .error (.unknownFragment name o.operationName)

/-- The text that is sent for an operation: its own, then those of its fragments,
with an empty line between two. -/
def operationDocument (s : Settings) (o : Operation) : Build String := do
  let sources ← o.fragmentsReferenced.mapM (s.fragmentSource o)
  return String.intercalate "\n\n" (o.source :: sources)

end Settings

/-- The policy for the response.  It is no input. -/
def NullPolicy.forOutput : NullPolicy → NullPolicy
  | .inputType => .annotated
  | other => other

/-- The builder of an operation, with a setter for every variable. -/
def Builder.ofVariables (name : String) (parameters : Option VariablesType) : Builder :=
  ((parameters.map (·.members)).getD []).foldl (fun b v => b.setter v.name v.type)
    { target := name }

/-- A way to build the shape of a selection, for a context, a chain and a name. -/
abbrev ShapeBuilder := Context → List String → String → Selection → Build Shape

namespace Context

/-! ## Fragments -/

/-- The type of a fragment, where `build` makes the shape.  The fragment itself counts as
expanded. -/
def fragmentTypeWith (build : ShapeBuilder) (c : Context) (f : Fragment) :
    Build FragmentType := do
  let shape ← build c [f.fragmentName] (capitalize f.fragmentName) f.selection
  return {
    package := c.settings.fragmentsPackage
    fragmentName := f.fragmentName
    typeCondition := f.typeCondition
    possibleTypes := f.possibleTypes
    definition := f.source
    shape }

/-- The type of a fragment. -/
def fragmentType (c : Context) (f : Fragment) : Build FragmentType := c.fragmentTypeWith shape f

/-! ## Operations -/

/-- The member of a variable. -/
def variableMember (c : Context) (v : Variable) : Build VariableMember := do
  let type ← (c.push v.name).resolve {} v.typeName
  return ⟨decapitalize v.name, v.name, type, !v.optional && !type.isPrimitive⟩

/-- The type of the variables, if there are any. -/
def variablesType? (c : Context) (vs : List Variable) : Build (Option VariablesType) :=
  if vs.isEmpty then .ok none
  else do
    let members ← vs.mapM (c.push variablesTypeName).variableMember
    return some ⟨variablesTypeName, members⟩

/-- The type under which a response is handed out. -/
def dataWrapper (c : Context) : ResolvedType :=
  { base := .shape dataTypeName
    wrapping := .nullable c.settings.policy.forOutput
    deprecated := false }

/-- The type of an operation, where `build` makes the shape of the response. -/
def operationTypeWith (build : ShapeBuilder) (c : Context) (o : Operation) :
    Build OperationType := do
  let some kind := OperationKind.ofWord? o.operationType
    | .error (.unknownOperation o.operationName o.operationType)
  let name := operationTypeName o.operationName o.filePath kind c.settings.semanticNames
  let package ← c.settings.operationPackage o
  let document ← c.settings.operationDocument o
  let inner := c.reserve name
  let parameters ← inner.variablesType? o.parameters
  let data ← build inner [] dataTypeName ⟨o.fields, [], []⟩
  return {
    name
    package
    kind
    operationName := o.operationName
    operationId := o.operationId
    definition := o.source
    document
    parameters
    data
    dataWrapper := c.dataWrapper
    builder := .ofVariables name parameters }

/-- The type of an operation. -/
def operationType (c : Context) (o : Operation) : Build OperationType := c.operationTypeWith shape o

/-- An operation has a type exactly when all its parts are made. -/
theorem operationType_eq_ok {c : Context} {o : Operation} {type : OperationType} :
    c.operationType o = .ok type ↔
      ∃ kind package document parameters data,
        OperationKind.ofWord? o.operationType = some kind ∧
        c.settings.operationPackage o = .ok package ∧
        c.settings.operationDocument o = .ok document ∧
        (c.reserve (operationTypeName o.operationName o.filePath kind
          c.settings.semanticNames)).variablesType? o.parameters = .ok parameters ∧
        (c.reserve (operationTypeName o.operationName o.filePath kind
          c.settings.semanticNames)).shape [] dataTypeName ⟨o.fields, [], []⟩ = .ok data ∧
        type =
          { name := operationTypeName o.operationName o.filePath kind c.settings.semanticNames
            package, kind, operationName := o.operationName, operationId := o.operationId
            definition := o.source, document, parameters, data, dataWrapper := c.dataWrapper
            builder := .ofVariables (operationTypeName o.operationName o.filePath kind
              c.settings.semanticNames) parameters } := by
  rw [operationType, operationTypeWith]
  cases OperationKind.ofWord? o.operationType with
  | none => simp
  | some kind =>
    simp only [Build.bind_eq_ok, Option.some.injEq]
    constructor
    · rintro ⟨package, packaged, document, documented, parameters, typed, data, built, made⟩
      cases made
      exact ⟨kind, package, document, parameters, data, rfl, packaged, documented, typed, built,
        rfl⟩
    · rintro ⟨_, package, document, parameters, data, rfl, packaged, documented, typed, built, rfl⟩
      exact ⟨package, packaged, document, documented, parameters, typed, data, built, rfl⟩

end Context

end QueryModel
