import QueryModel.Build.Resolve
import QueryModel.Model.Generated
import QueryModel.Text.Case

/-!
# Building declared types

An enum becomes an enum type and an input object an input type with a builder.
The optional fields of an input object tell an absent value from null whatever
the policy of the run is.  The scalars of a run become the constants of one type.
-/

namespace QueryModel

/-- The name of the type that lists the scalars. -/
def scalarsTypeName : String := "CustomType"

/-- The constant of a value of an enum. -/
def EnumConstant.ofValue (v : EnumValue) : EnumConstant :=
  ⟨v.name, v.description, v.deprecated, v.deprecationReason⟩

/-- The constant of a scalar. -/
def ScalarConstant.ofEntry (entry : String × String) : ScalarConstant :=
  ⟨Text.constantCase entry.1, entry.1, .ofTarget entry.2⟩

/-- What a field of an input object asks of its type. -/
def InputField.demand (f : InputField) : Demand :=
  { policy := if f.optional then some .inputType else none }

/-- The builder of an input type.  A field without a default value has none in the
builder. -/
def Builder.ofInput (name : String) (fields : List InputMember) : Builder :=
  fields.foldl (fun b f => (b.setter f.name f.type).defaultValue f.defaultValue) { target := name }

namespace Context

/-- The type of an enum. -/
def enumType (c : Context) (name : String) (description : Option String)
    (values : List EnumValue) : EnumType :=
  ⟨name, c.settings.typesPackage, description, values.map .ofValue⟩

/-- The member of a field of an input object. -/
def inputMember (c : Context) (f : InputField) : Build InputMember := do
  let type ← (c.push f.name).resolve f.demand f.typeName
  return ⟨f.name, type, f.description, f.defaultValue⟩

/-- The type of an input object. -/
def inputType (c : Context) (name : String) (description : Option String)
    (fields : List InputField) : Build InputType := do
  let members ← fields.mapM ((c.reserve name).push name).inputMember
  return ⟨name, c.settings.typesPackage, description, members, .ofInput name members⟩

/-- The type that lists the scalars, if there are any. -/
def scalarsType? (c : Context) : Option ScalarsType :=
  if c.settings.scalars.isEmpty then none
  else some ⟨scalarsTypeName, c.settings.typesPackage, c.settings.scalars.entries.map .ofEntry⟩

end Context

end QueryModel
