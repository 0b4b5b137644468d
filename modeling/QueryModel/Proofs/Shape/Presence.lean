import QueryModel.Build.Operation
import QueryModel.Proofs.Shape.Assembly
import QueryModel.Proofs.Shape.Flattening

/-!
# When required properties are present

The conditions of fields are decided by an assignment of Booleans to variables.
Under it, a selection has a meaning of its own: it says which objects a response
holds and which response names they contain.  Inline fragments add alternatives to
an object and take no part in this.

A property that is not optional promises that its name is in every such object.
The promise looks at the conditions of the field alone.  The selections below all
declarations of an object are joined, and the conditions of the declarations
themselves are lost on the way.  So an object may be there by one declaration while
the required field stands below another that is left out.

`requiredPresent_iff` says that the promise fails in no other way, and
`not_requiredPresent_twice` that it does fail in this one.
-/

namespace QueryModel

/-- An assignment of Booleans to variables meets all of some conditions. -/
def Meets (a : String → Bool) (conditions : List Condition) : Prop :=
  ∀ k ∈ conditions, a k.variableName ≠ k.inverted

theorem meets_nil {a : String → Bool} : Meets a [] := fun _ none => nomatch none

theorem meets_append {a : String → Bool} {l r : List Condition} :
    Meets a (l ++ r) ↔ Meets a l ∧ Meets a r := List.forall_mem_append

namespace Settings

/-! ## Responses -/

/-- The selections in force below a response name, where `sels` are in force around
it. -/
def forceBelow (s : Settings) (a : String → Bool) (sels : Selection → Prop) (name : String)
    (sub : Selection) : Prop :=
  ∃ sel f, sels sel ∧ s.OffersField sel f ∧ f.responseName = name ∧ Meets a f.conditionList ∧
    f.selection = sub

/-- The selections in force at the object that a path leads to. -/
def inForce (s : Settings) (a : String → Bool) (sels : Selection → Prop) :
    List String → Selection → Prop
  | [] => sels
  | name :: rest => s.inForce a (s.forceBelow a sels name) rest

/-- An object contains a response name, where `sels` are in force at it. -/
def Contains (s : Settings) (a : String → Bool) (sels : Selection → Prop) (name : String) :
    Prop :=
  ∃ sel f, sels sel ∧ s.OffersField sel f ∧ f.responseName = name ∧ Meets a f.conditionList

/-- The response holds the object that a path leads to. -/
def Present (s : Settings) (a : String → Bool) (sels : Selection → Prop) : List String → Prop
  | [] => True
  | name :: rest => s.Contains a sels name ∧ s.Present a (s.forceBelow a sels name) rest

/-! ## Declarations

A response name that leads to an object may be declared many times.  A chain of
declarations follows a path and gathers the conditions on the way, its guard. -/

/-- A chain of declarations along a path, with its guard and the selection at its end. -/
inductive Declares (s : Settings) :
    Selection → List String → List Condition → Selection → Prop
  | here {sel : Selection} : Declares s sel [] [] sel
  | through {sel final : Selection} {f : Field} {path : List String} {guard : List Condition} :
      s.OffersField sel f →
      Declares s f.selection path guard final →
      Declares s sel (f.responseName :: path) (f.conditionList ++ guard) final

/-- A field is offered at the end of a chain of declarations. -/
def Occurs (s : Settings) (sel : Selection) (path : List String) (guard : List Condition)
    (f : Field) : Prop := ∃ sub, s.Declares sel path guard sub ∧ s.OffersField sub f

variable {s : Settings} {a : String → Bool}

theorem declares_nil {sel sub : Selection} {guard : List Condition} :
    s.Declares sel [] guard sub ↔ guard = [] ∧ sel = sub := by
  constructor
  · intro chain
    cases chain
    exact ⟨rfl, rfl⟩
  · rintro ⟨rfl, rfl⟩
    exact .here

theorem declares_cons {sel sub : Selection} {name : String} {rest : List String}
    {guard : List Condition} :
    s.Declares sel (name :: rest) guard sub ↔
      ∃ f below, s.OffersField sel f ∧ f.responseName = name ∧
        s.Declares f.selection rest below sub ∧ guard = f.conditionList ++ below := by
  constructor
  · intro chain
    cases chain with
    | through offered onward => exact ⟨_, _, offered, rfl, onward, rfl⟩
  · rintro ⟨f, below, offered, rfl, onward, rfl⟩
    exact .through offered onward

/-- Joined selections declare what one of them declares. -/
theorem occurs_joined {l : List Selection} {path : List String} {guard : List Condition}
    {f : Field} : s.Occurs (.joined l) path guard f ↔ ∃ sel ∈ l, s.Occurs sel path guard f := by
  constructor
  · rintro ⟨sub, chain, offered⟩
    cases chain with
    | here =>
      obtain ⟨sel, membership, offered⟩ := offersField_joined.mp offered
      exact ⟨sel, membership, sel, .here, offered⟩
    | through first rest =>
      obtain ⟨sel, membership, first⟩ := offersField_joined.mp first
      exact ⟨sel, membership, sub, .through first rest, offered⟩
  · rintro ⟨sel, membership, sub, chain, offered⟩
    cases chain with
    | here => exact ⟨_, .here, offersField_joined.mpr ⟨sel, membership, offered⟩⟩
    | through first rest =>
      exact ⟨sub, .through (offersField_joined.mpr ⟨sel, membership, first⟩) rest, offered⟩

theorem Occurs.through {sel : Selection} {f g : Field} {path : List String}
    {guard : List Condition} (offered : s.OffersField sel f)
    (occurs : s.Occurs f.selection path guard g) :
    s.Occurs sel (f.responseName :: path) (f.conditionList ++ guard) g := by
  obtain ⟨sub, chain, offers⟩ := occurs
  exact ⟨sub, .through offered chain, offers⟩

/-- The selections in force are those at the ends of chains whose guards are met. -/
theorem inForce_iff {sels : Selection → Prop} {path : List String} {sub : Selection} :
    s.inForce a sels path sub ↔
      ∃ sel guard, sels sel ∧ s.Declares sel path guard sub ∧ Meets a guard := by
  induction path generalizing sels with
  | nil =>
    constructor
    · intro inForce
      exact ⟨sub, [], inForce, .here, meets_nil⟩
    · rintro ⟨sel, guard, inForce, chain, -⟩
      obtain ⟨-, rfl⟩ := declares_nil.mp chain
      exact inForce
  | cons name rest ih =>
    rw [inForce, ih]
    constructor
    · rintro ⟨_, guard, ⟨sel, f, inForce, offered, rfl, met, rfl⟩, chain, metBelow⟩
      exact ⟨sel, f.conditionList ++ guard, inForce, .through offered chain,
        meets_append.mpr ⟨met, metBelow⟩⟩
    · rintro ⟨sel, _, inForce, chain, met⟩
      obtain ⟨f, guard, offered, named, onward, rfl⟩ := declares_cons.mp chain
      obtain ⟨met, metBelow⟩ := meets_append.mp met
      exact ⟨f.selection, guard, ⟨sel, f, inForce, offered, named, met, rfl⟩, onward, metBelow⟩

theorem present_iff_inForce (sels : Selection → Prop) {path : List String}
    (inhabited : ∃ sel, sels sel) :
    s.Present a sels path ↔ ∃ sub, s.inForce a sels path sub := by
  induction path generalizing sels with
  | nil => exact iff_of_true trivial inhabited
  | cons name rest ih =>
    constructor
    · rintro ⟨⟨sel, f, inForce, offered, named, met⟩, present⟩
      exact (ih _ ⟨f.selection, sel, f, inForce, offered, named, met, rfl⟩).mp present
    · rintro ⟨sub, inForceBelow⟩
      -- a chain to the end of the path starts with a field of the first name
      have onward : s.inForce a (s.forceBelow a sels name) rest sub := inForceBelow
      obtain ⟨first, _, below, -, -⟩ := inForce_iff.mp onward
      refine ⟨?_, (ih _ ⟨first, below⟩).mpr ⟨sub, onward⟩⟩
      obtain ⟨sel, f, inForce, offered, named, met, -⟩ := below
      exact ⟨sel, f, inForce, offered, named, met⟩

/-- An object is there when a chain of declarations leads to it whose guard is met. -/
theorem present_iff {sel : Selection} {path : List String} :
    s.Present a (· = sel) path ↔ ∃ guard sub, s.Declares sel path guard sub ∧ Meets a guard := by
  rw [present_iff_inForce (· = sel) ⟨sel, rfl⟩]
  constructor
  · rintro ⟨sub, inForce⟩
    obtain ⟨_, guard, rfl, chain, met⟩ := inForce_iff.mp inForce
    exact ⟨guard, sub, chain, met⟩
  · rintro ⟨guard, sub, chain, met⟩
    exact ⟨sub, inForce_iff.mpr ⟨sel, guard, rfl, chain, met⟩⟩

/-- A name is in an object when a field of that name occurs there whose conditions and
guard are met. -/
theorem contains_inForce_iff {sel : Selection} {path : List String} {name : String} :
    s.Contains a (s.inForce a (· = sel) path) name ↔
      ∃ guard f, s.Occurs sel path guard f ∧ f.responseName = name ∧ Meets a guard ∧
        Meets a f.conditionList := by
  constructor
  · rintro ⟨sub, f, inForce, offered, named, included⟩
    obtain ⟨_, guard, rfl, chain, met⟩ := inForce_iff.mp inForce
    exact ⟨guard, f, ⟨sub, chain, offered⟩, named, met, included⟩
  · rintro ⟨guard, f, ⟨sub, chain, offered⟩, named, met, included⟩
    exact ⟨sub, f, inForce_iff.mpr ⟨sel, guard, rfl, chain, met⟩, offered, named, included⟩

end Settings

/-! ## Shapes at paths -/

namespace Shape

/-- The shape of the object that a path leads to. -/
def at? : Shape → List String → Option Shape
  | shape, [] => some shape
  | shape, name :: rest =>
    match (shape.property? name).map Property.kind with
    | some (.object nested) => (shape.nested? nested).bind (·.at? rest)
    | _ => none

theorem at?_cons {shape inner : Shape} {name : String} {rest : List String}
    (found : shape.at? (name :: rest) = some inner) :
    ∃ p ∈ shape.properties, ∃ nestedName nested, p.name = name ∧ p.kind = .object nestedName ∧
      shape.nested? nestedName = some nested ∧ nested.at? rest = some inner := by
  rw [at?] at found
  split at found
  next nestedName isObject =>
    obtain ⟨p, named, kind⟩ := Option.map_eq_some_iff.mp isObject
    obtain ⟨nested, nests, onward⟩ := Option.bind_eq_some_iff.mp found
    have sameName : p.name = name := by simpa using List.find?_some named
    exact ⟨p, List.mem_of_find?_eq_some named, nestedName, nested, sameName, kind, nests, onward⟩
  next => cases found

end Shape

/-! ## Required properties -/

namespace Context

variable {c : Context} {name : String} {sel : Selection} {level : Level}
  {fields inlines : List Member}

namespace Assembly

variable {P : Context → String → Selection → Shape → Prop}

/-- A required property has a declaration that carries no conditions. -/
theorem unconditional_of_required
    (assembly : c.Assembly [] (BuiltWith [] P) name sel level fields inlines) {p : Property}
    (membership : p ∈ (Shape.ofMembers c.settings name (fields ++ inlines)).properties)
    (required : p.optional = false) :
    ∃ f, c.settings.OffersField sel f ∧ f.responseName = p.name ∧ f.conditionList = [] := by
  obtain ⟨member, inMembers, rfl⟩ := List.mem_map.mp membership
  rcases assembly.member_cases inMembers with ⟨m, merged, _, yields⟩ | ⟨i, _, _, yields⟩
  · have notAll : m.conditional = false := by
      cases yields with
      | value => exact (Bool.or_eq_false_iff.mp required).2
      | object => exact (Bool.or_eq_false_iff.mp required).2
    have someOffered := (conditional_of_flatten assembly.flattened merged).not.mp
      (Bool.eq_false_iff.mp notAll)
    push Not at someOffered
    rw [yields.name]
    exact someOffered
  · -- properties of inline fragments are optional
    cases yields
    cases required

/-- The shape of an object comes from the selections below all declarations of its
property. -/
theorem merged_of_object
    (assembly : c.Assembly [] (BuiltWith [] P) name sel level fields inlines) {p : Property}
    (membership : p ∈ (Shape.ofMembers c.settings name (fields ++ inlines)).properties)
    {nestedName : String} (kind : p.kind = .object nestedName) {nested : Shape}
    (nests : (Shape.ofMembers c.settings name (fields ++ inlines)).nested? nestedName =
      some nested) :
    ∃ m ∈ mergeFields level.fields, m.responseName = p.name ∧
      P ((c.reserve name).push m.first.responseName) m.shapeName m.nested nested := by
  obtain ⟨member, inMembers, rfl⟩ := List.mem_map.mp membership
  rcases assembly.member_cases inMembers with ⟨m, merged, _, yields⟩ | ⟨i, _, _, yields⟩
  · refine ⟨m, merged, yields.name.symm, ?_⟩
    cases yields with
    | value => cases kind
    | object _ _ _ below _ =>
      have found := assembly.nested?_eq_some inMembers rfl
      cases kind
      cases nests.symm.trans found
      exact below.2
  · cases yields
    cases kind

end Assembly

/-- What occurs below a merged field occurs below one of its declarations. -/
theorem occurs_of_merged (flattened : c.flatten [] sel = .ok level) {m : MergedField}
    (merged : m ∈ mergeFields level.fields) {rest : List String} {guard : List Condition}
    {f : Field} (occurs : c.settings.Occurs m.nested rest guard f) :
    ∃ guard, c.settings.Occurs sel (m.responseName :: rest) guard f := by
  rw [nested_of_mem_mergeFields merged, Settings.occurs_joined] at occurs
  obtain ⟨sub, inSelections, occurs⟩ := occurs
  obtain ⟨g, inGroup, rfl⟩ := List.mem_map.mp inSelections
  obtain ⟨inLevel, named⟩ := mem_fieldsNamed.mp inGroup
  have offered := (mem_fields_of_flatten flattened g).mp inLevel
  rw [← named]
  exact ⟨_, occurs.through offered⟩

/-- A required property of an object has an occurrence without conditions of its own,
below some chain of declarations of the object. -/
theorem occurs_of_required {shape : Shape} (built : c.shape [] name sel = .ok shape)
    {path : List String} {inner : Shape} (found : shape.at? path = some inner) {p : Property}
    (membership : p ∈ inner.properties) (required : p.optional = false) :
    ∃ guard f, c.settings.Occurs sel path guard f ∧ f.responseName = p.name ∧
      f.conditionList = [] := by
  refine shape_induction (motive := fun c _ sel shape => ∀ path, shape.at? path = some inner →
    ∃ guard f, c.settings.Occurs sel path guard f ∧ f.responseName = p.name ∧
      f.conditionList = []) (fun {c name sel level fields inlines} assembly path found => ?_)
    built path found
  cases path with
  | nil =>
    cases found
    obtain ⟨f, offered, named, unconditional⟩ :=
      assembly.unconditional_of_required membership required
    exact ⟨[], f, ⟨sel, .here, offered⟩, named, unconditional⟩
  | cons step rest =>
    obtain ⟨q, inProperties, _, nested, rfl, kind, nests, onward⟩ := Shape.at?_cons found
    obtain ⟨m, merged, named, below⟩ := assembly.merged_of_object inProperties kind nests
    obtain ⟨guard, f, occurs, rest⟩ := below _ onward
    obtain ⟨guard, occurs⟩ := occurs_of_merged assembly.flattened merged occurs
    rw [named] at occurs
    exact ⟨guard, f, occurs, rest⟩

end Context

namespace Settings

/-- Every required property is in every object of its shape that a response holds. -/
def RequiredPresent (s : Settings) (sel : Selection) (data : Shape) : Prop :=
  ∀ a path shape p, s.Present a (· = sel) path → data.at? path = some shape →
    p ∈ shape.properties → p.optional = false →
    s.Contains a (s.inForce a (· = sel) path) p.name

/-- An assignment that lets one declaration of an object through, and not the one whose
selection holds a required property without conditions, lets another occurrence of that
property through. -/
def GuardsCovered (s : Settings) (sel : Selection) (data : Shape) : Prop :=
  ∀ path shape p, data.at? path = some shape → p ∈ shape.properties → p.optional = false →
    ∀ a guard sub guard₀ f₀, s.Declares sel path guard sub → Meets a guard →
      s.Occurs sel path guard₀ f₀ → f₀.responseName = p.name → f₀.conditionList = [] →
      ¬ Meets a guard₀ →
      ∃ guard' f, s.Occurs sel path guard' f ∧ f.responseName = p.name ∧ Meets a guard' ∧
        Meets a f.conditionList

end Settings

/-- Required properties of a built shape are present exactly when the guards of the
declarations of each object cover each other. -/
theorem Context.requiredPresent_iff {c : Context} {name : String} {sel : Selection}
    {data : Shape} (built : c.shape [] name sel = .ok data) :
    c.settings.RequiredPresent sel data ↔ c.settings.GuardsCovered sel data := by
  constructor
  · intro requiredPresent path shape p found membership required a guard sub guard₀ f₀ chain met
      _ _ _ _
    have present := Settings.present_iff.mpr ⟨guard, sub, chain, met⟩
    exact Settings.contains_inForce_iff.mp
      (requiredPresent a path shape p present found membership required)
  · intro covered a path shape p present found membership required
    obtain ⟨guard, sub, chain, met⟩ := Settings.present_iff.mp present
    obtain ⟨guard₀, f₀, occurs, named, unconditional⟩ :=
      occurs_of_required built found membership required
    apply Settings.contains_inForce_iff.mpr
    by_cases reached : Meets a guard₀
    · refine ⟨guard₀, f₀, occurs, named, reached, ?_⟩
      rw [unconditional]
      exact meets_nil
    · exact covered path shape p found membership required a guard sub guard₀ f₀ chain met
        occurs named unconditional reached

/-! ## Two declarations of one object -/

namespace Sample

/-- An object with a name, if the name is wanted. -/
def named : Field :=
  { Field.holding "hero" "Character" [.leaf "name" "String!"] with
    conditions := some [⟨"withName", false⟩] }

/-- The name of an object that is declared once is there when the object is. -/
theorem requiredPresent_once :
    ∃ data, context.shape [] "Data" { fields := [named] } = .ok data ∧
      context.settings.RequiredPresent { fields := [named] } data := by
  have few : context.freeNames "Data" { fields := [named] } < 20 := by decide +kernel
  have made : (context.shapeWithin [] "Data" { fields := [named] } 20).isOk = true := by
    decide +kernel
  obtain ⟨data, built⟩ := Context.exists_shape few made
  refine ⟨data, built, (Context.requiredPresent_iff built).mpr ?_⟩
  intro path shape p _ _ _ a guard sub guard₀ f₀ chain met occurs _ _ missed
  -- all chains to one object have the same guard
  refine absurd ?_ missed
  obtain ⟨sub₀, chain₀, offered⟩ := occurs
  cases path with
  | nil =>
    obtain ⟨rfl, -⟩ := Settings.declares_nil.mp chain₀
    exact meets_nil
  | cons name rest =>
    obtain ⟨f, below, first, -, -, rfl⟩ := Settings.declares_cons.mp chain
    obtain ⟨g, below₀, first₀, -, onward, rfl⟩ := Settings.declares_cons.mp chain₀
    obtain rfl := List.mem_singleton.mp (Settings.offersField_fields.mp first)
    obtain rfl := List.mem_singleton.mp (Settings.offersField_fields.mp first₀)
    refine meets_append.mpr ⟨(meets_append.mp met).1, ?_⟩
    cases rest with
    | nil =>
      obtain ⟨rfl, -⟩ := Settings.declares_nil.mp onward
      exact meets_nil
    | cons name rest =>
      -- nothing is offered below the name
      obtain ⟨g, _, second, -, onward, -⟩ := Settings.declares_cons.mp onward
      obtain rfl := List.mem_singleton.mp (Settings.offersField_fields.mp second)
      cases rest with
      | nil =>
        obtain ⟨-, rfl⟩ := Settings.declares_nil.mp onward
        cases Settings.offersField_fields.mp offered
      | cons name rest =>
        obtain ⟨_, _, third, -⟩ := Settings.declares_cons.mp onward
        cases Settings.offersField_fields.mp third

/-- An operation that declares an object twice and gives it a name in one of them. -/
def heroTwice : Operation :=
  { operationName := "Hero", operationType := "query", parameters := [⟨"withName", "Boolean!"⟩]
    source := "", filePath := "src/main/graphql/com/example/Hero.graphql"
    fragmentsReferenced := [], operationId := ""
    fields := [named, .holding "hero" "Character" [.leaf "id" "ID!"]] }

theorem exists_type_heroTwice :
    ∃ type, context.operationType heroTwice = .ok type ∧
      ∃ shape, type.data.at? ["hero"] = some shape ∧
        ∃ p ∈ shape.properties, p.name = "name" ∧ p.optional = false := by
  let inner := context.reserve "HeroQuery"
  let sel : Selection := { fields := heroTwice.fields }
  have few : inner.freeNames dataTypeName sel < 20 := by decide +kernel
  have hasName : ((inner.shapeWithin [] dataTypeName sel 20).toOption.any fun data =>
      (data.at? ["hero"]).any fun hero =>
        hero.properties.any fun p => p.name == "name" && !p.optional) = true := by
    decide +kernel
  have isTyped : ∃ parameters, inner.variablesType? heroTwice.parameters = .ok parameters :=
    Build.isOk_iff.mp (by decide +kernel)
  obtain ⟨parameters, typed⟩ := isTyped
  obtain ⟨data, built, passes⟩ := Context.exists_shape_passing [] _ few hasName
  refine ⟨_, Context.operationType_eq_ok.mpr
    ⟨.query, _, _, parameters, data, rfl, rfl, rfl, typed, built, rfl⟩, ?_⟩
  simpa [Option.any_eq_true] using passes

/-- The name is required and yet missing when it is not wanted. -/
theorem not_requiredPresent_twice :
    ∃ type, context.operationType heroTwice = .ok type ∧
      ¬ context.settings.RequiredPresent { fields := heroTwice.fields } type.data := by
  obtain ⟨type, made, shape, found, p, membership, isName, required⟩ := exists_type_heroTwice
  refine ⟨type, made, fun requiredPresent => ?_⟩
  let unwanted : String → Bool := fun _ => false
  let second : Field := .holding "hero" "Character" [.leaf "id" "ID!"]
  have fields : heroTwice.fields = [named, second] := rfl
  have offered : second ∈ heroTwice.fields := by simp [fields]
  have present : context.settings.Present unwanted (· = { fields := heroTwice.fields }) ["hero"] :=
    ⟨⟨_, second, rfl, .inl offered, rfl, meets_nil⟩, trivial⟩
  obtain ⟨_, f, ⟨_, g, rfl, declared, -, met, rfl⟩, offers, sameName, -⟩ :=
    requiredPresent unwanted ["hero"] shape p present found membership required
  rw [Settings.offersField_fields, fields, List.mem_pair] at declared
  rcases declared with rfl | rfl
  · -- the declaration with the name is left out
    have wanted : (⟨"withName", false⟩ : Condition) ∈ named.conditionList :=
      List.mem_singleton.mpr rfl
    exact met _ wanted rfl
  · -- the other one does not have the name
    obtain rfl := List.mem_singleton.mp (Settings.offersField_fields.mp offers)
    rw [isName] at sameName
    exact absurd sameName (by decide)

end Sample

end QueryModel
