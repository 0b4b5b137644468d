import QueryModel.Compile.Item
import QueryModel.Proofs.Shape.Spreading

/-!
# Only look-ups matter

The settings hold dictionaries in the order of the document.  Building an item never walks over
them.  The resolver asks for scalars and declared types by name, flattening and the documents of
operations ask for fragments by name.  `Settings.Alike` relates settings that have the same options
and give the same answers.  Alike settings build an item in the same way, with the same error if it
fails (`Item.build_under`).  Every function that reads the settings has one lemma for this.

Flattening ends by counting the fragments of the settings, and nesting by counting free names.  The
counts are no part of the results, so the two recursions are followed on one side only.

The item of the scalars is the exception, because it lists a dictionary in its order.

Definitions with distinct names are found under their names wherever they stand
(`alike_ofConfig`).  So the order of definitions does not matter to a type (`build_perm`).
-/

namespace QueryModel

/-! ## Settings -/

/-- Settings with the same options that give the same answers. -/
structure Settings.Alike (s t : Settings) : Prop where
  policy : s.policy = t.policy
  typesPackage : s.typesPackage = t.typesPackage
  fragmentsPackage : s.fragmentsPackage = t.fragmentsPackage
  outputPackage : s.outputPackage = t.outputPackage
  accessors : s.accessors = t.accessors
  builders : s.builders = t.builders
  semanticNames : s.semanticNames = t.semanticNames
  scalar : ∀ name, s.scalars.get? name = t.scalars.get? name
  declaration : ∀ name, s.declaration? name = t.declaration? name
  fragment : ∀ name, s.fragment? name = t.fragment? name

/-- Scalars are found under their names, and the standard ones come last. -/
theorem get?_scalarTargets_perm (user : Dict String) {ds ds' : List Declaration}
    (same : ds.Perm ds') (distinct : (ds.map (·.name)).Nodup) (name : String) :
    (scalarTargets user ds).get? name = (scalarTargets user ds').get? name := by
  rw [scalarTargets, scalarTargets, Dict.get?_insertAll, Dict.get?_insertAll]
  congr 1
  refine Dict.get?_ofList_perm ((same.filter _).map _) ?_ name
  rw [List.map_map]
  exact distinct.sublist (List.filter_sublist.map _)

/-- Definitions with distinct names may stand in any order. -/
theorem Settings.alike_ofConfig (config : Config) {d d' : Document} (base : String)
    (fragments : d.fragments.Perm d'.fragments)
    (distinctFragments : (d.fragments.map (·.fragmentName)).Nodup)
    (declarations : d.declarations.Perm d'.declarations)
    (distinctDeclarations : (d.declarations.map (·.name)).Nodup) :
    (ofConfig config d base).Alike (ofConfig config d' base) where
  policy := rfl
  typesPackage := rfl
  fragmentsPackage := rfl
  outputPackage := rfl
  accessors := rfl
  builders := rfl
  semanticNames := rfl
  scalar := get?_scalarTargets_perm config.customTypes declarations distinctDeclarations
  declaration := Dict.get?_ofList_perm (declarations.map _) (by rwa [List.map_map])
  fragment := Dict.get?_ofList_perm (fragments.map _) (by rwa [List.map_map])

/-! ## Contexts -/

namespace Context

/-- The context with other settings. -/
def under (c : Context) (t : Settings) : Context := { c with settings := t }

@[simp]
theorem settings_under (c : Context) (t : Settings) : (c.under t).settings = t := rfl

@[simp]
theorem reserve_under (c : Context) (t : Settings) (name : String) :
    (c.under t).reserve name = (c.reserve name).under t := rfl

@[simp]
theorem push_under (c : Context) (t : Settings) (step : String) :
    (c.under t).push step = (c.push step).under t := rfl

@[simp]
theorem unresolvable_under (c : Context) (t : Settings) (typeName : String) :
    (c.under t).unresolvable typeName = c.unresolvable typeName := rfl

@[simp]
theorem isReserved_under (c : Context) (t : Settings) (name : String) :
    (c.under t).isReserved name = c.isReserved name := rfl

@[simp]
theorem taken_under (c : Context) (t : Settings) (name : String) :
    (c.under t).taken name = c.taken name := rfl

@[simp]
theorem parseType_under (c : Context) (t : Settings) (typeName : String) :
    (c.under t).parseType typeName = c.parseType typeName := rfl

variable {c : Context} {t : Settings}

/-! ## Resolving -/

/-- Named types are looked up in dictionaries, so only what is found in them matters. -/
theorem lookup_under (alike : c.settings.Alike t) (name : String) (optional : Bool) :
    (c.under t).lookup name optional = c.lookup name optional := by
  simp only [lookup, settings_under, unresolvable_under, alike.scalar, alike.declaration,
    alike.typesPackage]

theorem nameRef_under (alike : c.settings.Alike t) (shape : Option String) (name : String)
    (optional : Bool) :
    (c.under t).nameRef shape name optional = c.nameRef shape name optional := by
  cases shape with
  | none => exact lookup_under alike name optional
  | some shape => rfl

theorem wrap_under (alike : c.settings.Alike t) (base : TypeRef) (optional : Bool)
    (policy : Option NullPolicy) (deprecated : Bool) :
    (c.under t).wrap base optional policy deprecated = c.wrap base optional policy deprecated := by
  simp only [wrap, settings_under, alike.policy]

theorem resolveElement_under (alike : c.settings.Alike t) (shape : Option String) (e : TypeExpr) :
    (c.under t).resolveElement shape e = c.resolveElement shape e := by
  fun_induction resolveElement c shape e with
  | case1 name => rw [resolveElement, nameRef_under alike]
  | case2 inner ih => rw [resolveElement, ih]
  | case3 name => rw [resolveElement, nameRef_under alike]
  | case4 inner ih => rw [resolveElement, ih]
  | case5 inner => rw [resolveElement, unresolvable_under]

theorem baseRef_under (alike : c.settings.Alike t) (shape : Option String) (optional : Bool)
    (e : TypeExpr) : (c.under t).baseRef shape optional e = c.baseRef shape optional e := by
  cases e with
  | named name => exact nameRef_under alike shape name optional
  | list inner => rw [baseRef, baseRef, resolveElement_under alike]
  | nonNull inner => rfl

theorem resolveExpr_under (alike : c.settings.Alike t) (d : Demand) (e : TypeExpr) :
    (c.under t).resolveExpr d e = c.resolveExpr d e := by
  simp only [resolveExpr, baseRef_under alike, wrap_under alike]

/-- A type is resolved the same under settings that are alike. -/
theorem resolve_under (alike : c.settings.Alike t) (d : Demand) (typeName : String) :
    (c.under t).resolve d typeName = c.resolve d typeName := by
  simp only [resolve, parseType_under, resolveExpr_under alike]

/-! ## Shapes -/

end Context

/-- The expansion is followed under the first settings, the others expand the same spreads. -/
theorem Settings.contributions_alike {s t : Settings} (alike : s.Alike t) (path : String)
    (chain spreads : List String) :
    t.contributions path chain spreads = s.contributions path chain spreads := by
  fun_induction contributions s path chain spreads with
  | case1 => rw [contributions]
  | case2 chain spread rest fresh missing =>
    rw [contributions_of_none (by simpa using fresh) (alike.fragment spread ▸ missing)]
  | case3 chain spread rest fresh f found _ ihInner ihLater =>
    rw [contributions_of_some (by simpa using fresh) (alike.fragment spread ▸ found), ihInner,
      ihLater]
  | case4 chain spread rest known ih =>
    rw [contributions_of_mem (by simpa using known), ih]

namespace Context

variable {c : Context} {t : Settings}

/-- Spreads are flattened the same, since fragments are found by name. -/
theorem flatten_under (alike : c.settings.Alike t) (chain : List String) (sel : Selection) :
    (c.under t).flatten chain sel = c.flatten chain sel := by
  rw [flatten, flatten, settings_under, Settings.contributions_alike alike]
  rfl

/-- The member of a field is the same if the shape below it is.  That shape only matters where its
name is free. -/
theorem fieldMember_under (alike : c.settings.Alike t) (done : List Member) (m : MergedField)
    {nest nest' : Build Shape} (same : c.isReserved m.shapeName = false → nest' = nest) :
    (c.under t).fieldMember done m (fun _ => nest') = c.fieldMember done m (fun _ => nest) := by
  have here : (c.push m.first.responseName).settings.Alike t := alike
  calc (c.under t).fieldMember done m (fun _ => nest')
    _ = c.fieldMember done m (fun _ => nest') := by
      simp only [fieldMember, push_under, parseType_under, isReserved_under, taken_under,
        resolve_under here, resolveExpr_under here]
    _ = c.fieldMember done m (fun _ => nest) := congrArg (c.fieldMember done m) (funext same)

theorem fieldMembers_under (alike : c.settings.Alike t) (done : List Member)
    {ms : List MergedField} {nest nest' : MergedField → Build Shape}
    (same : ∀ m ∈ ms, c.isReserved m.shapeName = false → nest' m = nest m) :
    (c.under t).fieldMembers done ms (fun m _ _ => nest' m) =
      c.fieldMembers done ms (fun m _ _ => nest m) := by
  induction ms generalizing done with
  | nil => rfl
  | cons m rest ih =>
    obtain ⟨first, later⟩ := List.forall_mem_cons.mp same
    rw [fieldMembers, fieldMembers, fieldMember_under alike done m first]
    exact congrArg _ (funext fun member => ih _ later)

/-- The same for the member of an inline fragment. -/
theorem inlineMember_under (alike : c.settings.Alike t) (done : List Member) (i : InlineFragment)
    {nest nest' : Build Shape} (same : c.isReserved i.shapeName = false → nest' = nest) :
    (c.under t).inlineMember done i (fun _ => nest') = c.inlineMember done i (fun _ => nest) := by
  have here : (c.push i.shapeName).settings.Alike t := alike
  calc (c.under t).inlineMember done i (fun _ => nest')
    _ = c.inlineMember done i (fun _ => nest') := by
      simp only [inlineMember, push_under, isReserved_under, taken_under, optionalShape,
        wrap_under here]
    _ = c.inlineMember done i (fun _ => nest) := congrArg (c.inlineMember done i) (funext same)

theorem inlineMembers_under (alike : c.settings.Alike t) (done : List Member)
    {is : List InlineFragment} {nest nest' : InlineFragment → Build Shape}
    (same : ∀ i ∈ is, c.isReserved i.shapeName = false → nest' i = nest i) :
    (c.under t).inlineMembers done is (fun i _ _ => nest' i) =
      c.inlineMembers done is (fun i _ _ => nest i) := by
  induction is generalizing done with
  | nil => rfl
  | cons i rest ih =>
    obtain ⟨first, later⟩ := List.forall_mem_cons.mp same
    rw [inlineMembers, inlineMembers, inlineMember_under alike done i first]
    exact congrArg _ (funext fun member => ih _ later)

/-- By induction on the free names, which are counted under the settings of the context. -/
theorem shape_under {c : Context} (alike : c.settings.Alike t) (chain : List String)
    (name : String) (sel : Selection) :
    (c.under t).shape chain name sel = c.shape chain name sel := by
  rw [shape_eq, shape_eq, flatten_under alike]
  cases flattened : c.flatten chain sel with
  | error e => rfl
  | ok level =>
    have inner : (c.reserve name).settings.Alike t := alike
    have sameMembers (members : List Member) :
        Shape.ofMembers t name members = .ofMembers c.settings name members := by
      simp only [Shape.ofMembers, alike.accessors, alike.builders]
    simp only [Result.ok_bind, reserve_under, push_under, settings_under, sameMembers]
    rw [fieldMembers_under inner [] fun m membership free => ?fields]
    · refine congrArg _ (funext fun fields => ?_)
      rw [inlineMembers_under inner fields fun i membership free => ?inlines]
      have := freeNames_inline_lt flattened membership free
      exact shape_under (c := (c.reserve name).push i.shapeName) alike chain i.shapeName i.selection
    · have := freeNames_field_lt flattened membership free
      exact shape_under (c := (c.reserve name).push m.first.responseName) alike chain m.shapeName
        m.nested
termination_by c.freeNames name sel

/-! ## Items -/

/-- Fragments have the same types under settings that are alike. -/
theorem fragmentType_under (alike : c.settings.Alike t) (f : Fragment) :
    (c.under t).fragmentType f = c.fragmentType f := by
  simp only [fragmentType, fragmentTypeWith, shape_under alike, settings_under,
    alike.fragmentsPackage]

theorem enumType_under (alike : c.settings.Alike t) (name : String) (description : Option String)
    (values : List EnumValue) :
    (c.under t).enumType name description values = c.enumType name description values := by
  rw [enumType, enumType, settings_under, alike.typesPackage]

theorem inputMember_under (alike : c.settings.Alike t) :
    (c.under t).inputMember = c.inputMember := by
  funext f
  have here : (c.push f.name).settings.Alike t := alike
  rw [inputMember, inputMember, push_under, resolve_under here]

theorem inputType_under (alike : c.settings.Alike t) (name : String) (description : Option String)
    (fields : List InputField) :
    (c.under t).inputType name description fields = c.inputType name description fields := by
  have here : ((c.reserve name).push name).settings.Alike t := alike
  rw [inputType, inputType, reserve_under, push_under, inputMember_under here, settings_under,
    alike.typesPackage]

theorem variableMember_under (alike : c.settings.Alike t) :
    (c.under t).variableMember = c.variableMember := by
  funext v
  have here : (c.push v.name).settings.Alike t := alike
  rw [variableMember, variableMember, push_under, resolve_under here]

/-- So have the variables of an operation, which are resolved one by one. -/
theorem variablesType_under (alike : c.settings.Alike t) (vs : List Variable) :
    (c.under t).variablesType? vs = c.variablesType? vs := by
  have here : (c.push variablesTypeName).settings.Alike t := alike
  rw [variablesType?, variablesType?, push_under, variableMember_under here]

end Context

theorem Settings.operationPackage_alike {s t : Settings} (alike : s.Alike t) (o : Operation) :
    t.operationPackage o = s.operationPackage o := by
  rw [operationPackage, operationPackage, alike.outputPackage]

theorem Settings.operationDocument_alike {s t : Settings} (alike : s.Alike t) (o : Operation) :
    t.operationDocument o = s.operationDocument o := by
  have sameSource : t.fragmentSource o = s.fragmentSource o := by
    funext name
    rw [fragmentSource, fragmentSource, alike.fragment]
  rw [operationDocument, operationDocument, sameSource]

namespace Context

variable {c : Context} {t : Settings}

/-- Operations have the same types, with the text of their documents. -/
theorem operationType_under (alike : c.settings.Alike t) (o : Operation) :
    (c.under t).operationType o = c.operationType o := by
  have inner (name : String) : (c.reserve name).settings.Alike t := alike
  simp only [operationType, operationTypeWith, settings_under, ← alike.semanticNames,
    Settings.operationPackage_alike alike, Settings.operationDocument_alike alike, reserve_under,
    variablesType_under (inner _), shape_under (inner _), dataWrapper, ← alike.policy]

end Context

namespace Item

/-- Alike settings build every item alike, except the one that lists the scalars. -/
theorem build_under {c : Context} {t : Settings} (alike : c.settings.Alike t) {i : Item}
    (notScalars : i ≠ .scalars) : i.build (c.under t) = i.build c := by
  cases i with
  | fragment f => rw [build, build, Context.fragmentType_under alike]
  | declaration d =>
    cases d with
    | enum name description values => rw [build, build, Context.enumType_under alike]
    | inputObject name description fields => rw [build, build, Context.inputType_under alike]
    | scalar name description => rfl
  | scalars => exact absurd rfl notScalars
  | operation o => rw [build, build, Context.operationType_under alike]

/-- The order of fragments and of declared types with distinct names does not matter to the type
of any fragment, declared type or operation, nor to the error if there is none. -/
theorem build_perm (config : Config) (base : String) {d d' : Document}
    (fragments : d.fragments.Perm d'.fragments)
    (distinctFragments : (d.fragments.map (·.fragmentName)).Nodup)
    (declarations : d.declarations.Perm d'.declarations)
    (distinctDeclarations : (d.declarations.map (·.name)).Nodup)
    (reserved path : List String) {i : Item} (notScalars : i ≠ .scalars) :
    i.build { settings := .ofConfig config d base, reserved, path } =
      i.build { settings := .ofConfig config d' base, reserved, path } := by
  have alike := Settings.alike_ofConfig config base fragments distinctFragments declarations
    distinctDeclarations
  exact (build_under (c := ⟨.ofConfig config d base, reserved, path⟩) alike notScalars).symm

end Item

namespace Sample

def episodeEnum : Declaration := .enum "Episode" none []

def dateScalar : Declaration := .scalar "Date" none

def releaseInput : Declaration := .inputObject "Release" none [⟨"on", none, "Date!", none⟩]

/-- Fragments that spread each other, and declared types of all kinds. -/
def crewDocument : Document :=
  { fragments := [heroFragment, namedFragment, entityFragment]
    declarations := [episodeEnum, dateScalar, releaseInput] }

def crewShuffled : Document :=
  { fragments := [entityFragment, heroFragment, namedFragment]
    declarations := [releaseInput, episodeEnum, dateScalar] }

/-- An operation that looks up fragments, a scalar, an enum and an input object. -/
def heroReleased : Operation :=
  { operationName := "HeroReleased", operationType := "query", source := "query HeroReleased"
    parameters := [⟨"episode", "Episode"⟩, ⟨"release", "Release!"⟩]
    fields := [spreading "hero" "Character" "Hero", .leaf "released" "[Date!]"]
    filePath := "src/main/graphql/com/example/HeroReleased.graphql"
    fragmentsReferenced := ["Entity", "Hero"], operationId := "" }

theorem exists_type_heroReleased :
    ∃ type, (Context.operationType { settings := .ofConfig {} crewDocument "" } heroReleased) =
      .ok type := by
  have few : Context.freeNames
      { settings := .ofConfig {} crewDocument "", reserved := ["HeroReleasedQuery"] }
      dataTypeName { fields := heroReleased.fields } < 20 := by
    decide +kernel
  exact Context.exists_operationType "HeroReleasedQuery" rfl (by decide +kernel)
    (by decide +kernel) (by decide +kernel) (by decide +kernel) few (by decide +kernel)

/-- The operation has the same type when the definitions are shuffled. -/
theorem build_perm_crewShuffled :
    ∃ type, (Item.operation heroReleased).build { settings := .ofConfig {} crewDocument "" } =
        .ok (some (.operation type)) ∧
      (Item.operation heroReleased).build { settings := .ofConfig {} crewShuffled "" } =
        .ok (some (.operation type)) := by
  obtain ⟨type, made⟩ := exists_type_heroReleased
  have built : (Item.operation heroReleased).build { settings := .ofConfig {} crewDocument "" } =
      .ok (some (.operation type)) := Build.bind_eq_ok.mpr ⟨type, made, rfl⟩
  have fragments : crewDocument.fragments.Perm crewShuffled.fragments :=
    show ([heroFragment, namedFragment] ++ [entityFragment]).Perm _ from List.perm_append_comm
  have declarations : crewDocument.declarations.Perm crewShuffled.declarations :=
    show ([episodeEnum, dateScalar] ++ [releaseInput]).Perm _ from List.perm_append_comm
  have same := Item.build_perm {} "" fragments (by decide) declarations (by decide) [] []
    (i := .operation heroReleased) (by simp)
  exact ⟨type, built, same.symm.trans built⟩

end Sample

end QueryModel
