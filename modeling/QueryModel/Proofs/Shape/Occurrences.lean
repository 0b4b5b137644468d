import QueryModel.Proofs.Shape.Conditions
import QueryModel.Proofs.TypeExpr.Layers

/-!
# Properties follow the first occurrence

A response name may occur several times at a level.  Flattening puts the occurrences in order:
first those of the selection itself, then those of the fragments that its spreads visit, depth
first and without the fragments on the chain (`Settings.Visits`).

Merging walks over the occurrences and updates one entry for each response name.  Seen from the
whole list, it groups the occurrences by response name, in the order of the first occurrences
(`responseNames_mergeFields`).  The parts of an entry follow different rules.  The first occurrence
gives the names, the texts and the type.  One occurrence with a selection makes the property an
object, and all of them have to carry conditions before a mark on the type stops to count.  The
selections below all occurrences are joined in order.  `Property.Follows` says this of one
property, and `properties_follow` of all properties of fields in a shape that was built.
-/

namespace QueryModel

/-! ## Occurrences at a level -/

namespace Settings

/-- The fragments that spreads visit, depth first.  Those on the chain are left out, and a fragment
is on the chain while its own spreads are visited. -/
inductive Visits (s : Settings) : List String → List String → List Fragment → Prop
  | nil {chain : List String} : Visits s chain [] []
  | onChain {chain : List String} {spread : String} {rest : List String}
      {visited : List Fragment} :
      spread ∈ chain → Visits s chain rest visited → Visits s chain (spread :: rest) visited
  | expand {chain : List String} {spread : String} {rest : List String} {f : Fragment}
      {inner later : List Fragment} :
      spread ∉ chain → s.fragment? spread = some f →
        Visits s (spread :: chain) f.fragmentSpreads inner → Visits s chain rest later →
        Visits s chain (spread :: rest) (f :: (inner ++ later))

theorem Visits.unique {s : Settings} {chain spreads : List String} {a b : List Fragment}
    (first : s.Visits chain spreads a) (second : s.Visits chain spreads b) : a = b := by
  induction first generalizing b with
  | nil =>
    cases second
    rfl
  | onChain known _ ih =>
    cases second with
    | onChain _ rest => exact ih rest
    | expand fresh => exact absurd known fresh
  | expand fresh found _ _ ihInner ihLater =>
    cases second with
    | onChain known => exact absurd known fresh
    | expand _ foundAgain inner later =>
      rw [found] at foundAgain
      cases foundAgain
      rw [ihInner inner, ihLater later]

/-- Spreads contribute the fields of the fragments that they visit, in that order. -/
theorem visits_of_contributions {s : Settings} {path : String} {chain spreads : List String}
    {level : Level} (contributed : s.contributions path chain spreads = .ok level) :
    ∃ visited, s.Visits chain spreads visited ∧ level.fields = visited.flatMap (·.fields) := by
  fun_induction contributions s path chain spreads generalizing level with
  | case1 =>
    cases contributed
    exact ⟨[], .nil, rfl⟩
  | case2 => cases contributed
  | case3 chain spread rest fresh f found smaller ihInner ihLater =>
    obtain ⟨innerLevel, innerMade, contributed⟩ := Build.bind_eq_ok.mp contributed
    obtain ⟨laterLevel, laterMade, contributed⟩ := Build.bind_eq_ok.mp contributed
    cases contributed
    obtain ⟨inner, innerVisits, innerFields⟩ := ihInner innerMade
    obtain ⟨later, laterVisits, laterFields⟩ := ihLater laterMade
    refine ⟨f :: (inner ++ later), .expand (by simpa using fresh) found innerVisits laterVisits, ?_⟩
    rw [Level.fields_append, Level.fields_append, innerFields, laterFields, List.append_assoc,
      List.flatMap_cons, List.flatMap_append]
    rfl
  | case4 chain spread rest known ih =>
    obtain ⟨visited, visits, fields⟩ := ih contributed
    exact ⟨visited, .onChain (by simpa using known) visits, fields⟩

end Settings

/-- The occurrences of fields at the level of a selection whose spreads visit some fragments. -/
def Selection.occurrences (sel : Selection) (visited : List Fragment) : List Field :=
  sel.fields ++ visited.flatMap (·.fields)

theorem Context.visits_of_flatten {c : Context} {chain : List String} {sel : Selection}
    {level : Level} (flattened : c.flatten chain sel = .ok level) :
    ∃ visited, c.settings.Visits chain sel.spreads visited ∧
      level.fields = sel.occurrences visited := by
  obtain ⟨contributed, made, flattened⟩ := Build.bind_eq_ok.mp flattened
  cases flattened
  obtain ⟨visited, visits, fields⟩ := Settings.visits_of_contributions made
  refine ⟨visited, visits, ?_⟩
  rw [Level.fields_append, fields]
  rfl

/-! ## Groups in the order of their first members -/

/-- Merging keeps the response names in the order in which they first occur. -/
theorem responseNames_mergeFields (fields : List Field) :
    (mergeFields fields).map (·.responseName) = (fields.map (·.responseName)).eraseDups := by
  induction fields using List.reverseRecOn with
  | nil => rfl
  | append_singleton fields f ih =>
    rw [mergeFields_concat, responseNames_mergeField, ih, List.map_append, List.eraseDups_append]
    by_cases known : f.responseName ∈ fields.map (·.responseName)
    · rw [if_pos (List.mem_eraseDups.mpr known), List.map_singleton, List.removeAll,
        List.filter_cons_of_neg (by simpa using known)]
      exact (List.append_nil _).symm
    · rw [if_neg (mt List.mem_eraseDups.mp known), List.map_singleton, List.removeAll,
        List.filter_cons_of_pos (by simpa using known)]
      rfl

/-! ## One property -/

/-- What fields of one response name ask of the type of the first: that it may be absent, if all of
them carry conditions. -/
def groupDemand (first : Field) (others : List Field) (shape : Option String) : Demand :=
  { optional := if (first :: others).all (·.isConditional) then some true else none
    deprecated := first.deprecated
    shape }

/-- A property of a shape follows the fields of its response name.  The type of the first of them is
`t`, and `c` is the context below the shape at that name. -/
structure Property.Follows (p : Property) (c : Context) (chain : List String) (shape : Shape)
    (first : Field) (others : List Field) (t : TypeExpr) : Prop where
  name : p.name = first.responseName
  fieldName : p.fieldName = first.fieldName
  description : p.description = first.description
  deprecationReason : p.deprecationReason = first.deprecationReason
  conditions : p.conditions = first.conditionList
  /-- One field with a selection makes the property an object. -/
  kind : p.kind =
    if (first :: others).any (·.hasSelection) then
      .object (nestedShapeName first.responseName t.isList)
    else .value
  /-- The type is that of the first field. -/
  type : c.resolveExpr (groupDemand first others p.kind.shape?) t = .ok p.type
  /-- It has the lists of the first field, with their marks. -/
  lists : List.Forall₂ MirrorsElement t.elements p.type.base.elements
  /-- It is marked as deprecated with the first field. -/
  deprecated : p.type.deprecated = first.deprecated
  optional : p.optional = true ↔
    t.isNonNull = false ∨ ∀ f ∈ first :: others, f.isConditional = true
  /-- The nested shape is built from the selections below all fields. -/
  nested : (∃ f ∈ first :: others, f.hasSelection = true) →
    ∃ nested, shape.nestedOf? p = some nested ∧
      c.shape chain (nestedShapeName first.responseName t.isList)
        (.joined ((first :: others).map (·.selection))) = .ok nested

namespace MergedField

variable {c : Context} {first : Field} {others : List Field} {t : TypeExpr}

theorem demand_ofGroup (first : Field) (others : List Field) (shape : Option String) :
    { (ofGroup first others).demand with shape } = groupDemand first others shape := by
  rw [demand, conditional_ofGroup, first_ofGroup, groupDemand]

theorem shapeName_ofGroup (others : List Field) (parsed : TypeExpr.parse first.typeName = .ok t) :
    (ofGroup first others).shapeName = nestedShapeName first.responseName t.isList := by
  rw [shapeName, first_ofGroup, Field.shapeName, isListType, parsed]

/-- The property of a group follows its fields, if its type and its nested shape do. -/
theorem follows_property {chain : List String} {shape : Shape} {type : ResolvedType}
    {kind : PropertyKind}
    (isKind : kind =
      if (first :: others).any (·.hasSelection) then
        .object (nestedShapeName first.responseName t.isList)
      else .value)
    (resolved : c.resolveExpr { (ofGroup first others).demand with shape := kind.shape? } t =
      .ok type)
    (nests : (ofGroup first others).hasSelection = true →
      ∃ nested, shape.nestedOf? ((ofGroup first others).property type kind) = some nested ∧
        c.shape chain (nestedShapeName first.responseName t.isList) (ofGroup first others).nested =
          .ok nested) :
    ((ofGroup first others).property type kind).Follows c chain shape first others t := by
  have mirrors := Context.mirrors_resolveExpr resolved
  have isFirst := first_ofGroup first others
  refine ⟨?_, ?_, ?_, ?_, ?_, isKind, ?_, mirrors.elements, ?_, ?_, ?_⟩
  · exact congrArg Field.responseName isFirst
  · exact congrArg Field.fieldName isFirst
  · exact congrArg Field.description isFirst
  · exact congrArg Field.deprecationReason isFirst
  · exact congrArg Field.conditionList isFirst
  · rw [← demand_ofGroup]
    exact resolved
  · exact mirrors.deprecated.trans (congrArg Field.deprecated isFirst)
  · rw [optional_property (Context.resolveExpr_eq_ok resolved).2, conditional_ofGroup,
      List.all_eq_true]
    exact or_comm
  · intro selects
    rw [← nested_ofGroup]
    apply nests
    rw [hasSelection_ofGroup, List.any_eq_true]
    exact selects

/-- The member of a group has a property that follows its fields. -/
theorem Yields.follows {chain : List String} {shape : Shape} {member : Member}
    (yields : (ofGroup first others).Yields c (fun m nested =>
      (c.push m.first.responseName).shape chain m.shapeName m.nested = .ok nested) member)
    (found : ∀ nested, member.nested = some nested →
      shape.nestedOf? member.property = some nested) :
    ∃ t, TypeExpr.parse first.typeName = .ok t ∧
      member.property.Follows (c.push first.responseName) chain shape first others t := by
  have isFirst := first_ofGroup first others
  cases yields with
  | value leaf resolved =>
    rw [isFirst] at resolved
    obtain ⟨t, parsed, resolved⟩ := Build.bind_eq_ok.mp resolved
    refine ⟨t, Context.parseType_eq_ok.mp parsed, follows_property ?_ resolved ?_⟩
    · rw [← hasSelection_ofGroup, leaf]
      rfl
    · intro selects
      rw [leaf] at selects
      cases selects
  | @object t type nested selects parsed free below resolved =>
    rw [isFirst] at parsed resolved below
    have parsed := Context.parseType_eq_ok.mp parsed
    rw [shapeName_ofGroup others parsed] at below resolved found ⊢
    refine ⟨t, parsed, follows_property ?_ resolved ?_⟩
    · rw [← hasSelection_ofGroup, selects]
      rfl
    · intro _
      exact ⟨nested, found nested rfl, below⟩

end MergedField

/-! ## All properties of fields -/

/-- Whether a property stands for a field and not for an inline fragment. -/
def Property.isField (p : Property) : Bool :=
  match p.kind with
  | .inlineFragment _ => false
  | _ => true

theorem forall₂_mem {α β : Type} {R : α → β → Prop} {as : List α} {bs : List β}
    (related : List.Forall₂ R as bs) :
    List.Forall₂ (fun a b => a ∈ as ∧ b ∈ bs ∧ R a b) as bs := by
  have inRight : List.Forall₂ (fun b a => b ∈ bs ∧ R a b) bs as :=
    (List.forall₂_and_left ..).mpr ⟨fun _ membership => membership, related.flip⟩
  exact (List.forall₂_and_left ..).mpr ⟨fun _ membership => membership, inRight.flip⟩

namespace Context

variable {c : Context} {chain : List String} {name : String} {sel : Selection}

/-- The members of the merged fields are the properties of fields, in order. -/
theorem Assembly.filter_isField {Below : Context → String → Selection → Shape → Prop}
    {level : Level} {fields inlines : List Member}
    (assembly : c.Assembly chain Below name sel level fields inlines) :
    (Shape.ofMembers c.settings name (fields ++ inlines)).properties.filter (·.isField) =
      fields.map (·.property) := by
  have fromFields : ∀ p ∈ fields.map (·.property), p.isField = true := by
    intro p membership
    obtain ⟨member, inFields, rfl⟩ := List.mem_map.mp membership
    obtain ⟨m, _, yields⟩ := exists_left_of_forall₂ assembly.fieldsYield inFields
    cases yields <;> rfl
  have fromInlines : ∀ p ∈ inlines.map (·.property), ¬ p.isField = true := by
    intro p membership
    obtain ⟨member, inInlines, rfl⟩ := List.mem_map.mp membership
    obtain ⟨i, _, yields⟩ := exists_left_of_forall₂ assembly.inlinesYield inInlines
    cases yields
    exact Bool.false_ne_true
  show ((fields ++ inlines).map (·.property)).filter (·.isField) = _
  rw [List.map_append, List.filter_append, List.filter_eq_self.mpr fromFields,
    List.filter_eq_nil_iff.mpr fromInlines, List.append_nil]

/-- The spreads of a selection whose shape was built visit one list of fragments.  The shape has one
property of a field for each response name that occurs at its level, in the order of the first
occurrences, and the property follows all occurrences of the name. -/
theorem properties_follow {shape : Shape} (built : c.shape chain name sel = .ok shape) :
    (∃! visited, c.settings.Visits chain sel.spreads visited) ∧
      ∀ visited, c.settings.Visits chain sel.spreads visited →
        List.Forall₂ (fun responseName p => ∃ first others t,
            fieldsNamed responseName (sel.occurrences visited) = first :: others ∧
            TypeExpr.parse first.typeName = .ok t ∧
            p.Follows ((c.reserve name).push responseName) chain shape first others t)
          ((sel.occurrences visited).map (·.responseName)).eraseDups
          (shape.properties.filter (·.isField)) := by
  obtain ⟨level, fields, inlines, assembly, rfl⟩ := shape_eq_ok_iff.mp built
  obtain ⟨visited, visits, isLevel⟩ := visits_of_flatten assembly.flattened
  refine ⟨⟨visited, visits, fun other others => others.unique visits⟩, fun other others => ?_⟩
  have nests :
      c.Assembly chain (BuiltWith chain fun _ _ _ _ => True) name sel level fields inlines :=
    assembly.mono fun below => ⟨below, trivial⟩
  rw [others.unique visits, assembly.filter_isField, ← isLevel, ← responseNames_mergeFields,
    List.forall₂_map_left_iff, List.forall₂_map_right_iff]
  refine (forall₂_mem assembly.fieldsYield).imp ?_
  rintro m member ⟨merged, inFields, yields⟩
  obtain ⟨first, others, group, rfl⟩ := mem_mergeFields.mp merged
  rw [MergedField.responseName_ofGroup]
  obtain ⟨t, parsed, follows⟩ := yields.follows fun nested isNested =>
    nests.nested?_eq_some (List.mem_append_left _ inFields) isNested
  exact ⟨first, others, t, group, parsed, follows⟩

end Context

namespace Sample

/-- Heroes under a condition. -/
def heroesIf : Field :=
  { Field.holding "hero" "[Character!]!" [.leaf "id" "ID!"] with
    conditions := some [⟨"withHero", false⟩] }

/-- Another declaration of the name, with another type. -/
def heroAgain : Field := .holding "hero" "Character" [.leaf "name" "String!"]

/-- Two declarations of one name with another field between them, which a fragment declares
again. -/
def heroesTwice : Selection :=
  { fields := [heroesIf, .leaf "id" "ID", heroAgain], spreads := ["Entity"] }

theorem properties_follow_heroesTwice :
    ∃ shape hero id, context.shape [] "Data" heroesTwice = .ok shape ∧
      shape.properties.filter (·.isField) = [hero, id] ∧
      hero.Follows ((context.reserve "Data").push "hero") [] shape heroesIf [heroAgain]
        (.nonNull (.list (.nonNull (.named "Character")))) ∧
      id.Follows ((context.reserve "Data").push "id") [] shape (.leaf "id" "ID") [.leaf "id" "ID!"]
        (.named "ID") := by
  have few : context.freeNames "Data" heroesTwice < 20 := by decide +kernel
  obtain ⟨shape, built⟩ : ∃ shape, context.shape [] "Data" heroesTwice = .ok shape :=
    Context.exists_shape few (by decide +kernel)
  -- the fragment spreads itself, and is on the chain then
  have again : context.settings.Visits ["Entity"] ["Entity"] [] :=
    .onChain (List.mem_singleton_self _) .nil
  have visits : context.settings.Visits [] ["Entity"] (fragment :: ([] ++ [])) :=
    .expand List.not_mem_nil rfl again .nil
  have follow := (Context.properties_follow built).2 [fragment] visits
  have names : ((heroesTwice.occurrences [fragment]).map (·.responseName)).eraseDups =
      ["hero", "id"] := by decide
  have heroes : TypeExpr.parse "[Character!]!" =
      .ok (.nonNull (.list (.nonNull (.named "Character")))) := by decide +kernel
  have ids : TypeExpr.parse "ID" = .ok (.named "ID") := by decide +kernel
  rw [names] at follow
  generalize isField : shape.properties.filter (·.isField) = properties at follow
  obtain _ | ⟨⟨_, _, _, group, parsed, heroFollows⟩, rest⟩ := follow
  obtain _ | ⟨⟨_, _, _, groupId, parsedId, idFollows⟩, _ | _⟩ := rest
  cases group
  cases groupId
  cases heroes.symm.trans parsed
  cases ids.symm.trans parsedId
  exact ⟨shape, _, _, built, isField, heroFollows, idFollows⟩

end Sample

end QueryModel
