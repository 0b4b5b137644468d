import QueryModel.Proofs.Compile.Outcomes
import QueryModel.Proofs.Compile.Setters
import QueryModel.Proofs.Shape.Assembly

/-!
# References to classes

Types refer to classes by package and name.  A reference is good when somebody provides the
class.  The target of a scalar is provided from outside.  The class of an enum or an input
object is provided by the run itself, which generates it.

Two views of the declared types meet here.  References come from the resolver, which looks
names up in the settings, where the last declaration of a name counts.  Types are generated
from the list of declarations, where the first of a class wins.

* `Settings.Knows` says which classes the resolver can refer to, and `Settings.Covers` that a
  reference is to one of these.  Everything that an item builds is covered
  (`covers_of_build`).
* When nothing went wrong, every declared type was generated, and no class twice.  So a
  class that the settings know and that is no target is generated exactly once
  (`class_provided`).
-/

namespace QueryModel

/-! ## Lists -/

theorem Build.forall₂_mapM {α β : Type} {f : α → Build β} {xs : List α} {ys : List β}
    (made : xs.mapM f = .ok ys) : List.Forall₂ (fun x y => f x = .ok y) xs ys := by
  induction xs generalizing ys with
  | nil =>
    cases made
    exact .nil
  | cons x xs ih =>
    rw [List.mapM_cons] at made
    obtain ⟨first, makes, made⟩ := Build.bind_eq_ok.mp made
    obtain ⟨others, makeOthers, made⟩ := Build.bind_eq_ok.mp made
    cases made
    exact .cons makes (ih makeOthers)

/-- Of elements with distinct keys only one has the key of a given one. -/
theorem filter_key_eq_singleton {α κ : Type} [DecidableEq κ] {k : α → κ} {q : α → Bool}
    {l : List α} {x : α} (distinct : (l.map k).Nodup) (membership : x ∈ l) (holds : q x = true) :
    l.filter (fun y => q y && k y == k x) = [x] := by
  induction l with
  | nil => cases membership
  | cons y ys ih =>
    rw [List.map_cons, List.nodup_cons] at distinct
    obtain ⟨apart, distinct⟩ := distinct
    rcases List.mem_cons.mp membership with rfl | later
    · have none : ys.filter (fun y => q y && k y == k x) = [] := by
        rw [List.filter_eq_nil_iff]
        intro z inTail same
        rw [Bool.and_eq_true, beq_iff_eq] at same
        exact apart (List.mem_map.mpr ⟨z, inTail, same.2⟩)
      rw [List.filter_cons_of_pos (by simp [holds]), none]
    · have other : k y ≠ k x := by
        intro same
        exact apart (List.mem_map.mpr ⟨x, later, same.symm⟩)
      rw [List.filter_cons_of_neg (by simp [other]), ih distinct later]

/-! ## Classes that the settings know -/

namespace TypeRef

/-- The class that a reference leads to, below all list layers. -/
def class? : TypeRef → Option ClassName
  | .named c => some c
  | .list { base, .. } => base.class?
  | .primitive _ => none
  | .boxed _ => none
  | .text => none
  | .shape _ => none

@[simp]
theorem class?_list (element : ResolvedType) : (list element).class? = element.base.class? := by
  rw [class?]

@[simp]
theorem class?_box (r : TypeRef) : r.box.class? = r.class? := by
  cases r <;> rfl

/-- A target that leads to a class is the name of the class. -/
theorem class?_ofTarget {target : String} {cls : ClassName}
    (leads : (ofTarget target).class? = some cls) : ofTarget target = .named cls := by
  refine ofTarget_induction (P := fun r => r.class? = some cls → r = .named cls) ?_ ?_ target leads
  · have plain : ∀ entry ∈ wellKnownTargets, entry.2.class? = none := by decide
    intro entry membership leads
    rw [plain entry membership] at leads
    cases leads
  · intro named leads
    cases leads
    rfl

end TypeRef

namespace Settings

/-- The classes that a name can resolve to. -/
inductive Knows (s : Settings) : ClassName → Prop
  | target {entry : String × String} {cls : ClassName} :
      entry ∈ s.scalars.entries → TypeRef.ofTarget entry.2 = .named cls → Knows s cls
  | declared {name : String} {decl : Declaration} :
      s.declaration? name = some decl → decl.isGenerated = true → Knows s ⟨s.typesPackage, name⟩

/-- A reference leads to no class, or to one that the settings know. -/
def Covers (s : Settings) (ref : TypeRef) : Prop := ∀ cls, ref.class? = some cls → s.Knows cls

theorem covers_of_none {s : Settings} {ref : TypeRef} (plain : ref.class? = none) :
    s.Covers ref := by
  intro cls leads
  rw [plain] at leads
  cases leads

theorem covers_ofTarget {s : Settings} {name target : String}
    (membership : (name, target) ∈ s.scalars.entries) : s.Covers (.ofTarget target) := by
  intro cls leads
  exact .target membership (TypeRef.class?_ofTarget leads)

end Settings

/-! ## Resolving -/

namespace Context

variable {c : Context} {shape : Option String} {optional : Bool}

/-- What a name is found as leads to the target of a scalar, to a declared type or to no class. -/
theorem covers_lookup {name : String} {ref : TypeRef}
    (found : c.lookup name optional = .ok ref) : c.settings.Covers ref := by
  rcases lookup_cases found with
    ⟨_, rfl⟩ | ⟨p, _, rfl⟩ | ⟨_, ⟨target, mapped, rfl⟩ | ⟨_, declared, isGenerated, rfl⟩⟩
  · exact Settings.covers_of_none rfl
  · cases optional <;> exact Settings.covers_of_none rfl
  · exact Settings.covers_ofTarget (mem_of_lookup_eq_some mapped)
  · rintro _ ⟨⟩
    exact .declared declared isGenerated

theorem covers_nameRef {name : String} {ref : TypeRef}
    (found : c.nameRef shape name optional = .ok ref) : c.settings.Covers ref := by
  cases shape with
  | none => exact covers_lookup found
  | some shape =>
    cases found
    exact Settings.covers_of_none rfl

theorem covers_resolveElement {t : TypeExpr} {type : ResolvedType}
    (resolved : c.resolveElement shape t = .ok type) : c.settings.Covers type.base := by
  fun_induction resolveElement c shape t generalizing type with
  | case1 name =>
    obtain ⟨ref, found, resolved⟩ := Build.bind_eq_ok.mp resolved
    cases resolved
    simpa [Settings.Covers, elementType] using covers_nameRef found
  | case2 inner ih =>
    obtain ⟨element, found, resolved⟩ := Build.bind_eq_ok.mp resolved
    cases resolved
    simpa [Settings.Covers, elementType] using ih found
  | case3 name =>
    obtain ⟨ref, found, resolved⟩ := Build.bind_eq_ok.mp resolved
    cases resolved
    simpa [Settings.Covers, elementType] using covers_nameRef found
  | case4 inner ih =>
    obtain ⟨element, found, resolved⟩ := Build.bind_eq_ok.mp resolved
    cases resolved
    simpa [Settings.Covers, elementType] using ih found
  | case5 => cases resolved

theorem covers_baseRef {t : TypeExpr} {ref : TypeRef}
    (found : c.baseRef shape optional t = .ok ref) : c.settings.Covers ref := by
  cases t with
  | named name => exact covers_nameRef found
  | list inner =>
    obtain ⟨element, resolved, found⟩ := Build.bind_eq_ok.mp found
    cases found
    simpa [Settings.Covers] using covers_resolveElement resolved
  | nonNull inner => cases found

theorem covers_resolveExpr {d : Demand} {t : TypeExpr} {type : ResolvedType}
    (resolved : c.resolveExpr d t = .ok type) : c.settings.Covers type.base := by
  obtain ⟨base, found, resolved⟩ := Build.bind_eq_ok.mp resolved
  cases resolved
  exact covers_baseRef found

/-- The base of a resolved type is covered, through every layer of the type. -/
theorem covers_resolve {d : Demand} {typeName : String} {type : ResolvedType}
    (resolved : c.resolve d typeName = .ok type) : c.settings.Covers type.base := by
  obtain ⟨t, _, resolved⟩ := Build.bind_eq_ok.mp resolved
  exact covers_resolveExpr resolved

end Context

/-! ## Builders and shapes -/

/-- The references of a shape itself. -/
def Shape.refs (shape : Shape) : List TypeRef :=
  shape.properties.map (·.type.base) ++ shape.accessors.map (·.returns.base) ++
    (shape.builder.map (·.refs)).getD []

/-- Accessors and setters refer to what the properties refer to. -/
theorem Shape.mem_refs_ofMembers {s : Settings} {name : String} {members : List Member}
    {ref : TypeRef} (membership : ref ∈ (ofMembers s name members).refs) :
    ∃ member ∈ members, ref = member.property.type.base := by
  have fromProperties : ∀ {ref}, ref ∈ (members.map (·.property)).map (·.type.base) →
      ∃ member ∈ members, ref = member.property.type.base := by
    intro ref membership
    rw [List.map_map] at membership
    obtain ⟨member, inMembers, rfl⟩ := List.mem_map.mp membership
    exact ⟨member, inMembers, rfl⟩
  simp only [refs, ofMembers, List.mem_append] at membership
  rcases membership with (property | accessor) | setter
  · exact fromProperties property
  · split at accessor
    · rw [List.map_map] at accessor
      exact fromProperties accessor
    · cases accessor
  · split at setter
    · rw [Option.map_some, Option.getD_some,
        Builder.refs_foldl Builder.adds_setter] at setter
      exact fromProperties setter
    · cases setter

/-- The type of a member is resolved, so its class is covered. -/
theorem MergedField.Yields.covers {c : Context} {Nested : MergedField → Shape → Prop}
    {m : MergedField} {member : Member} (yields : m.Yields c Nested member) :
    c.settings.Covers member.property.type.base := by
  cases yields with
  | value _ resolved =>
    show (c.push m.first.responseName).settings.Covers _
    exact Context.covers_resolve resolved
  | object _ _ _ _ resolved =>
    show (c.push m.first.responseName).settings.Covers _
    exact Context.covers_resolveExpr resolved

theorem InlineYields.covers {c : Context} {Nested : InlineFragment → Shape → Prop}
    {i : InlineFragment} {member : Member} (yields : InlineYields c Nested i member) :
    c.settings.Covers member.property.type.base := by
  cases yields
  exact Settings.covers_of_none rfl

/-- All that is mentioned in a shape and in the shapes below it is covered. -/
theorem Context.covers_shape {c : Context} {chain : List String} {name : String}
    {sel : Selection} {root : Shape} (built : c.shape chain name sel = .ok root) :
    root.Everywhere fun shape => ∀ ref ∈ shape.refs, c.settings.Covers ref := by
  refine shape_everywhere (P := fun s shape => ∀ ref ∈ shape.refs, s.Covers ref)
    (fun assembly => ?_) (fun _ _ covered => covered) built
  intro ref membership
  obtain ⟨member, inMembers, rfl⟩ := Shape.mem_refs_ofMembers membership
  rcases assembly.member_cases inMembers with ⟨m, _, _, yields⟩ | ⟨i, _, _, yields⟩
  · exact yields.covers
  · exact yields.covers

/-! ## Generated types -/

namespace GeneratedType

/-- A reference stands somewhere in a generated type. -/
def Mentions (ref : TypeRef) : GeneratedType → Prop
  | .fragment t => ∃ shape, Relation.ReflTransGen Shape.Nests t.shape shape ∧ ref ∈ shape.refs
  | .enum _ => False
  | .inputObject t => ref ∈ t.fields.map (·.type.base) ∨ ref ∈ t.builder.refs
  | .scalars t => ref ∈ t.constants.map (·.target)
  | .operation t =>
    (∃ shape, Relation.ReflTransGen Shape.Nests t.data shape ∧ ref ∈ shape.refs) ∨
      (∃ parameters, t.parameters = some parameters ∧
        ref ∈ parameters.members.map (·.type.base)) ∨
      ref = t.dataWrapper.base ∨ ref ∈ t.builder.refs

/-- Whether a generated type is that of an enum or an input object. -/
def isDeclared : GeneratedType → Bool
  | .enum _ => true
  | .inputObject _ => true
  | _ => false

end GeneratedType

namespace Context

variable {c : Context} {ref : TypeRef}

theorem covers_fragmentType {f : Fragment} {t : FragmentType} (built : c.fragmentType f = .ok t)
    (mentions : (GeneratedType.fragment t).Mentions ref) : c.settings.Covers ref := by
  obtain ⟨shape, shaped, made⟩ := Build.bind_eq_ok.mp built
  cases made
  obtain ⟨inner, below, membership⟩ := mentions
  exact covers_shape shaped inner below ref membership

theorem covers_inputType {name : String} {description : Option String} {fields : List InputField}
    {t : InputType} (built : c.inputType name description fields = .ok t)
    (mentions : (GeneratedType.inputObject t).Mentions ref) : c.settings.Covers ref := by
  obtain ⟨members, makes, made⟩ := Build.bind_eq_ok.mp built
  cases made
  have covered : ∀ ref ∈ members.map (·.type.base), c.settings.Covers ref := by
    intro ref membership
    obtain ⟨member, inMembers, rfl⟩ := List.mem_map.mp membership
    obtain ⟨f, _, makesMember⟩ := exists_left_of_forall₂ (Build.forall₂_mapM makes) inMembers
    obtain ⟨type, resolved, made⟩ := Build.bind_eq_ok.mp makesMember
    cases made
    show (((c.reserve name).push name).push f.name).settings.Covers _
    exact covers_resolve resolved
  have sameRefs : (Builder.ofInput name members).refs = members.map (·.type.base) := by
    rw [Builder.ofInput, Builder.refs_foldl Builder.adds_defaultValue]
    rfl
  rcases mentions with field | setter
  · exact covered ref field
  · rw [sameRefs] at setter
    exact covered ref setter

theorem covers_scalarsType {t : ScalarsType} (built : c.scalarsType? = some t)
    (mentions : (GeneratedType.scalars t).Mentions ref) : c.settings.Covers ref := by
  rw [scalarsType?] at built
  split at built
  · cases built
  · cases built
    obtain ⟨constant, membership, rfl⟩ := List.mem_map.mp mentions
    obtain ⟨entry, inScalars, rfl⟩ := List.mem_map.mp membership
    exact Settings.covers_ofTarget inScalars

theorem covers_variablesType {vs : List Variable} {t : VariablesType}
    (built : c.variablesType? vs = .ok (some t)) :
    ∀ ref ∈ t.members.map (·.type.base), c.settings.Covers ref := by
  intro ref membership
  rw [variablesType?] at built
  split at built
  · cases built
  · obtain ⟨members, makes, made⟩ := Build.bind_eq_ok.mp built
    cases made
    obtain ⟨member, inMembers, rfl⟩ := List.mem_map.mp membership
    obtain ⟨v, _, makesMember⟩ := exists_left_of_forall₂ (Build.forall₂_mapM makes) inMembers
    obtain ⟨type, resolved, made⟩ := Build.bind_eq_ok.mp makesMember
    cases made
    show ((c.push variablesTypeName).push v.name).settings.Covers _
    exact covers_resolve resolved

theorem covers_operationType {o : Operation} {t : OperationType}
    (built : c.operationType o = .ok t)
    (mentions : (GeneratedType.operation t).Mentions ref) : c.settings.Covers ref := by
  obtain ⟨kind, package, document, parameters, data, _, _, _, typed, shaped, rfl⟩ :=
    operationType_eq_ok.mp built
  rcases mentions with ⟨inner, below, membership⟩ | ⟨t, given, membership⟩ | rfl | setter
  · exact covers_shape shaped inner below ref membership
  · cases given
    exact covers_variablesType typed ref membership
  · exact Settings.covers_of_none rfl
  · cases parameters with
    | none => cases setter
    | some t =>
      have sameRefs : (Builder.ofVariables (operationTypeName o.operationName o.filePath kind
          c.settings.semanticNames) (some t)).refs = t.members.map (·.type.base) := by
        rw [Builder.ofVariables, Builder.refs_foldl Builder.adds_setter]
        rfl
      rw [sameRefs] at setter
      exact covers_variablesType typed ref setter

end Context

/-- What an item builds refers only to classes that the settings know. -/
theorem Item.covers_of_build {c : Context} {i : Item} {t : GeneratedType} {ref : TypeRef}
    (built : i.build c = .ok (some t)) (mentions : t.Mentions ref) : c.settings.Covers ref := by
  cases i with
  | fragment f =>
    obtain ⟨type, makes, made⟩ := Build.bind_eq_ok.mp built
    cases made
    exact Context.covers_fragmentType makes mentions
  | declaration decl =>
    cases decl with
    | enum name description values =>
      cases built
      cases mentions
    | inputObject name description fields =>
      obtain ⟨type, makes, made⟩ := Build.bind_eq_ok.mp built
      cases made
      exact Context.covers_inputType makes mentions
    | scalar name description => cases built
  | scalars =>
    obtain ⟨type, makes, rfl⟩ := Option.map_eq_some_iff.mp (Except.ok.inj built)
    exact Context.covers_scalarsType makes mentions
  | operation o =>
    obtain ⟨type, makes, made⟩ := Build.bind_eq_ok.mp built
    cases made
    exact Context.covers_operationType makes mentions

/-! ## Runs without errors -/

namespace Compilation

variable {s : Settings} {d : Document}

/-- What is generated was built from an item of the document. -/
theorem exists_item_of_generated {t : GeneratedType} (generated : t ∈ (ofDocument s d).generated) :
    ∃ i ∈ d.items s, i.build { settings := s } = .ok (some t) := by
  obtain ⟨o, membership, generates⟩ := List.mem_filterMap.mp generated
  rw [outcomes_ofDocument] at membership
  obtain ⟨i, inItems, before, rfl⟩ := Item.mem_outcomes membership
  exact ⟨i, inItems, (Item.generated_outcome.mp generates).1⟩

/-- When nothing went wrong, every item generates what it builds. -/
theorem exists_generated_of_item (clean : (ofDocument s d).diagnostics = []) {i : Item}
    (inItems : i ∈ d.items s) :
    ∃ t ∈ (ofDocument s d).generated, i.build { settings := s } = .ok (some t) := by
  obtain ⟨before, after, split⟩ := List.append_of_mem inItems
  have place := Item.getElem?_outcomes { settings := s } before after i
  rw [← split, ← outcomes_ofDocument] at place
  have membership := List.mem_of_getElem? place
  rcases decided_outcomes membership with ⟨t, generates, _⟩ | ⟨_, e, wrong⟩
  · exact ⟨t, List.mem_filterMap.mpr ⟨_, membership, generates⟩,
      (Item.generated_outcome.mp generates).1⟩
  · have listed : e ∈ (ofDocument s d).diagnostics :=
      List.mem_flatMap.mpr ⟨_, membership, by rw [wrong]; exact List.mem_singleton_self e⟩
    rw [clean] at listed
    cases listed

/-- When nothing went wrong, a declared type is generated under its name. -/
theorem exists_declared (clean : (ofDocument s d).diagnostics = []) {decl : Declaration}
    (declared : decl ∈ d.declarations) (isGenerated : decl.isGenerated = true) :
    ∃ t ∈ (ofDocument s d).generated,
      t.isDeclared = true ∧ t.className = ⟨s.typesPackage, decl.name⟩ := by
  have inItems : Item.declaration decl ∈ d.items s := by
    simp [Document.items, declared, isGenerated]
  obtain ⟨t, generated, built⟩ := exists_generated_of_item clean inItems
  refine ⟨t, generated, ?_⟩
  cases decl with
  | enum name description values =>
    cases built
    exact ⟨rfl, rfl⟩
  | inputObject name description fields =>
    obtain ⟨type, makes, made⟩ := Build.bind_eq_ok.mp built
    obtain ⟨members, _, type_eq⟩ := Build.bind_eq_ok.mp makes
    cases type_eq
    cases made
    exact ⟨rfl, rfl⟩
  | scalar name description => cases isGenerated

/-- When nothing went wrong, every class that a generated type refers to is the target of a
scalar or the class of exactly one generated enum or input object. -/
theorem class_provided {config : Config} {base : String}
    (clean : (ofDocument (.ofConfig config d base) d).diagnostics = []) {t : GeneratedType}
    (generated : t ∈ (ofDocument (.ofConfig config d base) d).generated) {ref : TypeRef}
    (mentions : t.Mentions ref) {cls : ClassName} (leads : ref.class? = some cls) :
    (∃ entry ∈ (Settings.ofConfig config d base).scalars.entries,
      TypeRef.ofTarget entry.2 = .named cls) ∨
    ∃ u, (ofDocument (.ofConfig config d base) d).generated.filter
      (fun u => u.isDeclared && u.className == cls) = [u] := by
  obtain ⟨i, _, built⟩ := exists_item_of_generated generated
  cases Item.covers_of_build built mentions cls leads with
  | target membership isTarget => exact .inl ⟨_, membership, isTarget⟩
  | @declared name decl found isGenerated =>
    right
    -- the last declaration of the name is one of the list, and all of the list are generated
    have declared : (name, decl) ∈ d.declarations.map fun t => (t.name, t) := by
      rcases Dict.mem_of_get?_insertAll found with absent | membership
      · cases absent
      · exact membership
    obtain ⟨_, inList, same⟩ := List.mem_map.mp declared
    cases same
    obtain ⟨u, generatesIt, isDeclared, named⟩ := exists_declared clean inList isGenerated
    refine ⟨u, ?_⟩
    rw [← named]
    exact filter_key_eq_singleton (nodup_classes_ofDocument _ d) generatesIt isDeclared

end Compilation

namespace Sample

/-- A document with an input object that refers to an enum and to a scalar. -/
def reviews : Document :=
  { declarations :=
      [.enum "Episode" none [], .scalar "Date" none,
        .inputObject "Review" none
          [⟨"episodes", none, "[Episode!]!", none⟩, ⟨"written", none, "Date", none⟩]] }

def compiledReviews : Compilation := .ofDocument (.ofConfig {} reviews "com.example") reviews

theorem class_provided_reviews :
    compiledReviews.diagnostics = [] ∧ ∃ t ∈ compiledReviews.generated, ∃ ref, t.Mentions ref ∧
      ref.class? = some ⟨"com.example.type", "Episode"⟩ ∧
      ((∃ entry ∈ (Settings.ofConfig {} reviews "com.example").scalars.entries,
          TypeRef.ofTarget entry.2 = .named ⟨"com.example.type", "Episode"⟩) ∨
        ∃ u, compiledReviews.generated.filter
          (fun u => u.isDeclared && u.className == ⟨"com.example.type", "Episode"⟩) = [u]) := by
  have clean : compiledReviews.diagnostics = [] := by decide +kernel
  have refers : (compiledReviews.generated.any fun
      | .inputObject t =>
        t.fields.any fun f => f.type.base.class? == some ⟨"com.example.type", "Episode"⟩
      | _ => false) = true := by
    decide +kernel
  obtain ⟨t, generated, has⟩ := List.any_eq_true.mp refers
  cases t with
  | inputObject t =>
    obtain ⟨f, inFields, leads⟩ := List.any_eq_true.mp has
    have mentions : (GeneratedType.inputObject t).Mentions f.type.base :=
      .inl (List.mem_map.mpr ⟨f, inFields, rfl⟩)
    exact ⟨clean, _, generated, _, mentions, beq_iff_eq.mp leads,
      Compilation.class_provided clean generated mentions (beq_iff_eq.mp leads)⟩
  | _ => cases has

end Sample

end QueryModel
