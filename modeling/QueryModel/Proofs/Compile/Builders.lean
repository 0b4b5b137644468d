import QueryModel.Proofs.Compile.Classes
import QueryModel.Proofs.Shape.References
import QueryModel.Proofs.TypeExpr.Grammar
import QueryModel.Proofs.TypeExpr.Layers

/-!
# Builders mirror their types

A builder has a setter for every member of its type, with the name, the type and the default
value of the member, and it requires exactly the members without null.  Two facts carry the
content:

* A setter is required when its type is neither optional nor primitive.  This is the same as
  having the wrapping without null, because the resolver leaves exactly the primitives
  without a wrapping (`Wrapped.Fits`).
* Whether an input field gets the policy of inputs is decided by the end of its text, whether
  it may be absent by the parser.  The parser takes white space off first, so the two tests
  differ, but a type without a mark never ends with one (`isNonNull_of_endsWith`).
-/

namespace QueryModel

open Text

/-! ## Setters -/

/-- A setter takes what a member holds. -/
structure Setter.Mirrors (setter : Setter) (slot : Slot) : Prop where
  name : setter.name = slot.name
  base : setter.type.base = slot.type.base
  deprecated : setter.type.deprecated = slot.type.deprecated
  /-- Whatever the policy, an absent value is only annotated. -/
  nullable : ∀ policy, slot.type.wrapping = .nullable policy →
    setter.type.wrapping = .nullable .annotated
  /-- Any other wrapping is kept. -/
  otherwise : (∀ policy, slot.type.wrapping ≠ .nullable policy) →
    setter.type.wrapping = slot.type.wrapping
  required : setter.required = true ↔ slot.type.wrapping = .nonNull
  defaultValue : setter.defaultValue = slot.defaultValue

/-- A builder has a setter for every member, in order. -/
structure Builder.Mirrors (b : Builder) (target : String) (slots : List Slot) : Prop where
  target : b.target = target
  setters : List.Forall₂ Setter.Mirrors b.setters slots
  required : b.requiredSetters =
    (slots.filter fun slot => slot.type.wrapping = .nonNull).map (·.name)

/-- Exactly the primitives are without a wrapping. -/
def Wrapped.Fits (t : ResolvedType) : Prop := t.wrapping = .none ↔ t.base.isPrimitive = true

theorem Slot.required_setter {slot : Slot} (fits : slot.type.Fits) :
    slot.setter.required = true ↔ slot.type.wrapping = .nonNull := by
  show (!slot.type.isOptional && !slot.type.base.isPrimitive) = true ↔ _
  rw [Wrapped.Fits] at fits
  cases wrapping : slot.type.wrapping with
  | none => simp [fits.mp wrapping]
  | nonNull =>
    have notPrimitive : slot.type.base.isPrimitive = false := by
      refine Bool.eq_false_iff.mpr fun primitive => ?_
      rw [fits.mpr primitive] at wrapping
      cases wrapping
    simp [Wrapped.isOptional, wrapping, notPrimitive]
  | nullable policy => simp [Wrapped.isOptional, wrapping]

theorem Slot.mirrors_setter {slot : Slot} (fits : slot.type.Fits) :
    slot.setter.Mirrors slot := by
  obtain ⟨name, ⟨base, wrapping, deprecated⟩, defaultValue⟩ := slot
  refine ⟨rfl, ?_, ?_, ?_, ?_, required_setter fits, rfl⟩
  · cases wrapping <;> rfl
  · cases wrapping <;> rfl
  · rintro policy ⟨⟩
    rfl
  · intro other
    cases wrapping with
    | none => rfl
    | nonNull => rfl
    | nullable policy => exact absurd rfl (other policy)

theorem Builder.mirrors_foldl {α : Type} {step : Builder → α → Builder} {slot : α → Slot}
    (adds : Adds step slot) {xs : List α}
    (fits : ∀ x ∈ xs, (slot x).type.Fits) (target : String) :
    (xs.foldl step { target }).Mirrors target (xs.map slot) := by
  have setters : (xs.foldl step { target }).setters = xs.map fun x => (slot x).setter :=
    setters_foldl adds { target } xs
  refine ⟨target_foldl adds _ xs, ?_, ?_⟩
  · rw [setters, List.forall₂_map_left_iff, List.forall₂_map_right_iff, List.forall₂_same]
    intro x membership
    exact Slot.mirrors_setter (fits x membership)
  · have sameTest : ∀ x ∈ xs, (slot x).setter.required =
        decide ((slot x).type.wrapping = .nonNull) := by
      intro x membership
      rw [Bool.eq_iff_iff, Slot.required_setter (fits x membership), decide_eq_true_iff]
    rw [requiredSetters, setters, List.filter_map, List.filter_map, List.map_map, List.map_map]
    show ((xs.filter fun x => (slot x).setter.required).map _) = _
    rw [List.filter_congr sameTest]
    rfl

/-! ## Types -/

namespace Context

variable {c : Context}

theorem fits_resolveExpr {d : Demand} {t : TypeExpr} {type : ResolvedType}
    (resolved : c.resolveExpr d t = .ok type) : type.Fits :=
  (mirrors_resolveExpr resolved).unwrapped

theorem fits_resolve {d : Demand} {typeName : String} {type : ResolvedType}
    (resolved : c.resolve d typeName = .ok type) : type.Fits := by
  obtain ⟨t, _, resolved⟩ := Build.bind_eq_ok.mp resolved
  exact fits_resolveExpr resolved

end Context

/-- White space is taken off the ends only. -/
theorem Text.getLast?_trim {cs : List Char} {c : Char} (last : cs.getLast? = some c)
    (solid : isBlank c = false) : (trim cs).getLast? = some c := by
  obtain ⟨init, rfl⟩ := List.getLast?_eq_some_iff.mp last
  have start : ∃ rest, trimStart (init ++ [c]) = rest ++ [c] := by
    rw [trimStart, List.dropWhile_append]
    split
    · exact ⟨[], by simp [solid]⟩
    · exact ⟨_, rfl⟩
  obtain ⟨rest, start⟩ := start
  rw [trim, start, dropEndWhile, List.reverse_append]
  simp [solid]

theorem TypeExpr.getLast?_chars {t : TypeExpr} (wellFormed : t.WellFormed) :
    t.chars.getLast? = some '!' ↔ t.isNonNull = true := by
  cases t with
  | named name =>
    have noMark : name.toList.getLast? ≠ some '!' := by
      intro last
      have inName := isNameRest_of_mem ((isTypeName_toList name).trans wellFormed)
        (List.mem_of_getLast? last)
      exact absurd inName (by decide)
    simp [chars, isNonNull, noMark]
  | list inner =>
    have closed : (chars (.list inner)).getLast? = some ']' := List.getLast?_concat
    rw [closed]
    exact iff_of_false (by decide) (by simp [isNonNull])
  | nonNull inner => simp [chars, isNonNull]

theorem endsWith_mark {s : String} : endsWith s "!" = true ↔ s.toList.getLast? = some '!' := by
  show ['!'].isSuffixOf s.toList = true ↔ _
  rw [List.isSuffixOf_iff_suffix, List.getLast?_eq_some_iff]
  constructor
  · rintro ⟨init, split⟩
    exact ⟨init, split.symm⟩
  · rintro ⟨init, split⟩
    exact ⟨init, split.symm⟩

/-- A text that ends with a mark is read as a type with a mark. -/
theorem TypeExpr.isNonNull_of_endsWith {s : String} {t : TypeExpr} (parsed : parse s = .ok t)
    (marked : endsWith s "!" = true) : t.isNonNull = true := by
  obtain ⟨wellFormed, written⟩ := parse_eq_ok_iff.mp parsed
  rw [← getLast?_chars wellFormed, String.ofList_inj.mp written]
  exact Text.getLast?_trim (endsWith_mark.mp marked) (by decide)

/-- The other direction needs a text that does not end with white space. -/
theorem TypeExpr.endsWith_of_isNonNull {s : String} {t : TypeExpr} (parsed : parse s = .ok t)
    {c : Char} (last : s.toList.getLast? = some c) (solid : isBlank c = false)
    (marked : t.isNonNull = true) : endsWith s "!" = true := by
  obtain ⟨wellFormed, written⟩ := parse_eq_ok_iff.mp parsed
  rw [← getLast?_chars wellFormed, String.ofList_inj.mp written,
    Text.getLast?_trim last solid] at marked
  rw [endsWith_mark, last, marked]

/-! ## Members -/

/-- What a field of an input object becomes. -/
structure InputField.Becomes (f : InputField) (m : InputMember) : Prop where
  name : m.name = f.name
  defaultValue : m.defaultValue = f.defaultValue
  /-- The field may be absent exactly when its type has no mark, and then its policy is that
  of inputs. -/
  absent : ∃ t, TypeExpr.parse f.typeName = .ok t ∧
    (m.type.isOptional = true ↔ t.isNonNull = false) ∧
    (t.isNonNull = false → m.type.wrapping = .nullable .inputType)
  /-- The end of the text tells as much, unless it is white space. -/
  optional : ∀ c, f.typeName.toList.getLast? = some c → isBlank c = false → f.optional = true →
    m.type.wrapping = .nullable .inputType

/-- A field without a mark does not end with one, so it asks for the policy of inputs. -/
theorem InputField.demand_of_unmarked {f : InputField} {t : TypeExpr}
    (parsed : TypeExpr.parse f.typeName = .ok t) (unmarked : t.isNonNull = false) :
    f.demand = { policy := some .inputType } := by
  have optional : f.optional = true := by
    show (!endsWith f.typeName "!") = true
    rw [Bool.not_eq_true', Bool.eq_false_iff]
    intro marked
    rw [TypeExpr.isNonNull_of_endsWith parsed marked] at unmarked
    cases unmarked
  simp [demand, optional]

theorem Context.becomes_inputMember {c : Context} {f : InputField} {m : InputMember}
    (made : c.inputMember f = .ok m) : f.Becomes m ∧ m.type.Fits := by
  obtain ⟨type, resolved, made⟩ := Build.bind_eq_ok.mp made
  cases made
  refine ⟨?_, fits_resolve resolved⟩
  obtain ⟨t, isType, resolved⟩ := Build.bind_eq_ok.mp resolved
  have parsed := parseType_eq_ok.mp isType
  have absent : type.isOptional = !t.isNonNull := (resolveExpr_eq_ok resolved).2
  have policy : t.isNonNull = false → type.wrapping = .nullable .inputType := by
    intro unmarked
    have mirrors := mirrors_resolveExpr resolved
    obtain ⟨policy, wrapping⟩ := Wrapped.isOptional_iff.mp (absent.trans (by rw [unmarked]; rfl))
    have boxed : type.base.isPrimitive = false := by
      refine Bool.eq_false_iff.mpr fun primitive => ?_
      rw [mirrors.unwrapped.mpr primitive] at wrapping
      cases wrapping
    rw [mirrors.wrapping boxed, InputField.demand_of_unmarked parsed unmarked]
    simp [Demand.allowsAbsence, unmarked]
  refine ⟨rfl, rfl, ⟨t, parsed, ?_, policy⟩, ?_⟩
  · show type.isOptional = true ↔ _
    rw [absent, Bool.not_eq_true']
  · intro c last solid optional
    refine policy (Bool.eq_false_iff.mpr fun marked => ?_)
    have ends := TypeExpr.endsWith_of_isNonNull parsed last solid marked
    simp [InputField.optional, allowsNull, ends] at optional

/-! ## Generated types -/

/-- A shape has a builder exactly when the settings ask for one, and it mirrors the
properties. -/
def Shape.BuilderMirrors (s : Settings) (shape : Shape) : Prop :=
  (s.builders = true →
    ∃ b, shape.builder = some b ∧ b.Mirrors shape.name (shape.properties.map Property.slot)) ∧
  (s.builders = false → shape.builder = none)

/-- The builders of a generated type mirror it, and what they set was declared. -/
def GeneratedType.BuildersMirror (s : Settings) (d : Document) : GeneratedType → Prop
  | .fragment t => t.shape.Everywhere (Shape.BuilderMirrors s)
  | .enum _ => True
  | .inputObject t =>
    t.builder.Mirrors t.name (t.fields.map InputMember.slot) ∧
      ∃ fields, .inputObject t.name t.description fields ∈ d.declarations ∧
        List.Forall₂ InputField.Becomes fields t.fields
  | .scalars _ => True
  | .operation t =>
    t.data.Everywhere (Shape.BuilderMirrors s) ∧
      t.builder.Mirrors t.name
        (((t.parameters.map (·.members)).getD []).map VariableMember.slot) ∧
      ∃ o ∈ d.operations,
        ((t.parameters.map (·.members)).getD []).map (·.graphqlName) = o.parameters.map (·.name)

theorem MergedField.Yields.typeFits {c : Context} {Nested : MergedField → Shape → Prop}
    {m : MergedField} {member : Member} (yields : m.Yields c Nested member) :
    member.property.type.Fits := by
  cases yields with
  | value _ resolved => exact Context.fits_resolve resolved
  | object _ _ _ _ resolved => exact Context.fits_resolveExpr resolved

theorem InlineYields.typeFits {c : Context} {Nested : InlineFragment → Shape → Prop}
    {i : InlineFragment} {member : Member} (yields : InlineYields c Nested i member) :
    member.property.type.Fits := by
  cases yields
  constructor
  · intro unwrapped
    cases unwrapped
  · intro primitive
    cases primitive

namespace Context

variable {c : Context}

theorem builderMirrors_shape {chain : List String} {name : String} {sel : Selection} {root : Shape}
    (built : c.shape chain name sel = .ok root) :
    root.Everywhere (Shape.BuilderMirrors c.settings) := by
  refine shape_everywhere (P := Shape.BuilderMirrors) ?_ (fun _ _ mirrors => mirrors) built
  intro c name sel level fields inlines Q assembly
  have fits : ∀ p ∈ (fields ++ inlines).map (·.property), (Property.slot p).type.Fits := by
    intro p membership
    obtain ⟨member, inMembers, rfl⟩ := List.mem_map.mp membership
    rcases assembly.member_cases inMembers with ⟨m, _, _, yields⟩ | ⟨i, _, _, yields⟩
    · exact yields.typeFits
    · exact yields.typeFits
  constructor
  · intro asked
    exact ⟨_, if_pos asked, Builder.mirrors_foldl Builder.adds_setter fits _⟩
  · intro unasked
    exact if_neg (by simp [unasked])

theorem builders_fragmentType {s : Settings} {d : Document} {f : Fragment} {t : FragmentType}
    (settings : c.settings = s) (built : c.fragmentType f = .ok t) :
    (GeneratedType.fragment t).BuildersMirror s d := by
  obtain ⟨shape, shaped, made⟩ := Build.bind_eq_ok.mp built
  cases made
  cases settings
  exact builderMirrors_shape shaped

theorem builders_inputType {s : Settings} {d : Document} {name : String}
    {description : Option String} {fields : List InputField} {t : InputType}
    (declared : .inputObject name description fields ∈ d.declarations)
    (built : c.inputType name description fields = .ok t) :
    (GeneratedType.inputObject t).BuildersMirror s d := by
  obtain ⟨members, makes, made⟩ := Build.bind_eq_ok.mp built
  cases made
  have become := (Build.forall₂_mapM makes).imp fun _ _ => becomes_inputMember
  have fits : ∀ m ∈ members, m.slot.type.Fits := by
    intro m membership
    obtain ⟨f, _, becomes⟩ := exists_left_of_forall₂ become membership
    exact becomes.2
  exact ⟨Builder.mirrors_foldl Builder.adds_defaultValue fits name, fields, declared,
    become.imp fun _ _ becomes => becomes.1⟩

theorem variableMember_eq_ok {v : Variable} {m : VariableMember}
    (made : c.variableMember v = .ok m) : m.graphqlName = v.name ∧ m.type.Fits := by
  obtain ⟨type, resolved, made⟩ := Build.bind_eq_ok.mp made
  cases made
  exact ⟨rfl, fits_resolve resolved⟩

/-- The members of the variables, in order. -/
theorem forall₂_variableMember {vs : List Variable} {parameters : Option VariablesType}
    (made : c.variablesType? vs = .ok parameters) :
    List.Forall₂ (fun v m => (c.push variablesTypeName).variableMember v = .ok m) vs
      ((parameters.map (·.members)).getD []) := by
  rw [variablesType?] at made
  split at made
  next none =>
    cases made
    rw [List.isEmpty_iff.mp none]
    exact .nil
  next =>
    obtain ⟨members, makes, made⟩ := Build.bind_eq_ok.mp made
    cases made
    exact Build.forall₂_mapM makes

theorem forall₂_variablesType {vs : List Variable} {parameters : Option VariablesType}
    (made : c.variablesType? vs = .ok parameters) :
    List.Forall₂ (fun v m => m.graphqlName = v.name ∧ m.type.Fits) vs
      ((parameters.map (·.members)).getD []) :=
  (forall₂_variableMember made).imp fun _ _ => variableMember_eq_ok

theorem builders_operationType {s : Settings} {d : Document} {o : Operation} {t : OperationType}
    (settings : c.settings = s) (declared : o ∈ d.operations) (built : c.operationType o = .ok t) :
    (GeneratedType.operation t).BuildersMirror s d := by
  obtain ⟨kind, package, document, parameters, data, _, _, _, typed, shaped, rfl⟩ :=
    operationType_eq_ok.mp built
  cases settings
  have members := forall₂_variablesType typed
  have fits : ∀ m ∈ (parameters.map (·.members)).getD [], m.slot.type.Fits := by
    intro m membership
    obtain ⟨v, _, fits⟩ := exists_left_of_forall₂ members membership
    exact fits.2
  have everywhere := builderMirrors_shape shaped
  refine ⟨everywhere, ?_, o, declared, ?_⟩
  · exact Builder.mirrors_foldl Builder.adds_setter fits _
  · exact map_eq_of_forall₂ members fun _ _ becomes => becomes.1

end Context

theorem Item.builders_of_build {s : Settings} {d : Document} {i : Item} {t : GeneratedType}
    (inItems : i ∈ d.items s) (built : i.build { settings := s } = .ok (some t)) :
    t.BuildersMirror s d := by
  cases i with
  | fragment f =>
    obtain ⟨type, makes, made⟩ := Build.bind_eq_ok.mp built
    cases made
    exact Context.builders_fragmentType rfl makes
  | declaration decl =>
    cases decl with
    | enum name description values =>
      cases built
      trivial
    | inputObject name description fields =>
      obtain ⟨type, makes, made⟩ := Build.bind_eq_ok.mp built
      cases made
      refine Context.builders_inputType ?_ makes
      simpa [Document.items, Declaration.isGenerated, Declaration.isScalar] using inItems
    | scalar name description => cases built
  | scalars =>
    obtain ⟨type, makes, rfl⟩ := Option.map_eq_some_iff.mp (Except.ok.inj built)
    trivial
  | operation o =>
    obtain ⟨type, makes, made⟩ := Build.bind_eq_ok.mp built
    cases made
    refine Context.builders_operationType rfl ?_ makes
    simpa [Document.items] using inItems

/-- Every builder of a compilation mirrors its type, whatever the settings. -/
theorem Compilation.builders_mirror {s : Settings} {d : Document} {t : GeneratedType}
    (generated : t ∈ (ofDocument s d).generated) : t.BuildersMirror s d := by
  obtain ⟨i, inItems, built⟩ := exists_item_of_generated generated
  exact Item.builders_of_build inItems built

namespace Sample

/-- A document with an input object that has a primitive, a required and an optional field. -/
def ratings : Document :=
  { declarations :=
      [.inputObject "Rating" none
        [⟨"stars", none, "Int!", some (.nat 3)⟩, ⟨"tags", none, "[String]!", none⟩,
          ⟨"note", none, "String", some (.text "none")⟩]] }

def ratingSettings : Settings := .ofConfig { policy := .javaOptional } ratings "com.example"

theorem builders_mirror_rating :
    ∃ t, .inputObject t ∈ (Compilation.ofDocument ratingSettings ratings).generated ∧
      t.builder.requiredSetters = ["tags"] ∧
      (GeneratedType.inputObject t).BuildersMirror ratingSettings ratings := by
  have found : ((Compilation.ofDocument ratingSettings ratings).generated.any fun
      | .inputObject t => t.builder.requiredSetters == ["tags"]
      | _ => false) = true := by
    decide +kernel
  obtain ⟨t, generated, required⟩ := List.any_eq_true.mp found
  cases t with
  | inputObject t =>
    exact ⟨t, generated, beq_iff_eq.mp required, Compilation.builders_mirror generated⟩
  | _ => cases required

end Sample

end QueryModel
