import QueryModel.Proofs.Compile.Builders

/-!
# Checks of variables

Three places decide whether a variable excludes null.

* The *type* of the variable has the wrapping without null when the parser finds a mark and the
  type is not primitive.
* The *builder* of the operation requires the setter of a variable with that wrapping.
* *Binding* checks a variable when its text ends with a mark and its type is not primitive.

Type and builder agree always.  Binding looks at the text as it was written, and the parser takes
white space off first.  So a mark with white space behind it is seen by the one and not by the
other, and binding lets null through for a variable whose setter is required.
`enforcesRequired_iff` says that nothing else can go wrong, and `not_enforcesRequired_spaced` that
this does.
-/

namespace QueryModel

open Text

/-! ## Binding -/

/-- A name has no value, or the value null. -/
def Dict.Lacks (values : Dict Json) (name : String) : Prop :=
  ∀ value, values.get? name = some value → value = .null

namespace VariablesType

theorem lacks_eq_true {values : Dict Json} {v : VariableMember} :
    lacks values v = true ↔ v.enforcedNonNull = true ∧ values.Lacks v.graphqlName := by
  rw [lacks, Bool.and_eq_true, Dict.Lacks]
  refine and_congr_right fun _ => ?_
  cases values.get? v.graphqlName with
  | none => simp
  | some value => cases value <;> simp [Json.isNull]

/-- A refused variable is one that is checked and has no value. -/
theorem exists_of_bind_eq_error {t : VariablesType} {values : Dict Json} {e : VariableNull}
    (refused : t.bind values = .error e) :
    ∃ v ∈ t.members, v.enforcedNonNull = true ∧ values.Lacks v.graphqlName ∧
      e.parameter = v.name := by
  rw [bind] at refused
  split at refused
  next v found =>
    cases refused
    obtain ⟨enforced, missing⟩ := lacks_eq_true.mp (List.find?_some found)
    exact ⟨v, List.mem_of_find?_eq_some found, enforced, missing, rfl⟩
  next => cases refused

/-- No checked variable is without a value when the values are bound. -/
theorem not_lacks_of_bind_eq_ok {t : VariablesType} {values bound : Dict Json}
    (accepted : t.bind values = .ok bound) {v : VariableMember} (membership : v ∈ t.members)
    (enforced : v.enforcedNonNull = true) : ¬ values.Lacks v.graphqlName := by
  rw [bind] at accepted
  split at accepted
  next => cases accepted
  next noneFound =>
    intro missing
    exact List.find?_eq_none.mp noneFound v membership (lacks_eq_true.mpr ⟨enforced, missing⟩)

end VariablesType

/-! ## Variables -/

/-- The mark of a type without null stands at the end of its text, unless the type is
primitive. -/
def Variable.MarkEnds (v : Variable) : Prop :=
  ∀ e, TypeExpr.parse v.typeName = .ok e → e.isNonNull = true →
    endsWith v.typeName "!" = true ∨
      (e.isList = false ∧ e.baseName ∈ ["Int", "Boolean", "Float", "AWSTimestamp"])

/-- What decides about null in the member of a variable. -/
structure Variable.Becomes (v : Variable) (m : VariableMember) (e : TypeExpr) : Prop where
  parsed : TypeExpr.parse v.typeName = .ok e
  fits : m.type.Fits
  enforced : m.enforcedNonNull = true ↔
    endsWith v.typeName "!" = true ∧ m.type.isPrimitive = false
  nonNull : m.type.wrapping = .nonNull ↔ e.isNonNull = true ∧ m.type.isPrimitive = false
  primitive : m.type.isPrimitive = true ↔
    e.isList = false ∧ e.isNonNull = true ∧
      e.baseName ∈ ["Int", "Boolean", "Float", "AWSTimestamp"]

theorem Context.exists_becomes {c : Context} {v : Variable} {m : VariableMember}
    (made : c.variableMember v = .ok m) : ∃ e, v.Becomes m e := by
  obtain ⟨type, resolved, made⟩ := Build.bind_eq_ok.mp made
  cases made
  obtain ⟨e, parsed, resolved⟩ := Build.bind_eq_ok.mp resolved
  have mirrors := mirrors_resolveExpr resolved
  have allows : Demand.allowsAbsence {} e = !e.isNonNull := rfl
  refine ⟨e, parseType_eq_ok.mp parsed, mirrors.unwrapped, ?_, ?_, ?_⟩
  · show (!(!endsWith v.typeName "!") && !type.isPrimitive) = true ↔ _
    simp
  · cases primitive : type.isPrimitive with
    | true =>
      have unwrapped : type.wrapping = .none := mirrors.unwrapped.mpr primitive
      simp [unwrapped]
    | false =>
      rw [mirrors.wrapping primitive, allows]
      cases e.isNonNull <;> simp
  · refine mirrors.primitive.trans ?_
    rw [allows, Bool.not_eq_false']
    simp

/-- The check agrees with the type exactly when the mark stands at the end of the text. -/
theorem Variable.Becomes.agrees_iff {v : Variable} {m : VariableMember} {e : TypeExpr}
    (becomes : v.Becomes m e) :
    (m.enforcedNonNull = true ↔ m.type.wrapping = .nonNull) ↔ v.MarkEnds := by
  rw [becomes.enforced, becomes.nonNull]
  constructor
  · intro agrees e' parsed marked
    cases parsed.symm.trans becomes.parsed
    cases primitive : m.type.isPrimitive with
    | true =>
      obtain ⟨noList, _, named⟩ := becomes.primitive.mp primitive
      exact .inr ⟨noList, named⟩
    | false => exact .inl (agrees.mpr ⟨marked, primitive⟩).1
  · intro markEnds
    refine and_congr_left fun notPrimitive => ⟨TypeExpr.isNonNull_of_endsWith becomes.parsed, ?_⟩
    intro marked
    rcases markEnds e becomes.parsed marked with ends | ⟨noList, named⟩
    · exact ends
    · rw [becomes.primitive.mpr ⟨noList, marked, named⟩] at notPrimitive
      cases notPrimitive

/-! ## Operations -/

namespace OperationType

/-- The variables of an operation, none if it has no type of variables. -/
def declaredVariables (t : OperationType) : List VariableMember :=
  (t.parameters.map (·.members)).getD []

/-- The variables of an operation with their setters. -/
def slots (t : OperationType) : List (VariableMember × Setter) :=
  t.declaredVariables.zip t.builder.setters

/-- Checks, types and builder agree on the variables of an operation. -/
structure EnforcesRequired (t : OperationType) : Prop where
  /-- Every variable has a setter. -/
  setters : t.builder.setters.length = t.declaredVariables.length
  /-- The checked variables are those without null. -/
  type : ∀ slot ∈ t.slots, slot.1.enforcedNonNull = true ↔ slot.1.type.wrapping = .nonNull
  /-- The checked variables are those whose setter has to be called. -/
  required : ∀ slot ∈ t.slots, slot.1.enforcedNonNull = true ↔ slot.2.required = true
  /-- Binding refuses only such variables, -/
  refuses : ∀ vs values e, t.parameters = some vs → vs.bind values = .error e →
    ∃ slot ∈ t.slots, slot.2.required = true ∧ values.Lacks slot.1.graphqlName ∧
      e.parameter = slot.1.name
  /-- and it refuses all of them. -/
  accepts : ∀ vs values bound, t.parameters = some vs → vs.bind values = .ok bound →
    ∀ slot ∈ t.slots, slot.2.required = true → ¬ values.Lacks slot.1.graphqlName

theorem slots_eq_map {t : OperationType}
    (setters : t.builder.setters = t.declaredVariables.map fun v => v.slot.setter) :
    t.slots = t.declaredVariables.map fun v => (v, v.slot.setter) := by
  rw [slots, setters, List.map_prod_left_eq_zip]

/-- Binding follows from what is said about single variables. -/
theorem enforcesRequired_of_agree {t : OperationType}
    (setters : t.builder.setters = t.declaredVariables.map fun v => v.slot.setter)
    (type : ∀ v ∈ t.declaredVariables, v.enforcedNonNull = true ↔ v.type.wrapping = .nonNull)
    (required : ∀ v ∈ t.declaredVariables,
      v.slot.setter.required = true ↔ v.type.wrapping = .nonNull) :
    t.EnforcesRequired := by
  have slots := slots_eq_map setters
  have ofParameters : ∀ vs, t.parameters = some vs → vs.members = t.declaredVariables := by
    intro vs typed
    rw [declaredVariables, typed]
    rfl
  constructor
  · rw [setters, List.length_map]
  · rw [slots, List.forall_mem_map]
    exact type
  · rw [slots, List.forall_mem_map]
    intro v membership
    exact (type v membership).trans (required v membership).symm
  · intro vs values e typed refused
    obtain ⟨v, membership, enforced, missing, named⟩ :=
      VariablesType.exists_of_bind_eq_error refused
    rw [ofParameters vs typed] at membership
    refine ⟨(v, v.slot.setter), ?_, ?_, missing, named⟩
    · rw [slots]
      exact List.mem_map.mpr ⟨v, membership, rfl⟩
    · exact (required v membership).mpr ((type v membership).mp enforced)
  · intro vs values bound typed accepted
    rw [slots, List.forall_mem_map]
    intro v membership isRequired
    have enforced := (type v membership).mpr ((required v membership).mp isRequired)
    rw [← ofParameters vs typed] at membership
    exact VariablesType.not_lacks_of_bind_eq_ok accepted membership enforced

end OperationType

namespace Context

variable {c : Context} {o : Operation} {t : OperationType}

theorem setters_operationType (built : c.operationType o = .ok t) :
    t.builder.setters = t.declaredVariables.map fun v => v.slot.setter := by
  obtain ⟨_, _, _, parameters, _, _, _, _, _, _, rfl⟩ := operationType_eq_ok.mp built
  exact Builder.setters_foldl Builder.adds_setter _ _

theorem forall₂_becomes (built : c.operationType o = .ok t) :
    List.Forall₂ (fun v m => ∃ e, v.Becomes m e) o.parameters t.declaredVariables := by
  obtain ⟨_, _, _, parameters, _, _, _, _, typed, _, rfl⟩ := operationType_eq_ok.mp built
  exact (forall₂_variableMember typed).imp fun _ _ => exists_becomes

theorem markEnds_of_enforcesRequired (built : c.operationType o = .ok t)
    (enforces : t.EnforcesRequired) : ∀ v ∈ o.parameters, v.MarkEnds := by
  intro v membership
  obtain ⟨m, inVariables, e, becomes⟩ := exists_right_of_forall₂ (forall₂_becomes built) membership
  have inSlots : (m, m.slot.setter) ∈ t.slots := by
    rw [OperationType.slots_eq_map (setters_operationType built)]
    exact List.mem_map.mpr ⟨m, inVariables, rfl⟩
  exact becomes.agrees_iff.mp (enforces.type _ inSlots)

/-- Checks, types and builder of an operation agree exactly when every mark that matters stands at
the end of its text. -/
theorem enforcesRequired_iff (built : c.operationType o = .ok t) :
    t.EnforcesRequired ↔ ∀ v ∈ o.parameters, v.MarkEnds := by
  refine ⟨markEnds_of_enforcesRequired built, fun markEnds => ?_⟩
  have become := forall₂_becomes built
  refine OperationType.enforcesRequired_of_agree (setters_operationType built) ?_ ?_
  · intro m membership
    obtain ⟨v, inParameters, e, becomes⟩ := exists_left_of_forall₂ become membership
    exact becomes.agrees_iff.mpr (markEnds v inParameters)
  · intro m membership
    obtain ⟨v, _, e, becomes⟩ := exists_left_of_forall₂ become membership
    exact Slot.required_setter becomes.fits

end Context

/-! ## White space behind a mark -/

namespace Sample

/-- An operation with variables of given types. -/
def heroBy (parameters : List Variable) : Operation :=
  { operationName := "Hero", operationType := "query", parameters, source := ""
    fields := [.leaf "hero" "String"], filePath := "src/main/graphql/com/example/Hero.graphql"
    fragmentsReferenced := [], operationId := "" }

/-- White space before a type and behind a primitive one does no harm. -/
def heroMarked : Operation := heroBy [⟨"id", " ID!"⟩, ⟨"first", "Int! "⟩, ⟨"tags", "[String!]"⟩]

/-- A variable with white space behind its mark. -/
def heroSpaced : Operation := heroBy [⟨"id", "ID! "⟩]

theorem exists_type_heroBy {parameters : List Variable}
    (typed : ((context.reserve "HeroQuery").variablesType? parameters).isOk = true) :
    ∃ type, context.operationType (heroBy parameters) = .ok type := by
  have ofKind : OperationKind.ofWord? "query" = some .query := rfl
  have named : operationTypeName "Hero" "src/main/graphql/com/example/Hero.graphql" .query true =
      "HeroQuery" := by
    decide +kernel
  have package : context.settings.operationPackage (heroBy parameters) =
      context.settings.operationPackage (heroBy []) := by
    simp only [Settings.operationPackage, heroBy]
  have packaged : (context.settings.operationPackage (heroBy [])).isOk = true := by decide +kernel
  have few : (context.reserve "HeroQuery").freeNames dataTypeName
      { fields := [.leaf "hero" "String"] } < 20 := by
    decide +kernel
  have made : ((context.reserve "HeroQuery").shapeWithin [] dataTypeName
      { fields := [.leaf "hero" "String"] } 20).isOk = true := by
    decide +kernel
  exact Context.exists_operationType "HeroQuery" ofKind named (package ▸ packaged) rfl typed few
    made

theorem exists_type_heroMarked : ∃ type, context.operationType heroMarked = .ok type :=
  exists_type_heroBy (by decide +kernel)

/-- White space is allowed before a mark and behind a primitive type. -/
theorem enforcesRequired_heroMarked :
    ∃ type, context.operationType heroMarked = .ok type ∧ type.EnforcesRequired := by
  obtain ⟨type, built⟩ := exists_type_heroMarked
  refine ⟨type, built, (Context.enforcesRequired_iff built).mpr ?_⟩
  have id : (⟨"id", " ID!"⟩ : Variable).MarkEnds := fun _ _ _ => .inl (by decide)
  have first : (⟨"first", "Int! "⟩ : Variable).MarkEnds := by
    intro e parsed _
    have isInt : TypeExpr.parse "Int! " = .ok (.nonNull (.named "Int")) := by decide +kernel
    cases parsed.symm.trans isInt
    exact .inr (by decide)
  have tags : (⟨"tags", "[String!]"⟩ : Variable).MarkEnds := by
    intro e parsed marked
    have isList : TypeExpr.parse "[String!]" = .ok (.list (.nonNull (.named "String"))) := by
      decide +kernel
    cases parsed.symm.trans isList
    cases marked
  exact List.forall_mem_cons.mpr ⟨id, List.forall_mem_cons.mpr
    ⟨first, List.forall_mem_singleton.mpr tags⟩⟩

def spacedVariables : VariablesType :=
  ⟨"Variables", [⟨"id", "id", ⟨.text, .nonNull, false⟩, false⟩]⟩

theorem variables_heroSpaced :
    (context.reserve "HeroQuery").variablesType? heroSpaced.parameters =
      .ok (some spacedVariables) := by
  let inner := (context.reserve "HeroQuery").push variablesTypeName
  have parsed : TypeExpr.parse "ID! " = .ok (.nonNull (.named "ID")) := by decide +kernel
  have resolved : (inner.push "id").resolve {} "ID! " = .ok ⟨.text, .nonNull, false⟩ := by
    rw [Context.resolve, Context.parseType, parsed]
    rfl
  have made : inner.variableMember ⟨"id", "ID! "⟩ =
      .ok ⟨"id", "id", ⟨.text, .nonNull, false⟩, false⟩ := by
    rw [Context.variableMember, resolved]
    rfl
  show [_].mapM inner.variableMember >>= _ = _
  rw [List.mapM_cons, made]
  rfl

/-- The setter of the variable has to be called, and yet no value at all is bound. -/
theorem not_enforcesRequired_spaced :
    ∃ type, context.operationType heroSpaced = .ok type ∧
      type.parameters = some spacedVariables ∧ type.builder.requiredSetters = ["id"] ∧
      spacedVariables.bind .empty = .ok .empty ∧ ¬ type.EnforcesRequired := by
  have few : (context.reserve "HeroQuery").freeNames dataTypeName
      { fields := heroSpaced.fields } < 20 := by
    decide +kernel
  obtain ⟨data, built⟩ : ∃ data, (context.reserve "HeroQuery").shape [] dataTypeName
      { fields := heroSpaced.fields } = .ok data :=
    Context.exists_shape few (by decide +kernel)
  refine ⟨_, Context.operationType_eq_ok.mpr
    ⟨.query, _, _, some spacedVariables, data, rfl, rfl, rfl, variables_heroSpaced, built, rfl⟩,
    rfl, rfl, rfl, fun enforces => ?_⟩
  have bound : spacedVariables.bind .empty = .ok .empty := rfl
  refine enforces.accepts _ _ _ rfl bound _ (List.mem_singleton.mpr rfl) rfl ?_
  intro value found
  cases found

end Sample

end QueryModel
