import QueryModel.Build.Declared
import QueryModel.Config.Read
import QueryModel.Proofs.TypeExpr.Grammar

/-!
# Targets of scalars

Three places decide what a scalar stands for.  The settings hold a map from scalars to targets,
in which the user has the last word (`Settings.target_of_user`).  The type that lists the scalars
has a constant for every entry of the map.  Fields and variables go through the resolver, and the
resolver asks a table of its own before it asks the map.

The table is fixed.  Of its names only `AWSTimestamp` is always in the map, the others are when a
document declares them.  For every other name the resolver and the constant agree, and for a name
of the table they agree only if the target happens to be what the table says (`resolve_target`).
-/

namespace QueryModel

/-! ## The map -/

/-- A scalar has the target that the user gives it, or else some default. -/
theorem exists_default_of_mem_scalarTargets {user : Dict String} {declarations : List Declaration}
    {name target : String} (entry : (name, target) ∈ (scalarTargets user declarations).entries) :
    ∃ default, target = (user.get? name).getD default := by
  have found : (scalarTargets user declarations).get? name = some target :=
    (lookup_eq_some_iff (Dict.distinct _)).mpr entry
  rcases Dict.mem_of_get?_insertAll found with declared | standard
  · rcases Dict.mem_of_get?_insertAll declared with absent | declared
    · cases absent
    · obtain ⟨d, _, same⟩ := List.mem_map.mp declared
      cases same
      exact ⟨unmappedTarget, rfl⟩
  · obtain ⟨scalar, _, same⟩ := List.mem_map.mp standard
    cases same
    exact ⟨scalar.2, rfl⟩

theorem Settings.target_of_user {config : Config} {d : Document} {base name target wanted : String}
    (entry : (name, target) ∈ (ofConfig config d base).scalars.entries)
    (mapped : config.customTypes.get? name = some wanted) : target = wanted := by
  obtain ⟨default, rfl⟩ := exists_default_of_mem_scalarTargets entry
  rw [mapped]
  rfl

/-! ## The constants -/

/-- A reference is recorded for a scalar, and no other one is. -/
structure ScalarsType.Records (t : ScalarsType) (name : String) (ref : TypeRef) : Prop where
  isRecorded : ∃ constant ∈ t.constants, constant.graphqlName = name
  target : ∀ constant ∈ t.constants, constant.graphqlName = name → constant.target = ref

namespace Context

variable {c : Context} {name target : String}

theorem records_target (entry : (name, target) ∈ c.settings.scalars.entries) :
    ∃ type, c.scalarsType? = some type ∧ type.Records name (.ofTarget target) := by
  have filled : c.settings.scalars.isEmpty = false := by
    rw [Dict.isEmpty, List.isEmpty_eq_false_iff]
    exact List.ne_nil_of_mem entry
  refine ⟨_, by rw [scalarsType?, filled]; rfl, ?_, ?_⟩
  · exact ⟨.ofEntry (name, target), List.mem_map.mpr ⟨_, entry, rfl⟩, rfl⟩
  · intro constant membership sameName
    obtain ⟨⟨other, otherTarget⟩, inMap, rfl⟩ := List.mem_map.mp membership
    have same : other = name := sameName
    subst same
    have found := (lookup_eq_some_iff c.settings.scalars.distinct).mpr entry
    rw [(lookup_eq_some_iff c.settings.scalars.distinct).mpr inMap] at found
    cases found
    rfl

/-! ## The resolver -/

/-- The names that the resolver does not look up in the map, with what they stand for where null
is allowed. -/
def fixedRefs : List (String × TypeRef) :=
  [("String", .text), ("Int", .boxed .int), ("Boolean", .boxed .boolean),
   ("Float", .boxed .double), ("AWSTimestamp", .boxed .long)]

theorem lookup_fixedRefs (other : name ≠ "String") :
    fixedRefs.lookup name = (primitiveScalars.lookup name).map .boxed := by
  have table : fixedRefs =
      ("String", .text) :: primitiveScalars.map fun p => (p.1, .boxed p.2) := rfl
  have notHead : (name == "String") = false := beq_eq_false_iff_ne.mpr other
  rw [table, List.lookup_cons, notHead]
  induction primitiveScalars with
  | nil => rfl
  | cons entry rest ih =>
    rw [List.map_cons, List.lookup_cons, List.lookup_cons]
    cases name == entry.1 with
    | true => rfl
    | false => exact ih

theorem lookup_target (entry : (name, target) ∈ c.settings.scalars.entries) :
    c.lookup name true = .ok ((fixedRefs.lookup name).getD (.ofTarget target)) := by
  rw [lookup]
  split
  next isString =>
    subst isString
    rfl
  next other =>
    rw [lookup_fixedRefs other]
    split
    next p builtIn =>
      rw [builtIn]
      rfl
    next notBuiltIn =>
      have found : c.settings.scalars.get? name = some target :=
        (lookup_eq_some_iff c.settings.scalars.distinct).mpr entry
      rw [notBuiltIn, found]
      rfl

theorem resolve_named (isName : isGraphqlName name = true) (policy : Option NullPolicy)
    (deprecated : Bool) :
    c.resolve { policy, deprecated } name =
      (do return c.wrap (← c.lookup name true) true policy deprecated) := by
  have parsed : TypeExpr.parse name = .ok (.named name) := by
    have written : (TypeExpr.named name).render = name := String.ofList_toList
    rw [← TypeExpr.parse_render (t := .named name) isName, written]
  rw [resolve, parseType, parsed]
  rfl

/-- In the map of a run every scalar has the target that the user gives it, if there is one, and
the type that lists the scalars records this target.  A type expression that is just the name of
the scalar resolves to what the fixed table has for the name, and to the target if the table has
nothing. -/
theorem resolve_target {config : Config} {d : Document} {base : String}
    (settings : c.settings = .ofConfig config d base)
    (entry : (name, target) ∈ c.settings.scalars.entries) (isName : isGraphqlName name = true)
    (policy : Option NullPolicy) (deprecated : Bool) :
    (∀ wanted, config.customTypes.get? name = some wanted → target = wanted) ∧
    (∃ type, c.scalarsType? = some type ∧ type.Records name (.ofTarget target)) ∧
    ∃ r, c.resolve { policy, deprecated } name = .ok r ∧
      r.base = (fixedRefs.lookup name).getD (.ofTarget target) := by
  refine ⟨?_, records_target entry, ?_⟩
  · intro wanted mapped
    rw [settings] at entry
    exact Settings.target_of_user entry mapped
  · rw [resolve_named isName, lookup_target entry]
    exact ⟨_, rfl, rfl⟩

end Context

namespace Sample

/-- A configuration with a target for a declared scalar and one for a name of the fixed table. -/
def timeTargets : Config :=
  { customTypes := .ofList [("Date", "java.util.Date"), ("AWSTimestamp", "java.time.Instant")] }

def inTimeTargets : Context :=
  { settings := .ofConfig timeTargets { declarations := [.scalar "Date" none] } "com.example" }

theorem resolve_target_timeTargets :
    (∃ r, inTimeTargets.resolve {} "Date" = .ok r ∧ r.base = .named ⟨"java.util", "Date"⟩) ∧
      (∃ type, inTimeTargets.scalarsType? = some type ∧
        type.Records "AWSTimestamp" (.named ⟨"java.time", "Instant"⟩)) ∧
      ∃ r, inTimeTargets.resolve {} "AWSTimestamp" = .ok r ∧ r.base = .boxed .long := by
  have date := Context.resolve_target (c := inTimeTargets) rfl
    (show ("Date", "java.util.Date") ∈ _ by decide +kernel) (by decide) none false
  have timestamp := Context.resolve_target (c := inTimeTargets) rfl
    (show ("AWSTimestamp", "java.time.Instant") ∈ _ by decide +kernel) (by decide) none false
  have dateRef : TypeRef.ofTarget "java.util.Date" = .named ⟨"java.util", "Date"⟩ := by
    with_unfolding_all rfl
  have instantRef : TypeRef.ofTarget "java.time.Instant" = .named ⟨"java.time", "Instant"⟩ := by
    with_unfolding_all rfl
  refine ⟨?_, ?_, timestamp.2.2⟩
  · rw [← dateRef]
    exact date.2.2
  · rw [← instantRef]
    exact timestamp.2.1

/-- A valid configuration maps `AWSTimestamp`, and the resolver does not use the target. -/
theorem not_resolve_timestamp :
    ∃ config, Config.ofText "[custom_types]\nAWSTimestamp = \"java.time.Instant\"\n" = .ok config ∧
      ∃ c : Context, c.settings = .ofConfig config {} "com.example" ∧
        ("AWSTimestamp", "java.time.Instant") ∈ c.settings.scalars.entries ∧
        isGraphqlName "AWSTimestamp" = true ∧
        ¬ ∃ r, c.resolve {} "AWSTimestamp" = .ok r ∧ r.base = .ofTarget "java.time.Instant" := by
  let config : Config := { customTypes := .ofList [("AWSTimestamp", "java.time.Instant")] }
  let c : Context := { settings := .ofConfig config {} "com.example" }
  have resolved :
      c.resolve {} "AWSTimestamp" = .ok ⟨.boxed .long, .nullable .annotated, false⟩ := by
    with_unfolding_all rfl
  have instantRef : TypeRef.ofTarget "java.time.Instant" = .named ⟨"java.time", "Instant"⟩ := by
    with_unfolding_all rfl
  refine ⟨config, by with_unfolding_all rfl, c, rfl, by decide +kernel, by decide, ?_⟩
  rintro ⟨r, same, isTarget⟩
  rw [resolved] at same
  cases same
  rw [instantRef] at isTarget
  cases isTarget

end Sample

end QueryModel
