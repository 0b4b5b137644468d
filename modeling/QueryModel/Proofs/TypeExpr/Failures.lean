import QueryModel.Build.Resolve
import QueryModel.Proofs.TypeExpr.Grammar

/-!
# Types that do not resolve

There are two ways to fail.  The text is no type expression, or the name at the bottom of
the expression is one that nobody knows (`Settings.Resolves`).  The first error gives the
text as it was written, the second the name alone.  Lists, marks and demands have no part
in it: every layer passes on the failure of the layer below, and the case of a repeated mark
is never reached, because no text is read as one.

Whatever a document declares resolves in its own settings.  A name that is declared several
times has a target as soon as one of the declarations is a scalar.  Otherwise all of them are
enums or input objects, and so is the last one, which is the one that counts.
-/

namespace QueryModel

/-- A result that is only passed on fails where it failed before. -/
theorem Build.map_eq_error {α β : Type} {result : Build α} {f : α → β} {e : BuildError} :
    (do return f (← result) : Build β) = .error e ↔ result = .error e := by
  rw [Result.bind_eq_error]
  constructor
  · rintro (failed | ⟨a, _, absent⟩)
    · exact failed
    · cases absent
  · exact .inl

/-! ## Names -/

/-- The names that need neither a target nor a declaration. -/
def builtInNames : List String := ["String", "Int", "Boolean", "Float", "AWSTimestamp"]

/-- A name is built in, has a target, or is that of an enum or an input object. -/
def Settings.Resolves (s : Settings) (name : String) : Prop :=
  name ∈ builtInNames ∨ name ∈ s.scalars.keys ∨
    ∃ d, s.declaration? name = some d ∧ d.isScalar = false

namespace Context

variable {c : Context} {e : BuildError}

theorem lookup_eq_error_iff {name : String} {optional : Bool} :
    c.lookup name optional = .error e ↔
      ¬ c.settings.Resolves name ∧ e = c.unresolvable name := by
  have succeeds : ∀ ref, c.settings.Resolves name →
      ((Except.ok ref : Build TypeRef) = .error e ↔
        ¬ c.settings.Resolves name ∧ e = c.unresolvable name) := by
    intro ref resolves
    simp [resolves]
  rw [lookup]
  split
  next isString => exact succeeds _ (.inl (by simp [builtInNames, isString]))
  next notString =>
    split
    next p builtIn =>
      refine succeeds _ (.inl ?_)
      have named : name ∈ primitiveScalars.map Prod.fst :=
        List.mem_map.mpr ⟨_, mem_of_lookup_eq_some builtIn, rfl⟩
      exact List.mem_cons_of_mem _ named
    next notPrimitive =>
      split
      next target mapped => exact succeeds _ (.inr (.inl (Dict.mem_keys_iff.mpr ⟨_, mapped⟩)))
      next unmapped =>
        split
        next declared => exact succeeds _ (.inr (.inr ⟨_, declared, rfl⟩))
        next declared => exact succeeds _ (.inr (.inr ⟨_, declared, rfl⟩))
        next noEnum noInput =>
          have unknown : ¬ c.settings.Resolves name := by
            rintro (builtIn | mapped | ⟨d, declared, generated⟩)
            · rcases List.mem_cons.mp builtIn with isString | builtIn
              · exact notString isString
              · obtain ⟨entry, membership, rfl⟩ : ∃ entry ∈ primitiveScalars, entry.1 = name :=
                  List.mem_map.mp builtIn
                have different := List.lookup_eq_none_iff.mp notPrimitive entry membership
                simp at different
            · obtain ⟨target, mapped⟩ := Dict.mem_keys_iff.mp mapped
              rw [unmapped] at mapped
              cases mapped
            · cases d with
              | enum n description values => exact noEnum _ _ _ declared
              | inputObject n description fields => exact noInput _ _ _ declared
              | scalar n description => cases generated
          simp [unknown, eq_comm]

/-! ## Layers -/

/-- By induction on the expression, with the mark of an element taken together with what it
marks. -/
theorem resolveElement_eq_error_iff {t : TypeExpr} (wellFormed : t.WellFormed) :
    c.resolveElement none t = .error e ↔
      ¬ c.settings.Resolves t.baseName ∧ e = c.unresolvable t.baseName := by
  fun_induction resolveElement c none t with
  | case1 name => exact Build.map_eq_error.trans lookup_eq_error_iff
  | case2 inner ih => exact Build.map_eq_error.trans (ih wellFormed)
  | case3 name => exact Build.map_eq_error.trans lookup_eq_error_iff
  | case4 inner ih => exact Build.map_eq_error.trans (ih wellFormed.2)
  | case5 inner => exact absurd wellFormed.1 (by simp [TypeExpr.isNonNull])

theorem baseRef_eq_error_iff {t : TypeExpr} {optional : Bool} (unmarked : t.isNonNull = false)
    (wellFormed : t.WellFormed) :
    c.baseRef none optional t = .error e ↔
      ¬ c.settings.Resolves t.baseName ∧ e = c.unresolvable t.baseName := by
  cases t with
  | named name => exact lookup_eq_error_iff
  | list inner => exact Build.map_eq_error.trans (resolveElement_eq_error_iff wellFormed)
  | nonNull inner => cases unmarked

theorem resolveExpr_eq_error_iff {d : Demand} {t : TypeExpr} (noShape : d.shape = none)
    (wellFormed : t.WellFormed) :
    c.resolveExpr d t = .error e ↔
      ¬ c.settings.Resolves t.baseName ∧ e = c.unresolvable t.baseName := by
  obtain ⟨optional, policy, deprecated, shape⟩ := d
  cases noShape
  cases t with
  | named name => exact Build.map_eq_error.trans (baseRef_eq_error_iff rfl wellFormed)
  | list inner => exact Build.map_eq_error.trans (baseRef_eq_error_iff rfl wellFormed)
  | nonNull inner =>
    exact Build.map_eq_error.trans (baseRef_eq_error_iff wellFormed.1 wellFormed.2)

theorem resolve_eq_error_iff {d : Demand} {typeName : String} (noShape : d.shape = none) :
    c.resolve d typeName = .error e ↔
      ((∃ fault, TypeExpr.parse typeName = .error fault) ∧ e = c.unresolvable typeName) ∨
      ∃ t, TypeExpr.parse typeName = .ok t ∧ ¬ c.settings.Resolves t.baseName ∧
        e = c.unresolvable t.baseName := by
  rw [resolve, parseType]
  cases parsed : TypeExpr.parse typeName with
  | error fault =>
    show Except.error (c.unresolvable typeName) = Except.error e ↔ _
    simp [eq_comm]
  | ok t =>
    have wellFormed := (TypeExpr.parse_eq_ok_iff.mp parsed).1
    show c.resolveExpr d t = _ ↔ _
    rw [resolveExpr_eq_error_iff noShape wellFormed]
    simp

end Context

/-! ## Declared names -/

/-- Whatever a document declares, its settings know. -/
theorem Settings.resolves_declared (config : Config) {d : Document} (base : String)
    {decl : Declaration} (declared : decl ∈ d.declarations) :
    (ofConfig config d base).Resolves decl.name := by
  right
  by_cases mixed : ∃ other ∈ d.declarations, other.name = decl.name ∧ other.isScalar = true
  · left
    obtain ⟨scalar, inList, sameName, isScalar⟩ := mixed
    have inScalars : scalar ∈ d.declarations.filter (·.isScalar) :=
      List.mem_filter.mpr ⟨inList, isScalar⟩
    refine Dict.mem_keys_insertAll.mpr (.inl (Dict.mem_keys_insertAll.mpr (.inr ?_)))
    rw [List.map_map, ← sameName]
    exact List.mem_map.mpr ⟨scalar, inScalars, rfl⟩
  · right
    have known : decl.name ∈ (ofConfig config d base).declarations.keys := by
      refine Dict.mem_keys_insertAll.mpr (.inr ?_)
      rw [List.map_map]
      exact List.mem_map.mpr ⟨decl, declared, rfl⟩
    obtain ⟨last, found⟩ := Dict.mem_keys_iff.mp known
    refine ⟨last, found, ?_⟩
    rcases Dict.mem_of_get?_insertAll found with absent | membership
    · cases absent
    · obtain ⟨_, inList, same⟩ := List.mem_map.mp membership
      obtain ⟨sameName, rfl⟩ := Prod.mk.inj same
      exact Bool.eq_false_iff.mpr fun isScalar => mixed ⟨_, inList, sameName, isScalar⟩

/-- A well-formed type around a declared name resolves, whatever its layers. -/
theorem Context.exists_resolve_of_declared {config : Config} {d : Document} {base : String}
    {decl : Declaration} (declared : decl ∈ d.declarations) {t : TypeExpr}
    (wellFormed : t.WellFormed) (around : t.baseName = decl.name) {c : Context}
    (settings : c.settings = .ofConfig config d base) {demand : Demand}
    (noShape : demand.shape = none) : ∃ r, c.resolve demand t.render = .ok r := by
  cases result : c.resolve demand t.render with
  | ok r => exact ⟨r, rfl⟩
  | error e =>
    have parsed := TypeExpr.parse_render wellFormed
    rcases (resolve_eq_error_iff noShape).mp result with
      ⟨⟨fault, unread⟩, _⟩ | ⟨u, read, unknown, _⟩
    · rw [parsed] at unread
      cases unread
    · rw [parsed] at read
      cases read
      rw [settings, around] at unknown
      exact absurd (Settings.resolves_declared config base declared) unknown

/-- A type fails to resolve exactly when its text is no type expression or nobody knows the
name at its bottom, and the error tells the two apart.  In the settings of a document every
type around a declared name resolves; such a type is well formed when the name is a GraphQL
name and no mark is repeated. -/
theorem Context.resolve_fails_exactly :
    (∀ (c : Context) (optional : Option Bool) (policy : Option NullPolicy) (deprecated : Bool)
      (typeName : String) (e : BuildError),
      c.resolve { optional, policy, deprecated } typeName = .error e ↔
        ((∃ fault, TypeExpr.parse typeName = .error fault) ∧
          e = .unresolvableType typeName c.pathText) ∨
        ∃ t, TypeExpr.parse typeName = .ok t ∧ ¬ c.settings.Resolves t.baseName ∧
          e = .unresolvableType t.baseName c.pathText) ∧
    ∀ (config : Config) (d : Document) (base : String), ∀ decl ∈ d.declarations,
      ∀ t : TypeExpr, t.WellFormed → t.baseName = decl.name →
        ∀ c : Context, c.settings = .ofConfig config d base →
          ∀ (optional : Option Bool) (policy : Option NullPolicy) (deprecated : Bool),
            ∃ r, c.resolve { optional, policy, deprecated } t.render = .ok r := by
  refine ⟨fun c optional policy deprecated typeName e => resolve_eq_error_iff rfl, ?_⟩
  intro config d base decl declared t wellFormed around c settings optional policy deprecated
  exact exists_resolve_of_declared declared wellFormed around settings rfl

namespace Sample

/-- A document that declares a name as a scalar and as an enum. -/
def bothKinds : Document :=
  { declarations := [.scalar "Both" none, .enum "Both" none []] }

def inBothKinds : Context :=
  { settings := .ofConfig {} bothKinds "com.example", path := ["hero", "home"] }

theorem resolve_fails_exactly_planet :
    inBothKinds.resolve {} " [Planet!]" = .error (.unresolvableType "Planet" "hero.home") ∧
      inBothKinds.resolve {} " [Planet" = .error (.unresolvableType " [Planet" "hero.home") ∧
      ∃ r, inBothKinds.resolve {} "[[Both]!]!" = .ok r := by
  have location : inBothKinds.pathText = "hero.home" := by decide +kernel
  have parsed : TypeExpr.parse " [Planet!]" = .ok (.list (.nonNull (.named "Planet"))) := by
    with_unfolding_all rfl
  have unparsed : TypeExpr.parse " [Planet" = .error .unbalanced := by
    with_unfolding_all rfl
  have unknown : ¬ inBothKinds.settings.Resolves "Planet" := by
    rintro (builtIn | mapped | ⟨decl, declared, _⟩)
    · exact absurd builtIn (by decide)
    · exact absurd mapped (by decide +kernel)
    · have absent : (inBothKinds.settings.declaration? "Planet").isNone = true := by decide +kernel
      rw [declared] at absent
      cases absent
  rw [← location]
  refine ⟨?_, ?_, ?_⟩
  · exact (Context.resolve_fails_exactly.1 inBothKinds none none false _ _).mpr
      (.inr ⟨_, parsed, unknown, rfl⟩)
  · exact (Context.resolve_fails_exactly.1 inBothKinds none none false _ _).mpr
      (.inl ⟨⟨_, unparsed⟩, rfl⟩)
  · exact Context.resolve_fails_exactly.2 {} bothKinds "com.example" (.enum "Both" none [])
      (by simp [bothKinds]) (.nonNull (.list (.nonNull (.list (.named "Both")))))
      ⟨rfl, rfl, show isGraphqlName "Both" = true by decide⟩ rfl inBothKinds rfl none none false

end Sample

end QueryModel
