import QueryModel.Build.Flatten
import QueryModel.Naming.ShapeName
import QueryModel.TypeExpr

/-!
# Candidates for names of nested shapes

Every shape nested in a shape takes its name from a field or an inline fragment.
The candidates of a selection are the names that its fields and inline fragments
would give, at all depths.  With those of all fragments they bound the names
below a shape: no nested shape can have another name.

A nested shape never takes the name of a shape around it.  So the candidates that
are still free get fewer with each level, and `Context.freeNames` counts them.
-/

namespace QueryModel

/-! ## Candidates -/

/-- Whether a text is the type expression of a list. -/
def isListType (typeName : String) : Bool :=
  match TypeExpr.parse typeName with
  | .ok t => t.isList
  | .error _ => false

/-- The name of the shape below a field. -/
def Field.shapeName (f : Field) : String :=
  nestedShapeName f.responseName (isListType f.typeName)

/-- The name of the shape of an inline fragment. -/
def InlineOf.shapeName {F : Type} (i : InlineOf F) : String := inlineShapeName i.typeCondition

mutual

/-- The candidates of a field: its own, and those of the selection below it. -/
def Field.candidates : Field → List String
  | { responseName, typeName, fields, inlineFragments, .. } =>
    nestedShapeName responseName (isListType typeName) ::
      (Field.nestedCandidates fields ++ Field.nestedInlineCandidates inlineFragments)

/-- The candidates of nested fields. -/
def Field.nestedCandidates : Option (List Field) → List String
  | none => []
  | some fields => Field.allCandidates fields

/-- The candidates of nested inline fragments. -/
def Field.nestedInlineCandidates : Option (List (InlineOf Field)) → List String
  | none => []
  | some inlines => Field.inlineCandidates inlines

/-- The candidates of several fields. -/
def Field.allCandidates : List Field → List String
  | [] => []
  | field :: rest => field.candidates ++ Field.allCandidates rest

/-- The candidates of several inline fragments. -/
def Field.inlineCandidates : List (InlineOf Field) → List String
  | [] => []
  | { typeCondition, fields, .. } :: rest =>
    inlineShapeName typeCondition :: (Field.allCandidates fields ++ Field.inlineCandidates rest)

end

/-- The candidates of a selection, spreads aside. -/
def Selection.candidates (s : Selection) : List String :=
  Field.allCandidates s.fields ++ Field.inlineCandidates s.inlines

/-- The candidates of all fragments. -/
def Settings.candidates (s : Settings) : List String :=
  s.fragments.entries.flatMap fun entry => entry.2.selection.candidates

theorem mem_allCandidates {name : String} {fields : List Field} :
    name ∈ Field.allCandidates fields ↔ ∃ f ∈ fields, name ∈ f.candidates := by
  induction fields with
  | nil => simp [Field.allCandidates]
  | cons f rest ih => simp [Field.allCandidates, ih]

theorem mem_inlineCandidates {name : String} {inlines : List InlineFragment} :
    name ∈ Field.inlineCandidates inlines ↔
      ∃ i ∈ inlines, name = i.shapeName ∨ name ∈ i.selection.candidates := by
  induction inlines with
  | nil => simp [Field.inlineCandidates]
  | cons i rest ih =>
    simp [Field.inlineCandidates, ih, InlineOf.shapeName, Selection.candidates,
      InlineOf.selection, or_assoc]

theorem mem_field_candidates {name : String} {f : Field} :
    name ∈ f.candidates ↔ name = f.shapeName ∨ name ∈ f.selection.candidates := by
  cases f with
  | mk _ _ _ _ _ _ fields _ inlines _ =>
    cases fields <;> cases inlines <;>
      simp [Field.candidates, Field.nestedCandidates, Field.nestedInlineCandidates,
        Field.shapeName, Selection.candidates, Field.selection, Field.allCandidates,
        Field.inlineCandidates]

theorem mem_append_candidates {name : String} {a b : Selection} :
    name ∈ (a ++ b).candidates ↔ name ∈ a.candidates ∨ name ∈ b.candidates := by
  simp only [Selection.candidates, Selection.fields_append, Selection.inlines_append]
  rw [List.mem_append, mem_allCandidates, mem_inlineCandidates, List.mem_append,
    mem_allCandidates, mem_inlineCandidates, List.mem_append, mem_allCandidates,
    mem_inlineCandidates]
  grind

/-! ## Levels and merged fields -/

/-- What spreads contribute comes from fragments. -/
theorem Settings.mem_contributions {s : Settings} {path : String} {chain spreads : List String}
    {level : Level} (contributed : s.contributions path chain spreads = .ok level) :
    (∀ f ∈ level.fields, ∃ entry ∈ s.fragments.entries, f ∈ entry.2.fields) ∧
      ∀ i ∈ level.inlines, ∃ entry ∈ s.fragments.entries, i ∈ entry.2.inlineFragments := by
  fun_induction Settings.contributions s path chain spreads generalizing level with
  | case1 =>
    cases contributed
    simp
  | case2 => cases contributed
  | case3 chain spread rest fresh f found smaller ihInner ihLater =>
    cases inner : s.contributions path (spread :: chain) f.fragmentSpreads with
    | error e => simp [inner, bind, Except.bind] at contributed
    | ok innerLevel =>
      cases later : s.contributions path chain rest with
      | error e => simp [inner, later, bind, Except.bind] at contributed
      | ok laterLevel =>
        simp only [inner, later, bind, Except.bind, pure, Except.pure, Except.ok.injEq]
          at contributed
        subst contributed
        have entry := mem_of_lookup_eq_some found
        have innerFacts := ihInner inner
        have laterFacts := ihLater later
        constructor
        · intro g membership
          simp only [Level.fields_append, List.mem_append] at membership
          rcases membership with (own | fromInner) | fromLater
          · exact ⟨_, entry, own⟩
          · exact innerFacts.1 g fromInner
          · exact laterFacts.1 g fromLater
        · intro g membership
          simp only [Level.inlines_append, List.mem_append] at membership
          rcases membership with (own | fromInner) | fromLater
          · exact ⟨_, entry, own⟩
          · exact innerFacts.2 g fromInner
          · exact laterFacts.2 g fromLater
  | case4 chain spread rest known ih => exact ih contributed

/-- The candidates below a shape: those of its selection and of all fragments. -/
def Context.candidates (c : Context) (s : Selection) : List String :=
  s.candidates ++ c.settings.candidates

theorem Context.mem_candidates_of_field {c : Context} {chain : List String} {s : Selection}
    {level : Level} (flattened : c.flatten chain s = .ok level) {f : Field}
    (membership : f ∈ level.fields) {name : String} (candidate : name ∈ f.candidates) :
    name ∈ c.candidates s := by
  simp only [Context.flatten, bind, Except.bind] at flattened
  split at flattened
  · simp at flattened
  · next contributed result =>
    simp only [pure, Except.pure, Except.ok.injEq] at flattened
    subst flattened
    simp only [Level.fields_append, List.mem_append] at membership
    simp only [Context.candidates, List.mem_append, Settings.candidates, List.mem_flatMap,
      Selection.candidates, mem_allCandidates]
    rcases membership with own | spread
    · exact .inl (.inl ⟨f, own, candidate⟩)
    · obtain ⟨entry, entryMembership, fieldMembership⟩ :=
        (Settings.mem_contributions result).1 f spread
      exact .inr ⟨entry, entryMembership, .inl ⟨f, fieldMembership, candidate⟩⟩

theorem Context.mem_candidates_of_inline {c : Context} {chain : List String} {s : Selection}
    {level : Level} (flattened : c.flatten chain s = .ok level) {i : InlineFragment}
    (membership : i ∈ level.inlines) {name : String}
    (candidate : name = i.shapeName ∨ name ∈ i.selection.candidates) :
    name ∈ c.candidates s := by
  simp only [Context.flatten, bind, Except.bind] at flattened
  split at flattened
  · simp at flattened
  · next contributed result =>
    simp only [pure, Except.pure, Except.ok.injEq] at flattened
    subst flattened
    simp only [Level.inlines_append, List.mem_append] at membership
    simp only [Context.candidates, List.mem_append, Settings.candidates, List.mem_flatMap]
    rcases membership with own | spread
    · exact .inl (List.mem_append.2 (.inr (mem_inlineCandidates.2 ⟨i, own, candidate⟩)))
    · obtain ⟨entry, entryMembership, inlineMembership⟩ :=
        (Settings.mem_contributions result).2 i spread
      exact .inr ⟨entry, entryMembership,
        List.mem_append.2 (.inr (mem_inlineCandidates.2 ⟨i, inlineMembership, candidate⟩))⟩

/-- The name of the shape below a merged field. -/
def MergedField.shapeName (m : MergedField) : String := m.first.shapeName

/-- A merged field is made of some of the given fields. -/
def MergedField.From (fields : List Field) (m : MergedField) : Prop :=
  m.first ∈ fields ∧ ∀ name ∈ m.nested.candidates, ∃ f ∈ fields, name ∈ f.selection.candidates

theorem from_mergeField {fields : List Field} {f : Field} (membership : f ∈ fields)
    {ms : List MergedField} (all : ∀ m ∈ ms, m.From fields) :
    ∀ m ∈ mergeField f ms, m.From fields := by
  induction ms with
  | nil =>
    intro m single
    simp only [mergeField, List.mem_singleton] at single
    subst single
    exact ⟨membership, fun name candidate => ⟨f, membership, candidate⟩⟩
  | cons head rest ih =>
    intro m merged
    have headFrom := all head (by simp)
    have restFrom := ih fun m h => all m (List.mem_cons_of_mem _ h)
    simp only [mergeField] at merged
    split at merged
    · rcases List.mem_cons.1 merged with rfl | later
      · refine ⟨headFrom.1, fun name candidate => ?_⟩
        rcases mem_append_candidates.1 candidate with old | new
        · exact headFrom.2 name old
        · exact ⟨f, membership, new⟩
      · exact all m (List.mem_cons_of_mem _ later)
    · rcases List.mem_cons.1 merged with rfl | later
      · exact headFrom
      · exact restFrom m later

/-- Every merged field is made of the fields that were merged. -/
theorem from_mergeFields {fields : List Field} {m : MergedField}
    (membership : m ∈ mergeFields fields) : m.From fields := by
  have general : ∀ (rest : List Field) (ms : List MergedField),
      (∀ f ∈ rest, f ∈ fields) → (∀ m ∈ ms, m.From fields) →
        ∀ m ∈ rest.foldl (fun ms f => mergeField f ms) ms, m.From fields := by
    intro rest
    induction rest with
    | nil => intro ms _ all m h; exact all m h
    | cons f rest ih =>
      intro ms inFields all
      exact ih _ (fun g h => inFields g (List.mem_cons_of_mem _ h))
        (from_mergeField (inFields f (by simp)) all)
  exact general fields [] (fun f h => h) (by simp) m membership

/-! ## Free candidates -/

theorem nodup_eraseDups (names : List String) : names.eraseDups.Nodup := by
  match names with
  | [] => exact .nil
  | name :: rest =>
    rw [List.eraseDups_cons]
    refine List.nodup_cons.mpr ⟨?_, nodup_eraseDups _⟩
    simp
termination_by names.length
decreasing_by exact Nat.lt_succ_of_le (List.length_filter_le _ _)

/-- How many candidates are free below a shape. -/
def Context.freeNames (c : Context) (name : String) (s : Selection) : Nat :=
  ((c.candidates s).filter fun n => !(c.reserve name).isReserved n).eraseDups.length

/-- Below a nested shape fewer names are free than below the shape itself. -/
theorem Context.freeNames_lt {c : Context} {name step nestedName : String}
    {s nested : Selection} (candidate : nestedName ∈ c.candidates s)
    (free : (c.reserve name).isReserved nestedName = false)
    (below : ∀ n ∈ nested.candidates, n ∈ c.candidates s) :
    ((c.reserve name).push step).freeNames nestedName nested < c.freeNames name s := by
  let inner := (((c.reserve name).push step).candidates nested).filter
    fun n => !(((c.reserve name).push step).reserve nestedName).isReserved n
  have absent : nestedName ∉ inner.eraseDups := by
    rw [List.mem_eraseDups]
    simp [inner, Context.reserve, Context.push, Context.isReserved]
  have smaller : (nestedName :: inner.eraseDups).length ≤ c.freeNames name s := by
    refine (List.nodup_cons.2 ⟨absent, nodup_eraseDups inner⟩).length_le_of_subset ?_
    intro n membership
    rw [List.mem_eraseDups, List.mem_filter]
    rcases List.mem_cons.1 membership with rfl | later
    · exact ⟨candidate, by simp [free]⟩
    · rw [List.mem_eraseDups, List.mem_filter] at later
      refine ⟨?_, ?_⟩
      · have mine := later.1
        simp only [Context.candidates, List.mem_append] at mine
        rcases mine with nestedCandidate | shared
        · exact below n nestedCandidate
        · exact List.mem_append.2 (.inr shared)
      · have notReserved := later.2
        simp [Context.reserve, Context.push, Context.isReserved] at notReserved ⊢
        exact ⟨notReserved.1, notReserved.2.1⟩
  exact smaller

end QueryModel
