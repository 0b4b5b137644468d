import Mathlib.Data.List.Nodup
import QueryModel.Compile.Compilation

/-!
# Outcomes of a compilation

Compiling has two passes.  The first builds every item on its own, and the second walks
over the outcomes and refuses every class that it has seen.

The outcome of an item can be told without the second pass (`Item.outcome`).  It is what
the item builds, unless an item before it builds the same class.  The classes seen by the
second pass are those that the items before build: an item that fails adds none, and an
item that is refused adds none that is new (`refuseRepeated_eq`).

`accounts_ofDocument` is the account of a compilation that follows.
-/

namespace QueryModel

/-! ## The outcome of an item -/

namespace Item

/-- The class of the type that an item builds on its own. -/
def class? (c : Context) (i : Item) : Option ClassName :=
  match i.build c with
  | .ok (some t) => some t.className
  | _ => none

/-- The classes that items build, each on its own. -/
def classes (c : Context) (items : List Item) : List ClassName := items.filterMap (class? c)

/-- The outcome of an item after other items. -/
def outcome (c : Context) (before : List Item) (i : Item) : Outcome :=
  match i.build c with
  | .error e => ⟨i.kind, i.name, none, [.ofError i.name e]⟩
  | .ok none => ⟨i.kind, i.name, none, []⟩
  | .ok (some t) =>
    if t.className ∈ classes c before then
      ⟨i.kind, i.name, none, [.ofError i.name (.nameTaken t.name t.className.render)]⟩
    else ⟨i.kind, i.name, some t, []⟩

/-- The outcomes of items after other items. -/
def outcomes (c : Context) (before : List Item) : List Item → List Outcome
  | [] => []
  | i :: rest => i.outcome c before :: outcomes c (before ++ [i]) rest

variable {c : Context} {before : List Item} {i : Item}

theorem class?_eq_some {n : ClassName} :
    i.class? c = some n ↔ ∃ t, i.build c = .ok (some t) ∧ t.className = n := by
  rw [class?]
  split
  next t built => simp [built]
  next other =>
    constructor
    · intro absent
      cases absent
    · rintro ⟨t, built, _⟩
      exact absurd built (other t)

theorem mem_classes {n : ClassName} {items : List Item} :
    n ∈ classes c items ↔ ∃ j ∈ items, j.class? c = some n := List.mem_filterMap

theorem mem_classes_concat {n : ClassName} :
    n ∈ classes c (before ++ [i]) ↔ n ∈ classes c before ∨ i.class? c = some n := by
  simp only [mem_classes, List.mem_append, List.mem_singleton, or_and_right, exists_or,
    exists_eq_left]

theorem outcome_of_error {e : BuildError} (failed : i.build c = .error e) :
    i.outcome c before = ⟨i.kind, i.name, none, [.ofError i.name e]⟩ := by
  simp only [outcome, failed]

theorem outcome_of_fresh {t : GeneratedType} (built : i.build c = .ok (some t))
    (fresh : t.className ∉ classes c before) :
    i.outcome c before = ⟨i.kind, i.name, some t, []⟩ := by
  simp only [outcome, built, if_neg fresh]

theorem outcome_of_taken {t : GeneratedType} (built : i.build c = .ok (some t))
    (taken : t.className ∈ classes c before) :
    i.outcome c before =
      ⟨i.kind, i.name, none, [.ofError i.name (.nameTaken t.name t.className.render)]⟩ := by
  simp only [outcome, built, if_pos taken]

theorem kind_outcome (c : Context) (before : List Item) (i : Item) :
    (i.outcome c before).kind = i.kind := by
  rw [outcome]
  split
  · rfl
  · rfl
  · split <;> rfl

theorem name_outcome (c : Context) (before : List Item) (i : Item) :
    (i.outcome c before).name = i.name := by
  rw [outcome]
  split
  · rfl
  · rfl
  · split <;> rfl

/-- Only the first item that builds a class generates it. -/
theorem generated_outcome {t : GeneratedType} :
    (i.outcome c before).generated = some t ↔
      i.build c = .ok (some t) ∧ t.className ∉ classes c before := by
  constructor
  · intro generated
    cases built : i.build c with
    | error e =>
      rw [outcome_of_error built] at generated
      cases generated
    | ok result =>
      cases result with
      | none =>
        simp only [outcome, built] at generated
        cases generated
      | some u =>
        by_cases taken : u.className ∈ classes c before
        · rw [outcome_of_taken built taken] at generated
          cases generated
        · rw [outcome_of_fresh built taken] at generated
          cases generated
          exact ⟨rfl, taken⟩
  · rintro ⟨built, fresh⟩
    rw [outcome_of_fresh built fresh]

/-- The outcome depends on the classes of the items before, not on their order or
number. -/
theorem outcome_congr {other : List Item}
    (same : ∀ n, n ∈ classes c before ↔ n ∈ classes c other) :
    i.outcome c before = i.outcome c other := by
  simp only [outcome, same]

theorem outcomes_congr {other items : List Item}
    (same : ∀ n, n ∈ classes c before ↔ n ∈ classes c other) :
    outcomes c before items = outcomes c other items := by
  induction items generalizing before other with
  | nil => rfl
  | cons i rest ih =>
    have sameLater : ∀ n, n ∈ classes c (before ++ [i]) ↔ n ∈ classes c (other ++ [i]) := by
      intro n
      rw [mem_classes_concat, mem_classes_concat, same]
    rw [outcomes, outcomes, outcome_congr same, ih sameLater]

theorem outcomes_append (c : Context) (before items more : List Item) :
    outcomes c before (items ++ more) =
      outcomes c before items ++ outcomes c (before ++ items) more := by
  induction items generalizing before with
  | nil => rw [List.append_nil]; rfl
  | cons i rest ih =>
    rw [List.cons_append, outcomes, ih, List.append_assoc]
    rfl

theorem length_outcomes (c : Context) (before items : List Item) :
    (outcomes c before items).length = items.length := by
  induction items generalizing before with
  | nil => rfl
  | cons i rest ih => rw [outcomes, List.length_cons, List.length_cons, ih]

/-- The outcome of an item stands at its place. -/
theorem getElem?_outcomes (c : Context) (before after : List Item) (i : Item) :
    (outcomes c [] (before ++ i :: after))[before.length]? = some (i.outcome c before) := by
  rw [outcomes_append, outcomes, List.nil_append]
  have place := length_outcomes c [] before
  rw [List.getElem?_append_right (Nat.le_of_eq place), place, Nat.sub_self]
  rfl

theorem mem_outcomes {items : List Item} {o : Outcome} (membership : o ∈ outcomes c before items) :
    ∃ i ∈ items, ∃ earlier, o = i.outcome c earlier := by
  induction items generalizing before with
  | nil => cases membership
  | cons i rest ih =>
    rcases List.mem_cons.mp membership with rfl | later
    · exact ⟨i, List.mem_cons_self .., before, rfl⟩
    · obtain ⟨j, inRest, earlier, same⟩ := ih later
      exact ⟨j, List.mem_cons_of_mem _ inRest, earlier, same⟩

/-- No class is generated twice, and none that an item before builds. -/
theorem nodup_classes_outcomes (c : Context) (before items : List Item) :
    (((outcomes c before items).filterMap (·.generated)).map (·.className)).Nodup ∧
      ∀ t ∈ (outcomes c before items).filterMap (·.generated), t.className ∉ classes c before := by
  induction items generalizing before with
  | nil => exact ⟨List.nodup_nil, by simp [outcomes]⟩
  | cons i rest ih =>
    obtain ⟨distinct, apart⟩ := ih (before ++ [i])
    have older : ∀ t ∈ (outcomes c (before ++ [i]) rest).filterMap (·.generated),
        t.className ∉ classes c before := by
      intro t membership known
      exact apart t membership (mem_classes_concat.mpr (.inl known))
    rw [outcomes]
    cases generated : (i.outcome c before).generated with
    | none =>
      rw [List.filterMap_cons_none generated]
      exact ⟨distinct, older⟩
    | some t =>
      obtain ⟨built, fresh⟩ := generated_outcome.mp generated
      have builds : i.class? c = some t.className := class?_eq_some.mpr ⟨t, built, rfl⟩
      rw [List.filterMap_cons_some generated, List.map_cons, List.nodup_cons]
      refine ⟨⟨?_, distinct⟩, ?_⟩
      · intro repeated
        obtain ⟨u, membership, same⟩ := List.mem_map.mp repeated
        refine apart u membership (mem_classes_concat.mpr (.inr ?_))
        rw [builds, same]
      · intro u membership
        rcases List.mem_cons.mp membership with rfl | later
        · exact fresh
        · exact older u later

end Item

/-! ## The second pass -/

section SecondPass

variable {seen : List ClassName} {o : Outcome} {rest : List Outcome} {t : GeneratedType}

theorem refuseRepeated_cons_of_none (absent : o.generated = none) :
    refuseRepeated seen (o :: rest) = o :: refuseRepeated seen rest := by
  rw [refuseRepeated, absent]

theorem refuseRepeated_cons_of_mem (generated : o.generated = some t)
    (known : t.className ∈ seen) :
    refuseRepeated seen (o :: rest) = o.refuse t.className :: refuseRepeated seen rest := by
  simp only [refuseRepeated, generated, if_pos known]

theorem refuseRepeated_cons_of_not_mem (generated : o.generated = some t)
    (fresh : t.className ∉ seen) :
    refuseRepeated seen (o :: rest) = o :: refuseRepeated (t.className :: seen) rest := by
  simp only [refuseRepeated, generated, if_neg fresh]

end SecondPass

/-- The second pass sees the classes that the items before build. -/
theorem refuseRepeated_eq {c : Context} {seen : List ClassName} {before items : List Item}
    (sees : ∀ n, n ∈ seen ↔ n ∈ Item.classes c before) :
    refuseRepeated seen (items.map (Outcome.ofItem c)) = Item.outcomes c before items := by
  induction items generalizing seen before with
  | nil => rfl
  | cons i rest ih =>
    rw [List.map_cons, Item.outcomes]
    -- unless the item builds a new class, the pass goes on with what it has seen
    have goesOn : (∀ n, i.class? c = some n → n ∈ seen) →
        refuseRepeated seen (rest.map (Outcome.ofItem c)) =
          Item.outcomes c (before ++ [i]) rest := by
      intro known
      apply ih
      intro n
      rw [Item.mem_classes_concat, ← sees]
      exact ⟨.inl, fun either => either.elim id (known n)⟩
    cases built : i.build c with
    | error e =>
      have made : Outcome.ofItem c i = i.outcome c before := by
        rw [Item.outcome_of_error built, Outcome.ofItem, built]
      rw [made, refuseRepeated_cons_of_none (by rw [Item.outcome_of_error built]), goesOn]
      intro n builds
      simp [Item.class?, built] at builds
    | ok result =>
      have made : Outcome.ofItem c i = ⟨i.kind, i.name, result, []⟩ := by
        simp only [Outcome.ofItem, built]
      cases result with
      | none =>
        have outcome : i.outcome c before = ⟨i.kind, i.name, none, []⟩ := by
          simp only [Item.outcome, built]
        rw [made, outcome, refuseRepeated_cons_of_none rfl, goesOn]
        intro n builds
        simp [Item.class?, built] at builds
      | some t =>
        have builds : i.class? c = some t.className := Item.class?_eq_some.mpr ⟨t, built, rfl⟩
        by_cases taken : t.className ∈ Item.classes c before
        · have known : t.className ∈ seen := (sees _).mpr taken
          rw [made, refuseRepeated_cons_of_mem rfl known, Item.outcome_of_taken built taken, goesOn]
          · rfl
          · intro n same
            cases builds.symm.trans same
            exact known
        · have fresh : t.className ∉ seen := fun known => taken ((sees _).mp known)
          have seesMore : ∀ n, n ∈ t.className :: seen ↔ n ∈ Item.classes c (before ++ [i]) := by
            intro n
            rw [Item.mem_classes_concat, List.mem_cons, sees, builds, Option.some.injEq, or_comm,
              eq_comm]
          rw [made, refuseRepeated_cons_of_not_mem rfl fresh, Item.outcome_of_fresh built taken,
            ih seesMore]

theorem Compilation.outcomes_ofDocument (s : Settings) (d : Document) :
    (Compilation.ofDocument s d).outcomes = Item.outcomes { settings := s } [] (d.items s) :=
  refuseRepeated_eq fun n => by simp [Item.classes]

/-! ## The account -/

/-- The item for all scalars is there only when there are scalars, so every item of a
document builds a type or fails. -/
theorem Document.exists_type_of_item {s : Settings} {d : Document} {i : Item}
    (membership : i ∈ d.items s) {generated : Option GeneratedType}
    (built : i.build { settings := s } = .ok generated) : ∃ t, generated = some t := by
  cases i with
  | fragment f =>
    obtain ⟨t, _, built⟩ := Build.bind_eq_ok.mp built
    cases built
    exact ⟨_, rfl⟩
  | declaration decl =>
    cases decl with
    | enum name description values =>
      cases built
      exact ⟨_, rfl⟩
    | inputObject name description fields =>
      obtain ⟨t, _, built⟩ := Build.bind_eq_ok.mp built
      cases built
      exact ⟨_, rfl⟩
    | scalar name description => simp [Document.items, Declaration.isGenerated,
        Declaration.isScalar] at membership
  | scalars =>
    have filled : s.scalars.isEmpty = false := by
      simpa [Document.items] using membership
    cases built
    simp only [Context.scalarsType?, filled]
    exact ⟨_, rfl⟩
  | operation o =>
    obtain ⟨t, _, built⟩ := Build.bind_eq_ok.mp built
    cases built
    exact ⟨_, rfl⟩

/-- An outcome has a type and no diagnostic, or one diagnostic and no type. -/
def Outcome.Decided (o : Outcome) : Prop :=
  (∃ t, o.generated = some t ∧ o.diagnostics = []) ∨
    (o.generated = none ∧ ∃ e, o.diagnostics = [e])

theorem Outcome.Decided.hasErrors_iff {o : Outcome} (decided : o.Decided) :
    o.hasErrors = true ↔ o.generated = none := by
  rcases decided with ⟨t, generated, clean⟩ | ⟨absent, e, one⟩
  · simp [hasErrors, generated, clean]
  · simp [hasErrors, absent, one]

theorem length_generated_add_length_diagnostics {outcomes : List Outcome}
    (decided : ∀ o ∈ outcomes, o.Decided) :
    (outcomes.filterMap (·.generated)).length + (outcomes.flatMap (·.diagnostics)).length =
      outcomes.length := by
  induction outcomes with
  | nil => rfl
  | cons o rest ih =>
    have later := ih fun o membership => decided o (List.mem_cons_of_mem _ membership)
    rw [List.flatMap_cons, List.length_append, List.length_cons]
    rcases decided o (List.mem_cons_self ..) with ⟨t, generated, clean⟩ | ⟨absent, e, one⟩
    · simp only [List.filterMap_cons, generated, clean, List.length_cons, List.length_nil]
      omega
    · simp only [List.filterMap_cons, absent, one, List.length_singleton]
      omega

namespace Compilation

/-- What a compilation owes to the items it was made of. -/
structure Accounts (c : Context) (items : List Item) (made : Compilation) : Prop where
  /-- There is one outcome for every item, in order. -/
  inOrder : made.outcomes.map (fun o => (o.kind, o.name)) = items.map fun i => (i.kind, i.name)
  /-- Every outcome is a type or a diagnostic. -/
  decided : ∀ o ∈ made.outcomes, o.Decided
  /-- Types and diagnostics together are as many as the items. -/
  total : made.generated.length + made.errorCount = items.length
  /-- Something went wrong exactly when an item is without a type. -/
  hasErrors : made.hasErrors = true ↔ ∃ o ∈ made.outcomes, o.generated = none
  /-- No two generated types have the same package and name. -/
  distinct : (made.generated.map fun t => (t.package, t.name)).Nodup
  /-- An item that fails has the error as its diagnostic. -/
  failed : ∀ before i after e, items = before ++ i :: after → i.build c = .error e →
    made.outcomes[before.length]? = some ⟨i.kind, i.name, none, [.ofError i.name e]⟩
  /-- The first item that builds a class keeps what it builds. -/
  first : ∀ before i after t, items = before ++ i :: after → i.build c = .ok (some t) →
    (∀ j ∈ before, j.class? c ≠ some t.className) →
    made.outcomes[before.length]? = some ⟨i.kind, i.name, some t, []⟩
  /-- A later one is refused, and its diagnostic points at the class. -/
  later : ∀ before i after t, items = before ++ i :: after → i.build c = .ok (some t) →
    (∃ j ∈ before, j.class? c = some t.className) →
    ∃ e, made.outcomes[before.length]? = some ⟨i.kind, i.name, none, [e]⟩ ∧
      e.item = i.name ∧ e.code = some "naming_collision" ∧
      e.location =
        if t.className.render = "" then none else some t.className.render

theorem decided_outcomes {s : Settings} {d : Document} {o : Outcome}
    (membership : o ∈ (ofDocument s d).outcomes) : o.Decided := by
  rw [outcomes_ofDocument] at membership
  obtain ⟨i, inItems, before, rfl⟩ := Item.mem_outcomes membership
  cases built : i.build { settings := s } with
  | error e =>
    rw [Item.outcome_of_error built]
    exact .inr ⟨rfl, _, rfl⟩
  | ok result =>
    obtain ⟨t, rfl⟩ := Document.exists_type_of_item inItems built
    by_cases taken : t.className ∈ Item.classes { settings := s } before
    · rw [Item.outcome_of_taken built taken]
      exact .inr ⟨rfl, _, rfl⟩
    · rw [Item.outcome_of_fresh built taken]
      exact .inl ⟨t, rfl, rfl⟩

theorem map_kind_name_outcomes (c : Context) (before items : List Item) :
    (Item.outcomes c before items).map (fun o => (o.kind, o.name)) =
      items.map fun i => (i.kind, i.name) := by
  induction items generalizing before with
  | nil => rfl
  | cons i rest ih =>
    rw [Item.outcomes, List.map_cons, List.map_cons, ih, Item.kind_outcome, Item.name_outcome]

/-- No class is generated twice. -/
theorem nodup_classes_ofDocument (s : Settings) (d : Document) :
    ((ofDocument s d).generated.map (·.className)).Nodup := by
  rw [generated, outcomes_ofDocument]
  exact (Item.nodup_classes_outcomes { settings := s } [] (d.items s)).1

/-- The account of a compilation, whatever the settings. -/
theorem accounts_ofDocument (s : Settings) (d : Document) :
    (ofDocument s d).Accounts { settings := s } (d.items s) where
  inOrder := by rw [outcomes_ofDocument, map_kind_name_outcomes]
  decided := fun o membership => decided_outcomes membership
  total := by
    rw [errorCount, diagnostics, generated,
      length_generated_add_length_diagnostics fun o membership => decided_outcomes membership,
      outcomes_ofDocument, Item.length_outcomes]
  hasErrors := by
    rw [hasErrors, List.any_eq_true]
    constructor
    · rintro ⟨o, membership, wrong⟩
      exact ⟨o, membership, (decided_outcomes membership).hasErrors_iff.mp wrong⟩
    · rintro ⟨o, membership, absent⟩
      exact ⟨o, membership, (decided_outcomes membership).hasErrors_iff.mpr absent⟩
  distinct := by
    refine List.Nodup.of_map (fun pair : String × String => ClassName.mk pair.1 pair.2) ?_
    rw [List.map_map]
    exact nodup_classes_ofDocument s d
  failed := by
    intro before i after e split failed
    rw [outcomes_ofDocument, split, Item.getElem?_outcomes, Item.outcome_of_error failed]
  first := by
    intro before i after t split built fresh
    rw [outcomes_ofDocument, split, Item.getElem?_outcomes, Item.outcome_of_fresh built]
    intro known
    obtain ⟨j, earlier, builds⟩ := Item.mem_classes.mp known
    exact fresh j earlier builds
  later := by
    intro before i after t split built repeated
    rw [outcomes_ofDocument, split, Item.getElem?_outcomes,
      Item.outcome_of_taken built (Item.mem_classes.mpr repeated)]
    refine ⟨_, rfl, rfl, rfl, ?_⟩
    simp [Diagnostic.ofError, BuildError.path?, Option.filter]

end Compilation

namespace Sample

/-- A document that declares the same enum twice. -/
def episodesTwice : Document :=
  { declarations := [.enum "Episode" none [], .enum "Episode" none []] }

theorem accounts_episodesTwice :
    ∃ e, (Compilation.ofDocument (.ofConfig {} episodesTwice "com.example")
        episodesTwice).outcomes[1]? = some ⟨.enum, "Episode", none, [e]⟩ ∧
      e.code = some "naming_collision" ∧ e.location = some "com.example.type.Episode" := by
  let episode : Item := .declaration (.enum "Episode" none [])
  obtain ⟨e, place, _, code, location⟩ :=
    (Compilation.accounts_ofDocument (.ofConfig {} episodesTwice "com.example")
      episodesTwice).later [episode] episode _ _ rfl rfl ⟨episode, List.mem_singleton_self _, rfl⟩
  exact ⟨e, place, code, location.trans (by decide +kernel)⟩

end Sample

end QueryModel
