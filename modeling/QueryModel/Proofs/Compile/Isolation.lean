import QueryModel.Proofs.Compile.Outcomes

/-!
# Operations are isolated

Operations come last, and the settings of a document do not look at them.  So an operation
can change the outcomes of other items in one way only: by building a class that a later
operation builds too.  An operation without a type does not even do that.  If it failed, it
builds no class, and if it was refused, an item before it builds the same class.

`outcomes_isolated` compares the runs of documents that differ in their operations.
-/

namespace QueryModel

/-- An item that ends without a type adds no class. -/
theorem Item.mem_classes_concat_of_none {c : Context} {before : List Item} {i : Item}
    (absent : (i.outcome c before).generated = none) (n : ClassName) :
    n ∈ classes c (before ++ [i]) ↔ n ∈ classes c before := by
  rw [mem_classes_concat]
  constructor
  · rintro (known | builds)
    · exact known
    · obtain ⟨t, built, rfl⟩ := class?_eq_some.mp builds
      by_contra fresh
      rw [generated_outcome.mpr ⟨built, fresh⟩] at absent
      cases absent
  · exact .inl

namespace Document

/-- The document with other operations. -/
def withOperations (d : Document) (operations : List Operation) : Document :=
  { d with operations }

/-- The outcomes of a document under a configuration and a base package. -/
def outcomes (d : Document) (config : Config) (base : String) : List Outcome :=
  (Compilation.ofDocument (.ofConfig config d base) d).outcomes

/-- The items that are no operations. -/
def otherItems (d : Document) (s : Settings) : List Item := (d.withOperations []).items s

theorem items_withOperations (d : Document) (s : Settings) (operations : List Operation) :
    (d.withOperations operations).items s = d.otherItems s ++ operations.map .operation := by
  simp only [otherItems, items, withOperations, List.map_nil, List.append_nil]

/-- Documents that differ in their operations have the same settings. -/
theorem outcomes_withOperations (d : Document) (config : Config) (base : String)
    (operations : List Operation) :
    (d.withOperations operations).outcomes config base =
      Item.outcomes { settings := .ofConfig config d base } []
        (d.otherItems (.ofConfig config d base) ++ operations.map .operation) := by
  rw [outcomes, Compilation.outcomes_ofDocument, items_withOperations]
  rfl

theorem kind_of_mem_otherItems {d : Document} {s : Settings} {i : Item}
    (membership : i ∈ d.otherItems s) : i.kind ≠ .operation := by
  cases i with
  | fragment f => simp [Item.kind]
  | declaration decl => cases decl <;> simp [Item.kind]
  | scalars => simp [Item.kind]
  | operation o =>
    simp only [otherItems, items, withOperations] at membership
    split at membership <;> simp at membership

/-- The outcomes of the other items are those that are not of an operation. -/
theorem filter_outcomes_withOperations (d : Document) (config : Config) (base : String)
    (operations : List Operation) :
    ((d.withOperations operations).outcomes config base).filter (·.kind ≠ .operation) =
      (d.withOperations []).outcomes config base := by
  rw [outcomes_withOperations, outcomes_withOperations, Item.outcomes_append, List.filter_append,
    List.map_nil, List.append_nil]
  have others : ∀ o ∈ Item.outcomes { settings := .ofConfig config d base } []
      (d.otherItems (.ofConfig config d base)), o.kind ≠ .operation := by
    intro o membership
    obtain ⟨i, other, before, rfl⟩ := Item.mem_outcomes membership
    rw [Item.kind_outcome]
    exact kind_of_mem_otherItems other
  have own : ∀ before, ∀ o ∈ Item.outcomes { settings := .ofConfig config d base } before
      (operations.map .operation), o.kind = .operation := by
    intro before o membership
    obtain ⟨i, isOperation, before, rfl⟩ := Item.mem_outcomes membership
    obtain ⟨operation, _, rfl⟩ := List.mem_map.mp isOperation
    exact Item.kind_outcome ..
  rw [List.filter_eq_self.mpr (by simpa using others),
    List.filter_eq_nil_iff.mpr (by simpa using own _), List.append_nil]

/-- An operation without a type can be left out, and the other outcomes stay.  Further
operations leave the outcomes before them as they are, and no other item depends on the
operations at all. -/
theorem outcomes_isolated (d : Document) (config : Config) (base : String) :
    (∀ before o after, d.operations = before ++ o :: after →
      ∃ outcome later,
        d.outcomes config base =
          (d.withOperations before).outcomes config base ++ outcome :: later ∧
        outcome.kind = .operation ∧ outcome.name = o.operationName ∧
        (outcome.generated = none →
          (d.withOperations (before ++ after)).outcomes config base =
            (d.withOperations before).outcomes config base ++ later)) ∧
    (∀ more, d.outcomes config base <+:
      (d.withOperations (d.operations ++ more)).outcomes config base) ∧
    ∀ operations,
      ((d.withOperations operations).outcomes config base).filter (·.kind ≠ .operation) =
        (d.outcomes config base).filter (·.kind ≠ .operation) := by
  let c : Context := { settings := .ofConfig config d base }
  let others := d.otherItems c.settings
  refine ⟨?_, ?_, ?_⟩
  · intro before o after split
    let earlier := others ++ before.map Item.operation
    refine ⟨(Item.operation o).outcome c earlier,
      Item.outcomes c (earlier ++ [.operation o]) (after.map .operation), ?_,
      Item.kind_outcome .., Item.name_outcome .., ?_⟩
    · have whole : d = d.withOperations (before ++ o :: after) := by rw [← split]; rfl
      rw [whole, outcomes_withOperations]
      rw [outcomes_withOperations, List.map_append, List.map_cons, ← List.append_assoc,
        Item.outcomes_append]
      rfl
    · intro absent
      rw [outcomes_withOperations, outcomes_withOperations, List.map_append,
        ← List.append_assoc, Item.outcomes_append,
        Item.outcomes_congr (Item.mem_classes_concat_of_none absent)]
      rfl
  · intro more
    have whole := outcomes_withOperations d config base d.operations
    rw [outcomes_withOperations, List.map_append, ← List.append_assoc, Item.outcomes_append,
      ← whole]
    exact List.prefix_append _ _
  · intro operations
    rw [filter_outcomes_withOperations]
    exact (filter_outcomes_withOperations d config base d.operations).symm

end Document

namespace Sample

/-- An operation of no known kind. -/
def unknownKind : Operation :=
  { operationName := "Broken", operationType := "fragment", parameters := [], source := ""
    fields := [], filePath := "src/main/graphql/com/example/Broken.graphql"
    fragmentsReferenced := [], operationId := "" }

/-- An operation that refers to a fragment that is not there. -/
def unknownFragment : Operation :=
  { unknownKind with operationName := "Hero", operationType := "query"
                     fragmentsReferenced := ["HeroDetails"] }

/-- The outcome of one operation is taken out when the operation is. -/
theorem outcomes_isolated_broken :
    ∃ outcome later, outcome.generated = none ∧
      ({ operations := [unknownKind, unknownFragment] } : Document).outcomes {} "com.example" =
        ({} : Document).outcomes {} "com.example" ++ outcome :: later ∧
      ({ operations := [unknownFragment] } : Document).outcomes {} "com.example" =
        ({} : Document).outcomes {} "com.example" ++ later := by
  let d : Document := { operations := [unknownKind, unknownFragment] }
  obtain ⟨outcome, later, whole, -, -, without⟩ :=
    (d.outcomes_isolated {} "com.example").1 [] unknownKind [unknownFragment] rfl
  have types : (d.outcomes {} "com.example").map (·.generated.isSome) = [true, false, false] := by
    decide +kernel
  have others : ((d.withOperations []).outcomes {} "com.example").map (·.generated.isSome) =
      [true] := by
    decide +kernel
  have absent : outcome.generated = none := by
    rw [whole, List.map_append, others] at types
    simpa using (List.cons.inj (List.cons.inj types).2).1
  exact ⟨outcome, later, absent, whole, without absent⟩

end Sample

end QueryModel
