import QueryModel.Proofs.Shape.Names

/-!
# The name of an operation and the names inside it

The type of an operation holds the shape of its response, and that shape holds all others.  The
name of the operation is taken before the response is built, so no nested shape gets it
(`avoids_of_shape`).  The shape of the response itself is called `Data` whatever is taken.

A semantic name ends with the kind of the operation and is never `Data`.  The name of a file may
be.  `name_notMem_allNames_iff` says that this is the only clash, and `name_mem_allNames_dataFile`
that it happens.
-/

namespace QueryModel

open Text

/-! ## Names of a tree -/

namespace Shape

theorem namesBelow_eq_flatMap (shapes : List Shape) :
    namesBelow shapes = shapes.flatMap allNames := by
  induction shapes with
  | nil => rw [namesBelow, List.flatMap_nil]
  | cons shape rest ih => rw [namesBelow, List.flatMap_cons, ih]

theorem allNames_eq (shape : Shape) :
    shape.allNames = shape.name :: shape.nested.flatMap allNames := by
  cases shape
  rw [allNames, namesBelow_eq_flatMap]

/-- The names of a tree are those of the shapes in it. -/
theorem mem_allNames {shape : Shape} {n : String} :
    n ∈ shape.allNames ↔ ∃ inner, Relation.ReflTransGen Nests shape inner ∧ inner.name = n := by
  rw [allNames_eq, List.mem_cons, List.mem_flatMap]
  constructor
  · rintro (rfl | ⟨nested, nests, below⟩)
    · exact ⟨shape, .refl, rfl⟩
    · obtain ⟨inner, path, named⟩ := mem_allNames.mp below
      exact ⟨inner, .head nests path, named⟩
  · rintro ⟨inner, path, rfl⟩
    rcases Relation.ReflTransGen.cases_head path with rfl | ⟨nested, nests, rest⟩
    · exact .inl rfl
    · exact .inr ⟨nested, nests, mem_allNames.mpr ⟨inner, rest, rfl⟩⟩
termination_by sizeOf shape
decreasing_by
  all_goals
    have smaller := List.sizeOf_lt_of_mem nests
    cases shape
    simp only [Shape.mk.sizeOf_spec] at smaller ⊢
    omega

/-- A name that all nested shapes avoid can only be that of the root. -/
theorem Avoids.mem_allNames_iff {shape : Shape} {n : String} (avoids : shape.Avoids [n]) :
    n ∈ shape.allNames ↔ shape.name = n := by
  rw [mem_allNames]
  constructor
  · rintro ⟨inner, path, named⟩
    rcases Relation.reflTransGen_iff_eq_or_transGen.mp path with rfl | below
    · exact named
    · exact absurd (List.mem_singleton.mpr named) (avoids inner below)
  · intro named
    exact ⟨shape, .refl, named⟩

end Shape

/-! ## Names of operations -/

/-- A semantic name ends with the kind. -/
theorem endsWith_operationTypeName (operationName filePath : String) (kind : OperationKind) :
    endsWith (operationTypeName operationName filePath kind true) kind.suffix = true := by
  simp only [operationTypeName, if_true]
  split
  next ends => exact ends
  next =>
    rw [endsWith, List.isSuffixOf_iff_suffix, String.toList_append]
    exact List.suffix_append _ _

theorem operationTypeName_ne_data (operationName filePath : String) (kind : OperationKind) :
    operationTypeName operationName filePath kind true ≠ dataTypeName := by
  intro isData
  have ends := endsWith_operationTypeName operationName filePath kind
  rw [isData] at ends
  cases kind <;> exact absurd ends (by decide)

namespace Context

variable {c : Context} {o : Operation} {t : OperationType}

theorem name_operationType (built : c.operationType o = .ok t) :
    t.name = operationTypeName o.operationName o.filePath t.kind c.settings.semanticNames := by
  obtain ⟨_, _, _, _, _, _, _, _, _, _, rfl⟩ := operationType_eq_ok.mp built
  rfl

theorem data_operationType (built : c.operationType o = .ok t) :
    (c.reserve t.name).shape [] dataTypeName ⟨o.fields, [], []⟩ = .ok t.data := by
  obtain ⟨_, _, _, _, _, _, _, _, _, shaped, rfl⟩ := operationType_eq_ok.mp built
  exact shaped

/-- Of the shapes inside an operation only the outermost can have its name. -/
theorem name_mem_allNames_iff (built : c.operationType o = .ok t) :
    t.name ∈ t.data.allNames ↔ t.name = dataTypeName := by
  have shaped := data_operationType built
  have avoids : t.data.Avoids [t.name] := by
    refine (avoids_of_shape shaped).mono ?_
    intro name membership
    simp [reserve, List.mem_singleton.mp membership]
  rw [avoids.mem_allNames_iff, name_of_shape shaped]
  exact eq_comm

/-- No shape inside an operation has its name, unless operations are named after files and the
file gives the name of the response. -/
theorem name_notMem_allNames_iff (built : c.operationType o = .ok t) :
    t.name ∉ t.data.allNames ↔
      c.settings.semanticNames = true ∨ pascalCase (fileStem o.filePath) ≠ dataTypeName := by
  rw [name_mem_allNames_iff built, name_operationType built]
  cases c.settings.semanticNames with
  | true => exact iff_of_true (operationTypeName_ne_data _ _ _) (.inl rfl)
  | false => simp [operationTypeName]

end Context

/-! ## Operations named after files -/

namespace Sample

/-- Settings under which operations are named after files. -/
def fileNames : Context := { settings := .ofConfig { semanticNames := false } {} "com.example" }

/-- An operation from a file. -/
def loadFrom (filePath : String) : Operation :=
  { operationName := "Load", operationType := "query", parameters := [], source := "", filePath
    fields := [.holding "hero" "Character" [.leaf "name" "String!"]]
    fragmentsReferenced := [], operationId := "" }

/-- A file that only starts with the name of the response does no harm. -/
theorem name_notMem_allNames_dataPage :
    ∃ type, fileNames.operationType (loadFrom "src/main/graphql/com/example/data_page.graphql") =
      .ok type ∧ type.name = "DataPage" ∧ "DataPage" ∉ type.data.allNames := by
  have few : (fileNames.reserve "DataPage").freeNames dataTypeName
      { fields := [.holding "hero" "Character" [.leaf "name" "String!"]] } < 20 := by
    decide +kernel
  obtain ⟨type, built⟩ : ∃ type, fileNames.operationType
      (loadFrom "src/main/graphql/com/example/data_page.graphql") = .ok type :=
    Context.exists_operationType "DataPage" rfl (by decide +kernel) (by decide +kernel)
      (by decide +kernel) (by decide +kernel) few (by decide +kernel)
  have stem : pascalCase (fileStem "src/main/graphql/com/example/data_page.graphql") =
      "DataPage" := by decide +kernel
  have named : type.name = "DataPage" := (Context.name_operationType built).trans stem
  have apart : type.name ∉ type.data.allNames :=
    (Context.name_notMem_allNames_iff built).mpr (.inr (by decide +kernel))
  exact ⟨type, built, named, named ▸ apart⟩

/-- A file with the name of the response gives the operation and its response one name. -/
theorem name_mem_allNames_dataFile :
    ∃ type, fileNames.operationType (loadFrom "src/main/graphql/com/example/data.graphql") =
      .ok type ∧ type.name = "Data" ∧ "Data" ∈ type.data.allNames := by
  have few : (fileNames.reserve "Data").freeNames dataTypeName
      { fields := [.holding "hero" "Character" [.leaf "name" "String!"]] } < 20 := by
    decide +kernel
  obtain ⟨type, built⟩ : ∃ type, fileNames.operationType
      (loadFrom "src/main/graphql/com/example/data.graphql") = .ok type :=
    Context.exists_operationType "Data" rfl (by decide +kernel) (by decide +kernel)
      (by decide +kernel) (by decide +kernel) few (by decide +kernel)
  have stem : pascalCase (fileStem "src/main/graphql/com/example/data.graphql") = "Data" := by
    decide +kernel
  have named : type.name = "Data" := (Context.name_operationType built).trans stem
  exact ⟨type, built, named, named ▸ (Context.name_mem_allNames_iff built).mpr named⟩

end Sample

end QueryModel
