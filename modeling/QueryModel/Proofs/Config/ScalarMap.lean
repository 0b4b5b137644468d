import QueryModel.Proofs.Dictionaries
import QueryModel.Settings

/-!
# The map of scalars

The map from scalars to targets is filled in two phases, the declared scalars first and the standard
ones after them.  A standard scalar that a document declares keeps the place of the declaration and
gets the target of the table, so the phases meet in the order and not in the targets.

`scalarNames` gives the names in order and `scalarTarget` the target of each, both without the
phases.  `scalarTargets_exact` says that they describe the map.
-/

namespace QueryModel

/-- The names of the declared scalars, each where it is declared first. -/
def declaredScalars (declarations : List Declaration) : List String :=
  ((declarations.filter (·.isScalar)).map (·.name)).eraseDups

/-- The names of the scalars of a run: the declared ones, then the standard ones that are not
declared, in the order of their table. -/
def scalarNames (declarations : List Declaration) : List String :=
  declaredScalars declarations ++
    (standardScalars.map Prod.fst).filter (· ∉ declaredScalars declarations)

/-- The target of a scalar: what the user maps it to, or else what the table has, or else the target
of a scalar that nobody maps. -/
def scalarTarget (user : Dict String) (name : String) : String :=
  (user.get? name).getD ((standardScalars.lookup name).getD unmappedTarget)

variable {user : Dict String} {declarations : List Declaration}

theorem mem_declaredScalars {name : String} :
    name ∈ declaredScalars declarations ↔
      ∃ d ∈ declarations, d.isScalar = true ∧ d.name = name := by
  rw [declaredScalars, List.mem_eraseDups, List.mem_map]
  simp only [List.mem_filter, and_assoc]

/-- The names of scalars are those that are declared and the standard ones. -/
theorem mem_scalarNames {name : String} :
    name ∈ scalarNames declarations ↔
      (∃ d ∈ declarations, d.isScalar = true ∧ d.name = name) ∨
        name ∈ standardScalars.map Prod.fst := by
  rw [scalarNames, List.mem_append, List.mem_filter, decide_eq_true_iff, ← mem_declaredScalars]
  constructor
  · rintro (declared | ⟨standard, -⟩)
    · exact .inl declared
    · exact .inr standard
  · rintro (declared | standard)
    · exact .inl declared
    · exact or_iff_not_imp_left.mpr fun notDeclared => ⟨standard, notDeclared⟩

/-! ## The two phases -/

theorem nodup_standardScalars : (standardScalars.map Prod.fst).Nodup := by decide

/-- The entries of the second phase. -/
def standardTargets (user : Dict String) : List (String × String) :=
  standardScalars.map fun s => (s.1, (user.get? s.1).getD s.2)

theorem map_fst_standardTargets (user : Dict String) :
    (standardTargets user).map Prod.fst = standardScalars.map Prod.fst := by
  rw [standardTargets, List.map_map]
  rfl

/-- A standard scalar has the target of the user, or else its default. -/
theorem lookup_standardTargets (user : Dict String) (name : String) :
    (standardTargets user).lookup name =
      (standardScalars.lookup name).map fun default => (user.get? name).getD default := by
  rw [standardTargets]
  induction standardScalars with
  | nil => rfl
  | cons scalar rest ih =>
    rw [List.map_cons, List.lookup_cons, List.lookup_cons]
    cases same : name == scalar.1 with
    | true => rw [eq_of_beq same, Option.map_some]
    | false => exact ih

/-- In the first phase every declared scalar gets the target of the user, or that of a scalar that
nobody maps.  The second phase is put on top. -/
theorem scalarTargets_eq (user : Dict String) (declarations : List Declaration) :
    scalarTargets user declarations =
      (Dict.ofNames ((declarations.filter (·.isScalar)).map (·.name)) fun name =>
        some ((user.get? name).getD unmappedTarget)).insertAll (standardTargets user) := by
  rw [Dict.ofNames, List.filterMap_map, scalarTargets, ← List.filterMap_eq_map]
  rfl

theorem keys_scalarTargets : (scalarTargets user declarations).keys = scalarNames declarations := by
  have declared : ((declarations.filter (·.isScalar)).map (·.name)).filter
      (fun name => (some ((user.get? name).getD unmappedTarget)).isSome) =
      (declarations.filter (·.isScalar)).map (·.name) := by
    simp
  rw [scalarTargets_eq, Dict.keys_insertAll, Dict.keys_ofNames, map_fst_standardTargets, declared,
    eraseDups_of_nodup (nodup_standardScalars.filter _)]
  rfl

/-- Every scalar has its target in the dictionary. -/
theorem get?_scalarTargets {name : String} (isScalar : name ∈ scalarNames declarations) :
    (scalarTargets user declarations).get? name = some (scalarTarget user name) := by
  have distinct : ((standardTargets user).map Prod.fst).Nodup := by
    rw [map_fst_standardTargets]
    exact nodup_standardScalars
  rw [scalarTargets_eq, Dict.get?_insertAll, ← lookup_perm (List.reverse_perm _).symm distinct,
    lookup_standardTargets, scalarTarget]
  cases standard : standardScalars.lookup name with
  | some default => rfl
  | none =>
    have declared : name ∈ (declarations.filter (·.isScalar)).map (·.name) := by
      rcases mem_scalarNames.mp isScalar with declared | inTable
      · exact List.mem_eraseDups.mp (mem_declaredScalars.mpr declared)
      · obtain ⟨scalar, membership, rfl⟩ := List.mem_map.mp inTable
        have different := List.lookup_eq_none_iff.mp standard scalar membership
        simp at different
    rw [Option.map_none, Option.none_or, Dict.get?_ofNames, if_pos declared]
    rfl

/-- The map of scalars has the declared scalars and the standard ones as names, in the order of
`scalarNames`, and each has the target that `scalarTarget` says.  What the user maps beyond them has
no effect. -/
theorem scalarTargets_exact (user : Dict String) (declarations : List Declaration) :
    (scalarTargets user declarations).keys = scalarNames declarations ∧
    (∀ name, name ∈ scalarNames declarations ↔
      (∃ d ∈ declarations, d.isScalar = true ∧ d.name = name) ∨
        name ∈ standardScalars.map Prod.fst) ∧
    (∀ name ∈ scalarNames declarations,
      (scalarTargets user declarations).get? name = some (scalarTarget user name)) ∧
    ∀ other : Dict String,
      (∀ name ∈ scalarNames declarations, other.get? name = user.get? name) →
        scalarTargets other declarations = scalarTargets user declarations := by
  refine ⟨keys_scalarTargets, fun _ => mem_scalarNames, fun _ => get?_scalarTargets, ?_⟩
  intro other same
  refine Dict.ext_keys (keys_scalarTargets.trans keys_scalarTargets.symm) fun name membership => ?_
  rw [keys_scalarTargets] at membership
  rw [get?_scalarTargets membership, get?_scalarTargets membership, scalarTarget, scalarTarget,
    same name membership]

namespace Sample

/-- A scalar declared twice, a scalar of the service, and a type that is none. -/
def declaredOften : List Declaration :=
  [.scalar "Date" none, .enum "Episode" none [], .scalar "AWSEmail" none, .scalar "Date" none,
   .scalar "URL" none]

def urlTargets : Dict String := .ofList [("URL", "java.net.URL"), ("Episode", "Kept.Out")]

theorem scalarTargets_exact_declaredOften :
    (scalarTargets urlTargets declaredOften).keys =
      ["Date", "AWSEmail", "URL", "ID", "AWSDate", "AWSTime", "AWSDateTime", "AWSTimestamp",
       "AWSJSON", "AWSURL", "AWSPhone", "AWSIPAddress"] ∧
    (scalarTargets urlTargets declaredOften).get? "AWSEmail" = some "String" ∧
    (scalarTargets urlTargets declaredOften).get? "URL" = some "java.net.URL" ∧
    (scalarTargets urlTargets declaredOften).get? "Date" = some "java.lang.Object" ∧
    scalarTargets (.ofList [("URL", "java.net.URL")]) declaredOften =
      scalarTargets urlTargets declaredOften := by
  obtain ⟨keys, -, targets, unaffected⟩ := scalarTargets_exact urlTargets declaredOften
  refine ⟨keys.trans (by decide +kernel), targets "AWSEmail" (by decide +kernel),
    targets "URL" (by decide +kernel), targets "Date" (by decide +kernel), unaffected _ ?_⟩
  decide +kernel

end Sample

end QueryModel
