import Mathlib.Data.List.Forall2
import QueryModel.Naming.Package

/-!
# Packages and the places of files

A path is cut into segments at both slashes.  A *marker* is a segment `graphql` whose second
predecessor is `src` (`IsMarker`), and the package is what stands between the last marker and the
file name (`afterMarker?_cases`).

Markers are found by their distance from the file name, so nothing that stands before the last one
matters.  A project can be moved (`IsLastMarker.append_left`), and the slashes can be turned
(`pathSegments_congr`).  The package of a file that is put under a marker is read back, as long as
the package itself makes no later marker.
-/

namespace QueryModel

open Text

/-! ## Segments -/

/-- A text that is one segment. -/
def IsSegment (s : String) : Prop := ∀ c ∈ s.toList, isPathSeparator c = false

instance (s : String) : Decidable (IsSegment s) := List.decidableBAll _ _

theorem pathSegments_of_isSegment {s : String} (plain : IsSegment s) : pathSegments s = [s] := by
  rw [pathSegments, splitWhere_eq_splitOnP, List.splitOnP_eq_singleton plain, List.map_singleton,
    String.ofList_toList]

/-- Directories before a path add their segments. -/
theorem pathSegments_append {separator : Char} (separates : isPathSeparator separator = true)
    (directories path : String) :
    pathSegments (directories ++ String.singleton separator ++ path) =
      pathSegments directories ++ pathSegments path := by
  have chars : (directories ++ String.singleton separator ++ path).toList =
      directories.toList ++ separator :: path.toList := by
    simp
  simp only [pathSegments, splitWhere_eq_splitOnP, chars]
  rw [List.splitOnP_append_cons _ _ separates, List.map_append]

theorem pathSegments_slash (directories path : String) :
    pathSegments (directories ++ "/" ++ path) = pathSegments directories ++ pathSegments path := by
  have slash : "/" = String.singleton '/' := rfl
  rw [slash, pathSegments_append rfl]

theorem pathSegments_intercalate {texts : List String} (filled : texts ≠ []) :
    pathSegments ("/".intercalate texts) = texts.flatMap pathSegments := by
  induction texts with
  | nil => exact absurd rfl filled
  | cons first others ih =>
    cases others with
    | nil => rw [String.intercalate_singleton, List.flatMap_singleton]
    | cons second others =>
      rw [String.intercalate_cons_cons, List.flatMap_cons, pathSegments_slash,
        ih (List.cons_ne_nil _ _)]

theorem flatMap_pathSegments {segments : List String} (plain : ∀ s ∈ segments, IsSegment s) :
    segments.flatMap pathSegments = segments := by
  induction segments with
  | nil => rfl
  | cons s rest ih =>
    obtain ⟨plainHere, plainRest⟩ := List.forall_mem_cons.mp plain
    rw [List.flatMap_cons, pathSegments_of_isSegment plainHere, ih plainRest, List.singleton_append]

/-- Two texts that differ only in the slashes between segments. -/
def SamePath (path other : String) : Prop :=
  List.Forall₂ (fun c d => c = d ∨ isPathSeparator c = true ∧ isPathSeparator d = true)
    path.toList other.toList

instance (path other : String) : Decidable (SamePath path other) :=
  inferInstanceAs (Decidable (List.Forall₂ _ _ _))

/-- Separators can be exchanged for one another. -/
theorem Text.splitWhere_congr {isSeparator : Char → Bool} {cs ds : List Char}
    (same : List.Forall₂ (fun c d => c = d ∨ isSeparator c = true ∧ isSeparator d = true) cs ds) :
    splitWhere isSeparator cs = splitWhere isSeparator ds := by
  induction same with
  | nil => rfl
  | cons sameChar _ ih =>
    rcases sameChar with rfl | ⟨separates, separates'⟩
    · rw [splitWhere, splitWhere, ih]
    · rw [splitWhere, splitWhere, if_pos separates, if_pos separates', ih]

theorem pathSegments_congr {path other : String} (same : SamePath path other) :
    pathSegments path = pathSegments other := by
  rw [pathSegments, pathSegments, splitWhere_congr same]

/-! ## Markers -/

/-- A segment `graphql` whose second predecessor is `src`. -/
def IsMarker (segments : List String) (i : Nat) : Prop :=
  2 ≤ i ∧ segments[i - 2]? = some "src" ∧ segments[i]? = some "graphql"

/-- A marker after which there is no other. -/
def IsLastMarker (segments : List String) (i : Nat) : Prop :=
  IsMarker segments i ∧ ∀ j, i < j → ¬ IsMarker segments j

instance (segments : List String) (i : Nat) : Decidable (IsMarker segments i) :=
  inferInstanceAs (Decidable (_ ∧ _ ∧ _))

theorem not_isMarker_nil (i : Nat) : ¬ IsMarker [] i := by
  rintro ⟨-, -, found⟩
  cases found

/-- The first segment takes part in one marker at most, the one at index two. -/
theorem isMarker_cons {segment : String} {rest : List String} {i : Nat} :
    IsMarker (segment :: rest) i ↔
      (i = 2 ∧ segment = "src" ∧ rest[1]? = some "graphql") ∨ ∃ j, i = j + 1 ∧ IsMarker rest j := by
  constructor
  · rintro ⟨two, root, marker⟩
    obtain rfl | ⟨j, rfl⟩ : i = 2 ∨ ∃ j, i = j + 3 := by
      rcases Nat.lt_or_ge 2 i with three | small
      · exact .inr ⟨i - 3, by omega⟩
      · exact .inl (by omega)
    · exact .inl ⟨rfl, Option.some.inj root, marker⟩
    · exact .inr ⟨j + 2, rfl, by omega, root, marker⟩
  · rintro (⟨rfl, rfl, marker⟩ | ⟨j, rfl, two, root, marker⟩)
    · exact ⟨Nat.le_refl 2, rfl, marker⟩
    · refine ⟨by omega, ?_, marker⟩
      rw [← root, show j + 1 - 2 = (j - 2) + 1 by omega, List.getElem?_cons_succ]

/-- There is at most one last marker. -/
theorem IsLastMarker.unique {segments : List String} {i j : Nat} (last : IsLastMarker segments i)
    (last' : IsLastMarker segments j) : i = j := by
  rcases Nat.lt_trichotomy i j with before | same | after
  · exact absurd last'.1 (last.2 j before)
  · exact same
  · exact absurd last.1 (last'.2 i after)

/-- Directories in front of a path do not change its last marker. -/
theorem IsLastMarker.append_left {segments : List String} {i : Nat}
    (last : IsLastMarker segments i) (directories : List String) :
    IsLastMarker (directories ++ segments) (directories.length + i) := by
  have shifted : ∀ j, 2 ≤ j → (IsMarker (directories ++ segments) (directories.length + j) ↔
      IsMarker segments j) := by
    intro j two
    rw [IsMarker, IsMarker, List.getElem?_append_right (by omega),
      List.getElem?_append_right (by omega), Nat.add_sub_cancel_left,
      show directories.length + j - 2 - directories.length = j - 2 by omega]
    exact and_congr_left fun _ => ⟨fun _ => two, fun _ => by omega⟩
  have two := last.1.1
  refine ⟨(shifted i two).mpr last.1, fun j after marker => ?_⟩
  obtain ⟨k, rfl⟩ : ∃ k, j = directories.length + k := ⟨j - directories.length, by omega⟩
  exact last.2 k (by omega) ((shifted k (by omega)).mp marker)

theorem afterMarker?_cons (segment : String) (rest : List String) :
    afterMarker? (segment :: rest) = (afterMarker? rest).or
      (if segment = "src" ∧ rest[1]? = some "graphql" then some (rest.drop 2) else none) := by
  match rest with
  | [] => simp [afterMarker?]
  | [second] => simp [afterMarker?]
  | second :: third :: tail =>
    rw [afterMarker?]
    cases afterMarker? (second :: third :: tail) with
    | some found => rfl
    | none => simp

/-- The search from the end finds the last marker, or there is none. -/
theorem afterMarker?_cases (segments : List String) :
    (afterMarker? segments = none ∧ ∀ i, ¬ IsMarker segments i) ∨
      ∃ i, IsLastMarker segments i ∧ afterMarker? segments = some (segments.drop (i + 1)) := by
  induction segments with
  | nil => exact .inl ⟨rfl, not_isMarker_nil⟩
  | cons segment rest ih =>
    rw [afterMarker?_cons]
    -- a marker of the rest stands one index further on, and it is later than one that starts here
    rcases ih with ⟨notFound, noMarker⟩ | ⟨i, last, found⟩
    · by_cases here : segment = "src" ∧ rest[1]? = some "graphql"
      · refine .inr ⟨2, ⟨isMarker_cons.mpr (.inl ⟨rfl, here⟩), fun j after marker => ?_⟩, ?_⟩
        · rcases isMarker_cons.mp marker with ⟨rfl, -⟩ | ⟨k, rfl, inRest⟩
          · exact absurd after (Nat.lt_irrefl 2)
          · exact noMarker k inRest
        · rw [notFound, if_pos here]
          rfl
      · refine .inl ⟨by rw [notFound, if_neg here]; rfl, fun j marker => ?_⟩
        rcases isMarker_cons.mp marker with ⟨-, src, graphql⟩ | ⟨k, rfl, inRest⟩
        · exact here ⟨src, graphql⟩
        · exact noMarker k inRest
    · refine .inr ⟨i + 1, ⟨isMarker_cons.mpr (.inr ⟨i, rfl, last.1⟩), fun j after marker => ?_⟩, ?_⟩
      · rcases isMarker_cons.mp marker with ⟨rfl, -⟩ | ⟨k, rfl, inRest⟩
        · have two := last.1.1
          omega
        · exact last.2 k (by omega) inRest
      · rw [found]
        rfl

/-! ## Packages -/

/-- The segments between a marker and the file name, as a package. -/
def packageAfter (segments : List String) (i : Nat) : String :=
  dotted (segments.drop (i + 1)).dropLast

theorem packageOfPath?_of_isLastMarker {path : String} {i : Nat}
    (last : IsLastMarker (pathSegments path) i) :
    packageOfPath? path = some (packageAfter (pathSegments path) i) := by
  rw [packageOfPath?]
  rcases afterMarker?_cases (pathSegments path) with ⟨-, noMarker⟩ | ⟨j, last', found⟩
  · exact absurd last.1 (noMarker i)
  · rw [found, last.unique last', Option.map_some, packageAfter]

/-- A package is derived exactly from what follows the last marker. -/
theorem packageOfPath?_eq_some_iff {path package : String} :
    packageOfPath? path = some package ↔
      ∃ i, IsLastMarker (pathSegments path) i ∧ package = packageAfter (pathSegments path) i := by
  constructor
  · intro derived
    rcases afterMarker?_cases (pathSegments path) with ⟨notFound, -⟩ | ⟨i, last, -⟩
    · rw [packageOfPath?, notFound] at derived
      cases derived
    · rw [packageOfPath?_of_isLastMarker last] at derived
      exact ⟨i, last, (Option.some.inj derived).symm⟩
  · rintro ⟨i, last, rfl⟩
    exact packageOfPath?_of_isLastMarker last

/-- There is a package exactly when there is a marker. -/
theorem isSome_packageOfPath?_iff {path : String} :
    (packageOfPath? path).isSome = true ↔ ∃ i, IsMarker (pathSegments path) i := by
  rw [packageOfPath?, Option.isSome_map]
  rcases afterMarker?_cases (pathSegments path) with ⟨notFound, noMarker⟩ | ⟨i, last, found⟩
  · rw [notFound]
    exact ⟨fun found => (nomatch found), fun ⟨i, marker⟩ => absurd marker (noMarker i)⟩
  · rw [found]
    exact ⟨fun _ => ⟨i, last.1⟩, fun _ => rfl⟩

/-- The package stays the same when the project is moved below other directories. -/
theorem packageOfPath?_moved {path package : String} (derived : packageOfPath? path = some package)
    (directories : String) {separator : Char} (separates : isPathSeparator separator = true) :
    packageOfPath? (directories ++ String.singleton separator ++ path) = some package := by
  obtain ⟨i, last, rfl⟩ := packageOfPath?_eq_some_iff.mp derived
  refine packageOfPath?_eq_some_iff.mpr ⟨(pathSegments directories).length + i, ?_⟩
  rw [pathSegments_append separates]
  refine ⟨last.append_left _, ?_⟩
  rw [packageAfter, packageAfter, Nat.add_assoc, List.drop_length_add_append]

theorem packageOfPath?_congr {path other : String} (same : SamePath path other) :
    packageOfPath? path = packageOfPath? other := by
  rw [packageOfPath?, packageOfPath?, pathSegments_congr same]

/-! ## Files under a marker -/

/-- The path of what stands under the marker of a source set. -/
def underMarker (root set inside : String) : String :=
  root ++ "/src/" ++ set ++ "/graphql/" ++ inside

theorem pathSegments_underMarker {set : String} (plain : IsSegment set) (root inside : String) :
    pathSegments (underMarker root set inside) =
      pathSegments root ++ ["src", set, "graphql"] ++ pathSegments inside := by
  have joined : underMarker root set inside =
      "/".intercalate [root, "src", set, "graphql", inside] := by
    have src : "/src/" = "/" ++ ("src" ++ "/") := rfl
    have graphql : "/graphql/" = "/" ++ ("graphql" ++ "/") := rfl
    simp only [underMarker, src, graphql, String.intercalate_cons_cons,
      String.intercalate_singleton, String.append_assoc]
  have single := pathSegments_of_isSegment plain
  rw [joined, pathSegments_intercalate (List.cons_ne_nil _ _)]
  have src : pathSegments "src" = ["src"] := by decide +kernel
  have graphql : pathSegments "graphql" = ["graphql"] := by decide +kernel
  simp [single, src, graphql]

/-- A package and a file as they are written under a marker.  The empty package may have a slash of
its own. -/
def WrittenInside (package : List String) (file inside : String) : Prop :=
  inside = "/".intercalate (package ++ [file]) ∨ inside = "/".intercalate package ++ "/" ++ file

theorem dotted_dropLast_pathSegments {package : List String} {file inside : String}
    (plainPackage : ∀ s ∈ package, IsSegment s) (plainFile : IsSegment file)
    (written : WrittenInside package file inside) :
    dotted (pathSegments inside).dropLast = dotted package := by
  rcases written with rfl | rfl
  · have plain : ∀ s ∈ package ++ [file], IsSegment s :=
      List.forall_mem_append.mpr ⟨plainPackage, List.forall_mem_singleton.mpr plainFile⟩
    rw [pathSegments_intercalate (by simp), flatMap_pathSegments plain, List.dropLast_concat]
  · rw [pathSegments_slash, pathSegments_of_isSegment plainFile, List.dropLast_concat]
    cases package with
    | nil => decide +kernel
    | cons first others =>
      rw [pathSegments_intercalate (List.cons_ne_nil _ _), flatMap_pathSegments plainPackage]

/-- A file in the directories of a package, below a marker, is in that package. -/
theorem packageOfPath?_underMarker {root set file inside : String} {package : List String}
    (plainSet : IsSegment set) (plainPackage : ∀ s ∈ package, IsSegment s)
    (plainFile : IsSegment file) (written : WrittenInside package file inside)
    (noLater : ∀ i, (pathSegments root).length + 2 < i →
      ¬ IsMarker (pathSegments (underMarker root set inside)) i) :
    packageOfPath? (underMarker root set inside) = some (dotted package) := by
  have segments := pathSegments_underMarker plainSet root inside
  have last : IsLastMarker (pathSegments (underMarker root set inside))
      ((pathSegments root).length + 2) := by
    refine ⟨⟨by omega, ?_, ?_⟩, noLater⟩
    · simp [segments]
    · simp [segments]
  rw [packageOfPath?_of_isLastMarker last, packageAfter, segments, List.append_assoc,
    Nat.add_assoc, List.drop_length_add_append]
  exact congrArg some (dotted_dropLast_pathSegments plainPackage plainFile written)

/-- A path has a package exactly when it has a marker, and the package is what stands between the
last marker and the file name.  Directories in front of the path and the kind of its slashes do not
matter.  A file that is put into a package under a marker has that package, unless the path has a
later marker. -/
theorem packageOfPath_exact (path : String) :
    ((packageOfPath? path).isSome = true ↔ ∃ i, IsMarker (pathSegments path) i) ∧
    (∀ package, packageOfPath? path = some package ↔
      ∃ i, IsLastMarker (pathSegments path) i ∧ package = packageAfter (pathSegments path) i) ∧
    (∀ package, packageOfPath? path = some package →
      (∀ directories separator, isPathSeparator separator = true →
        packageOfPath? (directories ++ String.singleton separator ++ path) = some package) ∧
      ∀ other, SamePath path other → packageOfPath? other = some package) ∧
    ∀ root set package file inside, IsSegment set → (∀ s ∈ package, IsSegment s) →
      IsSegment file → WrittenInside package file inside → path = underMarker root set inside →
      (∀ i, (pathSegments root).length + 2 < i → ¬ IsMarker (pathSegments path) i) →
      packageOfPath? path = some (dotted package) := by
  refine ⟨isSome_packageOfPath?_iff, fun _ => packageOfPath?_eq_some_iff, ?_, ?_⟩
  · intro package derived
    refine ⟨fun directories _ => packageOfPath?_moved derived directories, fun other same => ?_⟩
    rw [← packageOfPath?_congr same, derived]
  · rintro root set package file inside plainSet plainPackage plainFile written rfl noLater
    exact packageOfPath?_underMarker plainSet plainPackage plainFile written noLater

namespace Sample

/-- The two markers of this path overlap. -/
def overlapping : String := "app/src/src/graphql/graphql/com/foo/Query.graphql"

theorem packageOfPath_exact_overlapping :
    packageOfPath? overlapping = some "com.foo" ∧
      packageOfPath? ("C:\\src\\graphql" ++ String.singleton '\\' ++ overlapping) =
        some "com.foo" ∧
      packageOfPath? "app\\src/src/graphql\\graphql/com\\foo\\Query.graphql" = some "com.foo" := by
  obtain ⟨-, -, stable, placed⟩ := packageOfPath_exact overlapping
  have segments : pathSegments overlapping =
      ["app", "src", "src", "graphql", "graphql", "com", "foo", "Query.graphql"] := by
    decide +kernel
  have noLater : ∀ i, (pathSegments "app/src").length + 2 < i →
      ¬ IsMarker (pathSegments overlapping) i := by
    have root : (pathSegments "app/src").length = 2 := by decide +kernel
    have table : ∀ i < 8, 4 < i → ¬ IsMarker ["app", "src", "src", "graphql", "graphql", "com",
      "foo", "Query.graphql"] i := by decide
    rw [root, segments]
    intro i later marker
    exact table i (List.getElem?_eq_some_iff.mp marker.2.2).1 later marker
  have package : packageOfPath? overlapping = some "com.foo" :=
    placed "app/src" "graphql" ["com", "foo"] "Query.graphql" "com/foo/Query.graphql"
      (by decide) (by decide) (by decide) (.inl rfl) rfl noLater
  obtain ⟨moved, turned⟩ := stable "com.foo" package
  exact ⟨package, moved "C:\\src\\graphql" '\\' rfl, turned _ (by decide)⟩

end Sample

end QueryModel
