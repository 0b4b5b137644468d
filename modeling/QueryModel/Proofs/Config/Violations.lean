import QueryModel.Config.Read
import QueryModel.Proofs.Dictionaries
import QueryModel.Proofs.Text.Positions

/-!
# Violations of a configuration

A configuration is checked one thing after another: the package, and then for every scalar its name
and its target.  `Config.subjects` lists these things in order.  The violation that is reported is
that of the first one that is not valid (`Config.isFirst_of_violation?`), and it names that thing
(`Violation.About`).

Where a violation stands is searched in the text, without regard to what the text says as a
configuration.  So the place may be another one than a reader expects, but it always lies within the
text, between whole characters, and shows what the violation is about (`Subject.shownAt_of_place?`).
-/

namespace QueryModel

open Text

/-! ## What is checked -/

/-- One of the things that are checked in a configuration. -/
inductive Subject
  /-- The package of everything generated. -/
  | package (value : String)
  /-- The name of a scalar. -/
  | scalar (name : String)
  /-- The target of a scalar. -/
  | target (scalar value : String)
deriving DecidableEq, Repr

namespace Subject

/-- Scalars need GraphQL names, packages and targets qualified names. -/
def isValid : Subject → Bool
  | package value => isQualifiedName value
  | scalar name => isGraphqlName name
  | target _ value => isQualifiedName value

/-- The violation of one thing that is checked. -/
def check (src : String) : Subject → Option Violation
  | package value => packageViolation? src ["codegen"] "output_package_name" value
  | scalar name => scalarViolation? src name
  | target name value => targetViolation? src ["custom_types", name] name value

/-- Where the text shows a thing that is checked, as far as it can be found. -/
def place? (src : String) : Subject → Option Span
  | package value => valueSpan src "output_package_name" value
  | scalar name => keySpan src name
  | target name value => valueSpan src name value

/-- A stretch of the text shows a thing that is checked.  Values stand between double quotes. -/
def ShownAt (src : String) (span : Span) : Subject → Prop
  | package value => span.ShowsQuoted src value
  | scalar name => span.Shows src name
  | target _ value => span.ShowsQuoted src value

end Subject

/-- What is checked in a configuration, in order. -/
def Config.subjects (c : Config) : List Subject :=
  (c.outputPackage.map Subject.package).toList ++
    c.customTypes.entries.flatMap fun entry => [.scalar entry.1, .target entry.1 entry.2]

/-- The thing that a violation is about, by what the violation says of it. -/
inductive Violation.About : Violation → Subject → Prop
  | package {value : String} {span : Option Span} :
    About (.badPackage "codegen" "output_package_name" value span) (.package value)
  | scalar {name : String} {fault : NameFault} {span : Option Span} :
    nameFault? name.toList = some fault → About (.scalarName name fault span) (.scalar name)
  | emptyTarget {name : String} {span : Option Span} :
    About (.emptyTarget ("custom_types." ++ name) span) (.target name "")
  | badTarget {name value : String} {span : Option Span} : value ≠ "" →
    About (.badTarget ("custom_types." ++ name) value span) (.target name value)

/-! ## One check -/

namespace Subject

variable {src : String} {s : Subject} {v : Violation}

theorem check_eq_none_iff : s.check src = none ↔ s.isValid = true := by
  cases s with
  | package value =>
    rw [check, packageViolation?, isValid]
    split
    next valid => simp [valid]
    next invalid => simp [invalid]
  | scalar name =>
    rw [check, scalarViolation?, Option.map_eq_none_iff, isValid, isGraphqlName,
      Option.isNone_iff_eq_none]
  | target name value =>
    rw [check, targetViolation?, isValid]
    split
    next valid => simp [valid]
    next invalid =>
      split
      next => simp [invalid]
      next => simp [invalid]

/-- A violation is about the thing that was checked, and stands where that is found. -/
theorem about_of_check (violated : s.check src = some v) : v.About s ∧ v.span = s.place? src := by
  cases s with
  | package value =>
    rw [check, packageViolation?] at violated
    split at violated
    next => cases violated
    next =>
      cases violated
      exact ⟨.package, rfl⟩
  | scalar name =>
    obtain ⟨fault, faulty, rfl⟩ := Option.map_eq_some_iff.mp violated
    exact ⟨.scalar faulty, rfl⟩
  | target name value =>
    have path : dotted ["custom_types", name] = "custom_types." ++ name := by
      rw [dotted, String.intercalate_cons_cons, String.intercalate_singleton]
      rfl
    rw [check, targetViolation?, path] at violated
    split at violated
    next => cases violated
    next =>
      split at violated
      next isEmpty =>
        cases violated
        obtain rfl : value = "" := String.isEmpty_iff.mp isEmpty
        exact ⟨.emptyTarget, rfl⟩
      next notEmpty =>
        cases violated
        exact ⟨.badTarget fun isEmpty => notEmpty (String.isEmpty_iff.mpr isEmpty), rfl⟩

/-- What is found in the text is what was searched for. -/
theorem shownAt_of_place? {span : Span} (placed : s.place? src = some span) :
    s.ShownAt src span := by
  cases s with
  | package value =>
    obtain ⟨before, after, parts, rfl⟩ := valueSpan_eq_some placed
    exact Span.showsQuoted_of_toList parts rfl
  | scalar name =>
    obtain ⟨before, after, parts, rfl⟩ := keySpan_eq_some placed
    exact Span.shows_of_toList parts rfl
  | target name value =>
    obtain ⟨before, after, parts, rfl⟩ := valueSpan_eq_some placed
    exact Span.showsQuoted_of_toList parts rfl

end Subject

/-! ## All checks -/

theorem customTypesViolation?_eq (src : String) (entries : List (String × String)) :
    customTypesViolation? src entries =
      (entries.flatMap fun entry => [Subject.scalar entry.1, .target entry.1 entry.2]).findSome?
        (Subject.check src) := by
  induction entries with
  | nil => rfl
  | cons entry rest ih =>
    rw [customTypesViolation?, ih, List.flatMap_cons, List.findSome?_append, ← Option.or_assoc]
    congr 1
    simp only [List.findSome?_cons, List.findSome?_nil, Subject.check]
    cases scalarViolation? src entry.1 with
    | some v => rfl
    | none => cases targetViolation? src ["custom_types", entry.1] entry.1 entry.2 <;> rfl

namespace Config

variable {c : Config} {src : String} {v : Violation}

theorem violation?_eq (c : Config) (src : String) :
    c.violation? src = c.subjects.findSome? (Subject.check src) := by
  rw [violation?, subjects, List.findSome?_append, customTypesViolation?_eq]
  congr 1
  cases c.outputPackage with
  | none => rfl
  | some value =>
    show packageViolation? src ["codegen"] "output_package_name" value = _
    simp only [Option.map_some, Option.toList_some, List.findSome?_cons, List.findSome?_nil,
      Subject.check]
    cases packageViolation? src ["codegen"] "output_package_name" value <;> rfl

theorem violation?_eq_none_iff :
    c.violation? src = none ↔ ∀ s ∈ c.subjects, s.isValid = true := by
  rw [violation?_eq, List.findSome?_eq_none_iff]
  exact forall₂_congr fun s _ => Subject.check_eq_none_iff

theorem forall_subjects_iff :
    (∀ s ∈ c.subjects, s.isValid = true) ↔
      (∀ package, c.outputPackage = some package → isQualifiedName package = true) ∧
        ∀ entry ∈ c.customTypes.entries,
          isGraphqlName entry.1 = true ∧ isQualifiedName entry.2 = true := by
  rw [subjects, List.forall_mem_append]
  refine and_congr ?_ ⟨fun valid entry membership => ?_, fun valid s membership => ?_⟩
  · cases c.outputPackage with
    | none => simp
    | some value => simp [Subject.isValid]
  · have checked : ∀ s ∈ [Subject.scalar entry.1, .target entry.1 entry.2], s.isValid = true :=
      fun s inEntry => valid s (List.mem_flatMap.mpr ⟨entry, membership, inEntry⟩)
    exact ⟨checked (.scalar entry.1) (by simp), checked (.target entry.1 entry.2) (by simp)⟩
  · obtain ⟨entry, inEntries, inEntry⟩ := List.mem_flatMap.mp membership
    obtain ⟨named, targeted⟩ := valid entry inEntries
    rw [List.mem_pair] at inEntry
    rcases inEntry with rfl | rfl
    · exact named
    · exact targeted

end Config

/-- A violation is about the first thing that is not valid, and where it has a place, the text shows
that thing there. -/
def Violation.IsFirst (v : Violation) (c : Config) (src : String) : Prop :=
  ∃ before s after, c.subjects = before ++ s :: after ∧
    (∀ earlier ∈ before, earlier.isValid = true) ∧ s.isValid = false ∧ v.About s ∧
    ∀ span, v.span = some span → s.ShownAt src span

namespace Config

variable {c : Config} {src : String} {v : Violation}

theorem isFirst_of_violation? (violated : c.violation? src = some v) : v.IsFirst c src := by
  rw [violation?_eq] at violated
  obtain ⟨before, s, after, subjects, here, passed⟩ := List.findSome?_eq_some_iff.mp violated
  obtain ⟨about, place⟩ := Subject.about_of_check here
  refine ⟨before, s, after, subjects, fun earlier membership => ?_, ?_, about, ?_⟩
  · exact Subject.check_eq_none_iff.mp (passed earlier membership)
  · rw [← Bool.not_eq_true, ← Subject.check_eq_none_iff, here]
    exact nofun
  · intro span placed
    exact Subject.shownAt_of_place? (place.symm.trans placed)

theorem ofText_of_valid (isRead : read? src = some c) (valid : c.violation? src = none) :
    ofText src = .ok c := by
  simp only [ofText, isRead, valid]

theorem ofText_of_violation (isRead : read? src = some c) (violated : c.violation? src = some v) :
    ofText src = .error (.violation v) := by
  simp only [ofText, isRead, violated]

theorem ofText_eq_ok_iff (isRead : read? src = some c) :
    ofText src = .ok c ↔ ∀ s ∈ c.subjects, s.isValid = true := by
  rw [← @violation?_eq_none_iff c src]
  refine ⟨fun accepted => ?_, ofText_of_valid isRead⟩
  cases violated : c.violation? src with
  | none => rfl
  | some v =>
    rw [ofText_of_violation isRead violated] at accepted
    cases accepted

/-! ### The order of the text -/

theorem map_fst_readTargets? {entries : Toml.Entries} {targets : List (String × String)}
    (isRead : readTargets? entries = some targets) :
    targets.map Prod.fst = entries.map Prod.fst := by
  induction entries generalizing targets with
  | nil =>
    cases isRead
    rfl
  | cons entry rest ih =>
    obtain ⟨target, -, isRead⟩ := Option.bind_eq_some_iff.mp isRead
    obtain ⟨others, inRest, same⟩ := Option.bind_eq_some_iff.mp isRead
    cases same
    rw [List.map_cons, List.map_cons, ih inRest]

/-- The options do not touch the scalars. -/
theorem customTypes_setOption? {c' : Config} {key : String} {value : Toml.Node}
    (set : c.setOption? key value = some c') : c'.customTypes = c.customTypes := by
  unfold setOption? at set
  split at set
  case h_6 => cases set
  all_goals
    obtain ⟨_, -, rfl⟩ := Option.map_eq_some_iff.mp set
    rfl

theorem customTypes_setOptions? {c' : Config} {entries : Toml.Entries}
    (set : c.setOptions? entries = some c') : c'.customTypes = c.customTypes := by
  induction entries generalizing c with
  | nil =>
    cases set
    rfl
  | cons entry rest ih =>
    obtain ⟨next, setHere, setRest⟩ := Option.bind_eq_some_iff.mp set
    rw [ih setRest, customTypes_setOption? setHere]

theorem customTypes_setTable? {c' : Config} {key : String} {value : Toml.Node}
    (other : key ≠ "custom_types") (set : c.setTable? key value = some c') :
    c'.customTypes = c.customTypes := by
  unfold setTable? at set
  split at set
  next =>
    unfold readOptions? at set
    split at set
    next => exact customTypes_setOptions? set
    next => exact customTypes_setOptions? set
    next => cases set
  next => exact absurd rfl other
  next => exact absurd rfl other
  next => cases set

theorem customTypes_setTables? {c' : Config} {tables : Toml.Entries}
    (absent : "custom_types" ∉ tables.map Prod.fst) (set : c.setTables? tables = some c') :
    c'.customTypes = c.customTypes := by
  induction tables generalizing c with
  | nil =>
    cases set
    rfl
  | cons table rest ih =>
    obtain ⟨next, setHere, setRest⟩ := Option.bind_eq_some_iff.mp set
    rw [List.map_cons, List.mem_cons, not_or] at absent
    rw [ih absent.2 setRest, customTypes_setTable? (Ne.symm absent.1) setHere]

theorem setTables?_append (c : Config) (before after : Toml.Entries) :
    c.setTables? (before ++ after) = (c.setTables? before).bind (·.setTables? after) := by
  induction before generalizing c with
  | nil => rfl
  | cons table rest ih =>
    rw [List.cons_append, setTables?, setTables?]
    cases c.setTable? table.1 table.2 with
    | none => rfl
    | some next => exact ih next

/-- The scalars are those of the table `custom_types`, in the order of the table. -/
theorem keys_customTypes {before entries after : Toml.Entries} {origin : Toml.Origin}
    (parsed : Toml.parse? src = some (before ++ ("custom_types", .table origin entries) :: after))
    (last : "custom_types" ∉ after.map Prod.fst) (isRead : read? src = some c) :
    c.customTypes.keys = (entries.map Prod.fst).eraseDups := by
  rw [read?, parsed, Option.bind_some, setTables?_append] at isRead
  obtain ⟨first, -, setRest⟩ := Option.bind_eq_some_iff.mp isRead
  obtain ⟨next, setHere, setAfter⟩ := Option.bind_eq_some_iff.mp setRest
  obtain ⟨targets, targetsRead, rfl⟩ := Option.map_eq_some_iff.mp setHere
  rw [customTypes_setTables? last setAfter, ← map_fst_readTargets? targetsRead]
  exact Dict.keys_ofList targets

/-! ### Reading and checking -/

/-- A text that can be read as a configuration is accepted exactly when its package is a qualified
name, its scalars are GraphQL names, and their targets are qualified names.  Otherwise the first
violation is reported, the package before the scalars, the scalars in the order of their table, and
the name of each before its target.  Where a violation has a place, the text shows there what the
violation is about.  The search for a value never cuts the text within a character or beyond its
end. -/
theorem ofText_exact (src : String) :
    (∀ c, read? src = some c →
      (ofText src = .ok c ↔
        (∀ package, c.outputPackage = some package → isQualifiedName package = true) ∧
          ∀ entry ∈ c.customTypes.entries,
            isGraphqlName entry.1 = true ∧ isQualifiedName entry.2 = true) ∧
      (ofText src ≠ .ok c → ∃ v, ofText src = .error (.violation v) ∧ v.IsFirst c src) ∧
      ∀ before origin entries after,
        Toml.parse? src = some (before ++ ("custom_types", .table origin entries) :: after) →
        "custom_types" ∉ after.map Prod.fst →
        c.customTypes.keys = (entries.map Prod.fst).eraseDups) ∧
    ∀ key found, keySpan src key = some found →
      String.Pos.Raw.IsValid src ⟨found.offset + found.length⟩ ∧
        (String.ofList (dropBytes (found.offset + found.length) src.toList)).toUTF8 =
          src.toUTF8.extract (found.offset + found.length) src.utf8ByteSize := by
  refine ⟨fun c isRead => ⟨?_, fun refused => ?_, ?_⟩, fun _ _ => slice_of_keySpan⟩
  · rw [ofText_eq_ok_iff isRead, forall_subjects_iff]
  · cases violated : c.violation? src with
    | none => exact absurd (ofText_of_valid isRead violated) refused
    | some v => exact ⟨v, ofText_of_violation isRead violated, isFirst_of_violation? violated⟩
  · intro before origin entries after parsed last
    exact keys_customTypes parsed last isRead

end Config

namespace Sample

/-- The first key starts with the second, and the target of the second is not valid. -/
def dates : String := "[custom_types]\nDateTime = \"java.Date\"\n\tDate = \"é..Date\"\n"

def datesConfig : Config :=
  { customTypes := .ofList [("DateTime", "java.Date"), ("Date", "é..Date")] }

def datesViolation : Violation := .badTarget "custom_types.Date" "é..Date" (some ⟨47, 8⟩)

theorem ofText_exact_dates :
    Config.read? dates = some datesConfig ∧
      Config.ofText dates = .error (.violation datesViolation) ∧
      datesViolation.IsFirst datesConfig dates := by
  have isRead : Config.read? dates = some datesConfig := by with_unfolding_all rfl
  have refused : Config.ofText dates = .error (.violation datesViolation) := by
    with_unfolding_all rfl
  obtain ⟨checked, -⟩ := Config.ofText_exact dates
  obtain ⟨-, reports, -⟩ := checked datesConfig isRead
  obtain ⟨v, violated, isFirst⟩ := reports (by rw [refused]; exact nofun)
  cases refused.symm.trans violated
  exact ⟨isRead, refused, isFirst⟩

end Sample

end QueryModel
