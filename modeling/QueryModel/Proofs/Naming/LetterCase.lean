import Mathlib
import QueryModel.Naming.ShapeName
import QueryModel.Proofs.Naming.Rules

/-!
# Letter case in singular forms

Singular forms do not depend on letter case, for words in ASCII.  The three steps have different
reasons for it.  The tables of words are asked for the word in lower case.  The tests of the rules
look at what a character folds to, so a rule cuts a word and its lower case at the same places
(`SingularRule.singular?_map`).  What is written is in lower case already, in the rules and in the
table of irregular words.

The name of a nested shape is capitalized before and after, which lower case undoes
(`lowercase_nestedShapeName`).

The lemmas on the letter case of characters (`Char.toLower_eq_of_isUpper` and those beside it) are
in no smaller part of the library, so it is imported whole.
-/

namespace QueryModel

open Text

/-! ## Texts in ASCII -/

namespace Text

/-- All characters of a text are in ASCII. -/
def Ascii (cs : List Char) : Prop := ∀ c ∈ cs, c.toNat < 0x80

instance (cs : List Char) : Decidable (Ascii cs) := List.decidableBAll _ cs

/-- A text in lower case. -/
def lowercase (s : String) : String := String.ofList (lower s.toList)

theorem isUpper_iff {c : Char} : c.isUpper = true ↔ 65 ≤ c.toNat ∧ c.toNat ≤ 90 := by
  simp [Char.isUpper, UInt32.le_iff_toNat_le]

theorem isLower_iff {c : Char} : c.isLower = true ↔ 97 ≤ c.toNat ∧ c.toNat ≤ 122 := by
  simp [Char.isLower, UInt32.le_iff_toNat_le]

theorem toNat_ofNat_lt {n : Nat} (small : n < 0x80) : (Char.ofNat n).toNat < 0x80 := by
  rw [Char.toNat_ofNat]
  split <;> omega

theorem toNat_toLower_lt {c : Char} (ascii : c.toNat < 0x80) : c.toLower.toNat < 0x80 := by
  by_cases isUpper : c.isUpper = true
  · have := isUpper_iff.mp isUpper
    rw [Char.toLower_eq_of_isUpper isUpper]
    exact toNat_ofNat_lt (by omega)
  · rw [Char.toLower_eq_of_not_isUpper isUpper]
    exact ascii

theorem toLower_eq_self {c : Char} (isLower : c.isLower = true) : c.toLower = c :=
  Char.toLower_eq_of_not_isUpper (Char.not_isUpper_of_isLower isLower)

theorem toNat_toUpper_lt {c : Char} (ascii : c.toNat < 0x80) : c.toUpper.toNat < 0x80 := by
  by_cases isLower : c.isLower = true
  · rw [Char.toUpper_eq_of_isLower isLower]
    exact toNat_ofNat_lt (by omega)
  · rw [Char.toUpper_eq_of_not_isLower isLower]
    exact ascii

theorem lower_eq_map {cs : List Char} (ascii : Ascii cs) : lower cs = cs.map Char.toLower := by
  rw [lower, List.map_eq_flatMap]
  apply List.flatMap_congr
  intro c membership
  exact if_pos (ascii c membership)

theorem Ascii.lower {cs : List Char} (ascii : Ascii cs) : Ascii (lower cs) := by
  rw [lower_eq_map ascii]
  intro c membership
  obtain ⟨d, inText, rfl⟩ := List.mem_map.mp membership
  exact toNat_toLower_lt (ascii d inText)

theorem lowercase_lowercase {s : String} (ascii : Ascii s.toList) :
    lowercase (lowercase s) = lowercase s := by
  rw [lowercase, lowercase, String.toList_ofList, lower_eq_map ascii.lower, lower_eq_map ascii,
    List.map_map]
  congr 2
  funext c
  exact c.toLower_toLower_eq_toLower

/-- In ASCII a capital is one character, so it takes the place of the first one. -/
theorem capitalizeChars_cons {c : Char} (ascii : c.toNat < 0x80) (cs : List Char) :
    capitalizeChars (c :: cs) = c.toUpper :: cs := by
  rw [capitalizeChars, upperChar, if_pos ascii, List.singleton_append]

theorem Ascii.capitalize {s : String} (ascii : Ascii s.toList) : Ascii (capitalize s).toList := by
  rw [Text.capitalize, String.toList_ofList]
  generalize s.toList = cs at ascii ⊢
  cases cs with
  | nil => exact List.forall_mem_nil _
  | cons c cs =>
    obtain ⟨first, rest⟩ := List.forall_mem_cons.mp ascii
    rw [capitalizeChars_cons first]
    exact List.forall_mem_cons.mpr ⟨toNat_toUpper_lt first, rest⟩

theorem capitalize_capitalize {s : String} (ascii : Ascii s.toList) :
    capitalize (capitalize s) = capitalize s := by
  rw [capitalize, capitalize, String.toList_ofList]
  generalize s.toList = cs at ascii ⊢
  cases cs with
  | nil => rfl
  | cons c cs =>
    obtain ⟨first, -⟩ := List.forall_mem_cons.mp ascii
    rw [capitalizeChars_cons first, capitalizeChars_cons (toNat_toUpper_lt first),
      c.toUpper_toUpper_eq_toUpper]

/-- Lower case undoes a capital at the front. -/
theorem lowercase_capitalize {s : String} (ascii : Ascii s.toList) :
    lowercase (capitalize s) = lowercase s := by
  rw [lowercase, lower_eq_map ascii.capitalize, lowercase, lower_eq_map ascii, capitalize,
    String.toList_ofList]
  generalize s.toList = cs at ascii ⊢
  cases cs with
  | nil => rfl
  | cons c cs =>
    obtain ⟨first, -⟩ := List.forall_mem_cons.mp ascii
    rw [capitalizeChars_cons first, List.map_cons, List.map_cons, c.toLower_toUpper_eq_toLower]

end Text

/-! ## Rules and letter case -/

/-- In ASCII a character folds to its lower case. -/
theorem foldChar_eq_toLower {c : Char} (ascii : c.toNat < 0x80) : foldChar c = c.toLower := by
  rw [foldChar, if_neg, if_neg]
  · rintro rfl
    exact absurd ascii (by decide)
  · rintro rfl
    exact absurd ascii (by decide)

theorem foldChar_toLower {c : Char} (ascii : c.toNat < 0x80) :
    foldChar c.toLower = foldChar c := by
  rw [foldChar_eq_toLower ascii, foldChar_eq_toLower (toNat_toLower_lt ascii),
    c.toLower_toLower_eq_toLower]

/-- A test looks at what a character folds to. -/
theorem CharTest.accepts_congr {c d : Char} (same : foldChar c = foldChar d) (t : CharTest) :
    t.accepts c = t.accepts d := by
  cases t <;> simp only [accepts, same]

section

variable {f : Char → Char} {word : List Char}

theorem acceptsAll_map (same : ∀ c ∈ word, foldChar (f c) = foldChar c) (tests : List CharTest) :
    acceptsAll tests (word.map f) = acceptsAll tests word := by
  induction tests generalizing word with
  | nil => cases word <;> rfl
  | cons t tests ih =>
    cases word with
    | nil => rfl
    | cons c cs =>
      obtain ⟨first, rest⟩ := List.forall_mem_cons.mp same
      rw [List.map_cons, acceptsAll, acceptsAll, ih rest, t.accepts_congr first]

theorem EndingRule.singular?_map {r : EndingRule} (same : ∀ c ∈ word, foldChar (f c) = foldChar c)
    (fixed : ∀ c ∈ r.written, f c = c) :
    r.singular? (word.map f) = (r.singular? word).map (List.map f) := by
  have written : r.written.map f = r.written :=
    (List.map_congr_left fixed).trans (List.map_id _)
  -- The lengths decide where a rule cuts, and the folded characters decide whether it does.
  simp only [singular?, List.length_map, ← List.map_take, ← List.map_drop]
  rw [acceptsAll_map, acceptsAll_map]
  · split
    next =>
      rw [Option.map_some, List.map_append, List.map_append, written]
      split <;> rfl
    next => rfl
  · intro c membership
    exact same c (List.mem_of_mem_drop membership)
  · intro c membership
    exact same c (List.mem_of_mem_take (List.mem_of_mem_drop membership))

/-- A change of characters that their folding does not show changes no cut of a rule. -/
theorem SingularRule.singular?_map {rule : SingularRule}
    (same : ∀ c ∈ word, foldChar (f c) = foldChar c) (fixed : ∀ c ∈ rule.written, f c = c) :
    rule.singular? (word.map f) = (rule.singular? word).map (List.map f) := by
  cases rule with
  | ending r => exact EndingRule.singular?_map same fixed
  | start kept dropped =>
    simp only [singular?, ← List.map_take, ← List.map_drop]
    rw [acceptsAll_map]
    · split
      next => rw [Option.map_some, List.map_append]
      next => rfl
    · intro c membership
      exact same c (List.mem_of_mem_take membership)

theorem findSome?_congr {α β : Type} {l : List α} {f g : α → Option β}
    (same : ∀ x ∈ l, f x = g x) : l.findSome? f = l.findSome? g := by
  induction l with
  | nil => rfl
  | cons x xs ih =>
    obtain ⟨first, rest⟩ := List.forall_mem_cons.mp same
    rw [List.findSome?_cons, List.findSome?_cons, first, ih rest]

/-- The same rule wins, and it cuts at the same place. -/
theorem singularByRule_map (same : ∀ c ∈ word, foldChar (f c) = foldChar c)
    (fixed : ∀ c, c.isLower = true → f c = c) :
    singularByRule (word.map f) = (singularByRule word).map f := by
  have each : ∀ rule ∈ singularRules.reverse,
      rule.singular? (word.map f) = (rule.singular? word).map (List.map f) := by
    intro rule membership
    apply SingularRule.singular?_map same
    intro c written
    exact fixed c (isLower_of_mem_written (List.mem_reverse.mp membership) written)
  have found : singularRules.reverse.findSome? (·.singular? (word.map f)) =
      (singularRules.reverse.findSome? (·.singular? word)).map (List.map f) :=
    (findSome?_congr each).trans List.map_findSome?.symm
  rw [singularByRule, singularByRule, found, Option.getD_map]

end

/-! ## Words -/

theorem singularize_eq (word : String) :
    singularize word =
      if uncountables.contains (lowercase word) then word
      else
        match irregulars.lookup (lowercase word) with
        | some singular => singular
        | none => String.ofList (singularByRule word.toList) := rfl

theorem Text.Ascii.singularize {word : String} (ascii : Ascii word.toList) :
    Ascii (singularize word).toList := by
  intro c membership
  rcases mem_singularize membership with inWord | isLower
  · exact ascii c inWord
  · have := isLower_iff.mp isLower
    omega

theorem lowercase_singularize {word : String} (ascii : Ascii word.toList) :
    lowercase (singularize word) = singularize (lowercase word) := by
  rw [lowercase, lower_eq_map ascii.singularize, singularize_eq, singularize_eq (lowercase word),
    lowercase_lowercase ascii]
  -- Both sides ask the tables for the same word, so they take the same branch.
  split
  · rw [lowercase, lower_eq_map ascii]
  · split
    next singular found =>
      have fixed : ∀ c ∈ singular.toList, c.toLower = c := by
        intro c membership
        have inTable := mem_of_lookup_eq_some found
        exact toLower_eq_self (isLower_of_mem_irregulars inTable membership)
      rw [List.map_congr_left fixed, List.map_id', String.ofList_toList]
    next =>
      have same : ∀ c ∈ word.toList, foldChar c.toLower = foldChar c := by
        intro c membership
        exact foldChar_toLower (ascii c membership)
      rw [lowercase, String.toList_ofList, String.toList_ofList, lower_eq_map ascii,
        singularByRule_map same fun _ => toLower_eq_self]

/-- In lower case, the shape of the elements of a list has the singular of the response name in
lower case. -/
theorem lowercase_nestedShapeName {responseName : String} (ascii : Ascii responseName.toList) :
    lowercase (nestedShapeName responseName true) = singularize (lowercase responseName) :=
  calc
    lowercase (nestedShapeName responseName true)
    _ = lowercase (singularize (capitalize responseName)) :=
      lowercase_capitalize ascii.capitalize.singularize
    _ = singularize (lowercase (capitalize responseName)) := lowercase_singularize ascii.capitalize
    _ = singularize (lowercase responseName) := by rw [lowercase_capitalize ascii]

/-- The singular of a word in lower case is its singular, in lower case.  So the shapes for lists
have the same names up to letter case when the response names are the same up to letter case. -/
theorem singularize_ignores_case {word : String} (ascii : Ascii word.toList) :
    lowercase (singularize word) = singularize (lowercase word) ∧
      ∀ other : String, Ascii other.toList → lowercase other = lowercase word →
        lowercase (nestedShapeName other true) = lowercase (nestedShapeName word true) := by
  refine ⟨lowercase_singularize ascii, fun other asciiOther same => ?_⟩
  rw [lowercase_nestedShapeName asciiOther, lowercase_nestedShapeName ascii, same]

theorem singularize_ignores_case_quizzes :
    lowercase (singularize "QUIZZES") = singularize "quizzes" ∧
      lowercase (nestedShapeName "quizzes" true) = lowercase (nestedShapeName "QUIZZES" true) ∧
      nestedShapeName "quizzes" true ≠ nestedShapeName "QUIZZES" true :=
  have ignores := singularize_ignores_case (show Ascii "QUIZZES".toList by decide +kernel)
  have lowered : lowercase "QUIZZES" = "quizzes" := by decide +kernel
  have same : lowercase "quizzes" = lowercase "QUIZZES" := by decide +kernel
  ⟨lowered ▸ ignores.1, ignores.2 "quizzes" (by decide +kernel) same, by decide +kernel⟩

end QueryModel
