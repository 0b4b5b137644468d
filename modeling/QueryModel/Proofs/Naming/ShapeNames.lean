import Mathlib.Data.List.Basic
import QueryModel.Proofs.Naming.LetterCase
import QueryModel.Proofs.TypeExpr.Grammar

/-!
# Names of nested shapes

A nested shape is named after a response name, which is a GraphQL name.  Capitals keep it one
(`isGraphqlName_capitalize`).  A singular form has characters of the word and letters in lower case,
so the only thing that can go wrong is its start: the rule that takes a final `s` away leaves
nothing of the word `s` (`isGraphqlName_singularize`).  For a list with that response name the
nested shape has the empty name, and every other name is a GraphQL name.
-/

namespace QueryModel

open Text TypeExpr

/-! ## GraphQL names -/

theorem isGraphqlName_iff {s : String} :
    isGraphqlName s = true ↔
      ∃ c cs, s.toList = c :: cs ∧ isNameStart c = true ∧ ∀ d ∈ cs, isNameRest d = true := by
  rw [← isTypeName_toList]
  cases s.toList with
  | nil => simp [isTypeName]
  | cons c cs => simp [isTypeName]

/-- A text of name characters is a name as soon as its first character can start one. -/
theorem isGraphqlName_of_head? {s : String} {c : Char} (head : s.toList.head? = some c)
    (starts : isNameStart c = true) (continues : ∀ d ∈ s.toList, isNameRest d = true) :
    isGraphqlName s = true := by
  obtain ⟨cs, chars⟩ := List.head?_eq_some_iff.mp head
  rw [chars] at continues
  exact isGraphqlName_iff.mpr ⟨c, cs, chars, starts, fun d later =>
    continues d (List.mem_cons_of_mem _ later)⟩

theorem isNameRest_of_isLower {c : Char} (isLower : c.isLower = true) : isNameRest c = true := by
  simp [isNameRest, Char.isAlphanum, Char.isAlpha, isLower]

theorem toNat_lt_of_isNameRest {c : Char} (continues : isNameRest c = true) : c.toNat < 0x80 :=
  (toNat_of_isNameRest continues).2

theorem isNameStart_toUpper {c : Char} (starts : isNameStart c = true) :
    isNameStart c.toUpper = true := by
  simp only [isNameStart, Bool.or_eq_true, beq_iff_eq] at starts ⊢
  rcases starts with letter | rfl
  · exact .inl (c.isAlpha_toUpper_eq_isAlpha.trans letter)
  · exact .inr rfl

section

variable {s : String} (valid : isGraphqlName s = true)
include valid

theorem isNameRest_of_mem_toList {c : Char} (membership : c ∈ s.toList) : isNameRest c = true :=
  isNameRest_of_mem ((isTypeName_toList s).trans valid) membership

theorem ascii_of_isGraphqlName : Ascii s.toList :=
  fun _ membership => toNat_lt_of_isNameRest (isNameRest_of_mem_toList valid membership)

theorem isGraphqlName_capitalize : isGraphqlName (capitalize s) = true := by
  obtain ⟨c, cs, chars, starts, continues⟩ := isGraphqlName_iff.mp valid
  have ascii := toNat_lt_of_isNameRest (isNameRest_of_isNameStart starts)
  have capitalized : (capitalize s).toList = c.toUpper :: cs := by
    rw [capitalize, String.toList_ofList, chars, capitalizeChars_cons ascii]
  exact isGraphqlName_iff.mpr ⟨_, _, capitalized, isNameStart_toUpper starts, continues⟩

/-- The singular of a name is a name, unless the name is the letter `s`. -/
theorem isGraphqlName_singularize : isGraphqlName (singularize s) = true ∨ lowercase s = "s" := by
  have continues : ∀ d ∈ (singularize s).toList, isNameRest d = true := by
    intro d membership
    rcases mem_singularize membership with inWord | isLower
    · exact isNameRest_of_mem_toList valid inWord
    · exact isNameRest_of_isLower isLower
  rcases singularize_cases s with same | ⟨entry, inTable, same⟩ | same
  · rw [same]
    exact .inl valid
  · have table : ∀ entry ∈ irregulars, isGraphqlName entry.2 = true := by decide +kernel
    rw [same]
    exact .inl (table entry inTable)
  · rcases head?_singularByRule s.toList with head | ⟨c, single, isS⟩
    · obtain ⟨c, cs, chars, starts, -⟩ := isGraphqlName_iff.mp valid
      refine .inl (isGraphqlName_of_head? ?_ starts continues)
      rw [same, String.toList_ofList, head, chars, List.head?_cons]
    · right
      have ascii := ascii_of_isGraphqlName valid
      rw [foldChar_eq_toLower (ascii c (single ▸ List.mem_singleton_self c))] at isS
      rw [lowercase, lower_eq_map ascii, single, List.map_singleton, isS]

end

/-! ## Nested shapes -/

theorem nestedShapeName_of_lowercase_eq_s {responseName : String}
    (ascii : Ascii responseName.toList) (isS : lowercase responseName = "s") :
    nestedShapeName responseName true = "" := by
  have lowered : lowercase (nestedShapeName responseName true) = "" := by
    rw [lowercase_nestedShapeName ascii, isS]
    decide +kernel
  have asciiName : Ascii (nestedShapeName responseName true).toList :=
    ascii.capitalize.singularize.capitalize
  rw [lowercase, lower_eq_map asciiName] at lowered
  have := congrArg String.toList lowered
  simpa using this

/-- A nested shape has a capital at the front.  Its name is a GraphQL name, except that the elements
of a list with the response name `s` get the empty name. -/
theorem isGraphqlName_nestedShapeName_iff {responseName : String}
    (valid : isGraphqlName responseName = true) (isList : Bool) :
    capitalize (nestedShapeName responseName isList) = nestedShapeName responseName isList ∧
      (isGraphqlName (nestedShapeName responseName isList) = true ↔
        ¬ (isList = true ∧ lowercase responseName = "s")) := by
  have ascii := ascii_of_isGraphqlName valid
  have capitalized := isGraphqlName_capitalize valid
  cases isList with
  | false => exact ⟨capitalize_capitalize ascii, by simp [nestedShapeName, capitalized]⟩
  | true =>
    refine ⟨capitalize_capitalize ascii.capitalize.singularize, ?_⟩
    constructor
    · rintro isName ⟨-, isS⟩
      rw [nestedShapeName_of_lowercase_eq_s ascii isS] at isName
      exact absurd isName (by decide +kernel)
    · intro notS
      rcases isGraphqlName_singularize capitalized with isName | isS
      · exact isGraphqlName_capitalize isName
      · exact absurd ⟨rfl, lowercase_capitalize ascii ▸ isS⟩ notS

theorem isGraphqlName_nestedShapeName_es :
    isGraphqlName (nestedShapeName "es" true) = true ∧ nestedShapeName "es" true = "E" := by
  have isName := (isGraphqlName_nestedShapeName_iff
    (show isGraphqlName "es" = true by decide +kernel) true).2
  exact ⟨isName.mpr (by decide +kernel), by decide +kernel⟩

/-- The response name `s` is a GraphQL name, and the name of its nested shape is not. -/
theorem not_isGraphqlName_nestedShapeName_s :
    isGraphqlName "s" = true ∧ nestedShapeName "s" true = "" ∧
      isGraphqlName (nestedShapeName "s" true) = false := by
  decide +kernel

end QueryModel
