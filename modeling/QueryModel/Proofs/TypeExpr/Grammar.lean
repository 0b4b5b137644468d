import Mathlib.Data.List.TakeWhile
import Mathlib.Logic.ExistsUnique
import QueryModel.TypeExpr

/-!
# The grammar of type expressions

The parser does not cut its text into tokens.  It peels a mark off the end, else brackets
off both ends, and takes what is left for a name.  Nothing is skipped on the way, so the
written form of the result is the text (`chars_of_parseChars`).  In the other direction
each written form is peeled as it was put together (`parseChars_chars`).  A name neither
starts with a bracket nor ends with a bracket or a mark, so the forms do not overlap.

Names are tested twice in this library.  The parser has a test of its own, and the grammar
asks for the names that a configuration may use (`isTypeName_toList`).

`parse_exact` states both directions for texts with white space around them.
-/

namespace QueryModel

open Text

/-! ## Names and white space -/

theorem isNameRest_of_isNameStart {c : Char} (starts : isNameStart c = true) :
    isNameRest c = true := by
  simp only [isNameStart, isNameRest, Char.isAlphanum, Bool.or_eq_true] at starts ⊢
  rcases starts with letter | underscore
  · exact .inl (.inl letter)
  · exact .inr underscore

/-- Name characters are in ASCII, and white space and most punctuation stand before them. -/
theorem toNat_of_isNameRest {c : Char} (continues : isNameRest c = true) :
    0x30 ≤ c.toNat ∧ c.toNat < 0x80 := by
  delta isNameRest Char.isAlphanum Char.isAlpha Char.isUpper Char.isLower Char.isDigit at continues
  simp only [Bool.or_eq_true, Bool.and_eq_true, decide_eq_true_eq, beq_iff_eq, ge_iff_le,
    UInt32.le_iff_toNat_le] at continues
  rcases continues with ((⟨low, high⟩ | ⟨low, high⟩) | ⟨low, high⟩) | rfl
  · exact ⟨Nat.le_trans (by decide) low, Nat.lt_of_le_of_lt high (by decide)⟩
  · exact ⟨Nat.le_trans (by decide) low, Nat.lt_of_le_of_lt high (by decide)⟩
  · exact ⟨Nat.le_trans (by decide) low, Nat.lt_of_le_of_lt high (by decide)⟩
  · decide

theorem ne_of_isNameRest {c d : Char} (continues : isNameRest c = true)
    (outside : isNameRest d = false) : c ≠ d := by
  rintro rfl
  rw [continues] at outside
  cases outside

/-- No blank is part of a name. -/
theorem isBlank_of_isNameRest {c : Char} (continues : isNameRest c = true) :
    isBlank c = false := by
  obtain ⟨visible, ascii⟩ := toNat_of_isNameRest continues
  have notSpace : c ≠ ' ' := ne_of_isNameRest continues rfl
  rw [isBlank, if_pos ascii]
  simp [notSpace]
  omega

theorem Text.dropEndWhile_eq_self {p : Char → Bool} {cs : List Char}
    (kept : ∀ c ∈ cs, p c = false) : dropEndWhile p cs = cs := by
  rw [dropEndWhile, List.dropWhile_eq_self_iff.mpr, List.reverse_reverse]
  intro nonempty
  rw [kept _ (List.mem_reverse.mp (List.getElem_mem nonempty))]
  exact Bool.false_ne_true

theorem Text.trim_eq_self {cs : List Char} (solid : ∀ c ∈ cs, isBlank c = false) :
    trim cs = cs := by
  rw [trim, trimStart, List.dropWhile_eq_self_iff.mpr, dropEndWhile_eq_self solid]
  intro nonempty
  rw [solid _ (List.getElem_mem nonempty)]
  exact Bool.false_ne_true

namespace TypeExpr

/-- The test of the parser and that of the configuration accept the same names. -/
theorem isTypeName_toList (s : String) : isTypeName s.toList = isGraphqlName s := by
  rw [isGraphqlName]
  cases s.toList with
  | nil => rfl
  | cons c cs =>
    rw [isTypeName, nameFault?]
    cases isNameStart c <;> cases cs.all isNameRest <;> rfl

theorem isNameRest_of_mem {cs : List Char} (isName : isTypeName cs = true) {c : Char}
    (membership : c ∈ cs) : isNameRest c = true := by
  cases cs with
  | nil => cases membership
  | cons first rest =>
    simp only [isTypeName, Bool.and_eq_true, List.all_eq_true] at isName
    rcases List.mem_cons.mp membership with rfl | later
    · exact isNameRest_of_isNameStart isName.1
    · exact isName.2 c later

/-! ## Written forms -/

theorem parseChars_mark (cs : List Char) : parseChars (cs ++ ['!']) = parseChars cs >>= mark := by
  have last : (cs ++ ['!']).getLast? = some '!' := List.getLast?_concat
  have init : (cs ++ ['!']).dropLast = cs := List.dropLast_concat
  cases marked : cs ++ ['!'] with
  | nil => simp at marked
  | cons c rest =>
    rw [marked] at last init
    rw [parseChars, if_pos last, init]

theorem parseChars_brackets (cs : List Char) :
    parseChars ('[' :: cs ++ [']']) = (parseChars cs).map .list := by
  have last : ('[' :: cs ++ [']']).getLast? = some ']' := List.getLast?_concat
  rw [List.cons_append] at last ⊢
  rw [parseChars, last, if_neg (by decide), if_pos rfl, List.getLast?_concat, if_pos rfl,
    List.dropLast_concat]

/-- A name is parsed as a named type. -/
theorem parseChars_name {cs : List Char} (isName : isTypeName cs = true) :
    parseChars cs = .ok (.named (String.ofList cs)) := by
  cases cs with
  | nil => cases isName
  | cons c rest =>
    have inside : ∀ {d : Char}, isNameRest d = false → d ∉ c :: rest := by
      intro d outside membership
      rw [isNameRest_of_mem isName membership] at outside
      cases outside
    have noMark : (c :: rest).getLast? ≠ some '!' := by
      intro last
      exact inside (by decide) (List.mem_of_getLast? last)
    have noClosing : (c :: rest).getLast? ≠ some ']' := by
      intro last
      exact inside (by decide) (List.mem_of_getLast? last)
    have noOpening : c ≠ '[' := by
      rintro rfl
      exact inside (by decide) (List.mem_cons_self ..)
    rw [parseChars, if_neg noMark, if_neg noOpening, if_neg noClosing, if_pos isName]

/-- A well-formed type is written without blanks. -/
theorem solid_chars {t : TypeExpr} (wellFormed : t.WellFormed) :
    ∀ c ∈ t.chars, isBlank c = false := by
  induction t with
  | named name =>
    intro c membership
    exact isBlank_of_isNameRest
      (isNameRest_of_mem ((isTypeName_toList name).trans wellFormed) membership)
  | list inner ih =>
    intro c membership
    simp only [chars, List.mem_append, List.mem_cons, List.not_mem_nil, or_false] at membership
    rcases membership with (rfl | below) | rfl
    · decide
    · exact ih wellFormed c below
    · decide
  | nonNull inner ih =>
    intro c membership
    simp only [chars, List.mem_append, List.mem_singleton] at membership
    rcases membership with below | rfl
    · exact ih wellFormed.2 c below
    · decide

/-! ## Both directions -/

theorem mark_eq_ok {u t : TypeExpr} :
    u.mark = .ok t ↔ u.isNonNull = false ∧ t = .nonNull u := by
  cases u with
  | named name => simp [mark, isNonNull, eq_comm]
  | list inner => simp [mark, isNonNull, eq_comm]
  | nonNull inner => simp [mark, isNonNull]

/-- A well-formed type is parsed back from its characters. -/
theorem parseChars_chars {t : TypeExpr} (wellFormed : t.WellFormed) :
    parseChars t.chars = .ok t := by
  induction t with
  | named name =>
    rw [chars, parseChars_name ((isTypeName_toList name).trans wellFormed), String.ofList_toList]
  | list inner ih =>
    rw [chars, parseChars_brackets, ih wellFormed]
    rfl
  | nonNull inner ih =>
    obtain ⟨unmarked, wellFormed⟩ := wellFormed
    rw [chars, parseChars_mark, ih wellFormed]
    exact mark_eq_ok.mpr ⟨unmarked, rfl⟩

/-- What is parsed is well-formed and has been written with exactly these characters. -/
theorem chars_of_parseChars {cs : List Char} {t : TypeExpr} (parsed : parseChars cs = .ok t) :
    t.WellFormed ∧ t.chars = cs := by
  fun_induction parseChars cs generalizing t with
  | case1 => cases parsed
  | case2 c rest marked ih =>
    obtain ⟨init, split⟩ := List.getLast?_eq_some_iff.mp marked
    rw [split, List.dropLast_concat] at parsed ih
    rw [split]
    cases below : parseChars init with
    | error fault =>
      rw [below] at parsed
      cases parsed
    | ok u =>
      rw [below] at parsed
      obtain ⟨unmarked, rfl⟩ := mark_eq_ok.mp parsed
      obtain ⟨wellFormed, written⟩ := ih below
      exact ⟨⟨unmarked, wellFormed⟩, by rw [chars, written]⟩
  | case3 rest closed unmarked ih =>
    obtain ⟨init, rfl⟩ := List.getLast?_eq_some_iff.mp closed
    rw [List.dropLast_concat] at parsed ih
    cases below : parseChars init with
    | error fault =>
      rw [below] at parsed
      cases parsed
    | ok u =>
      rw [below] at parsed
      cases parsed
      obtain ⟨wellFormed, written⟩ := ih below
      exact ⟨wellFormed, by rw [chars, written]; rfl⟩
  | case4 => cases parsed
  | case5 => cases parsed
  | case6 c rest unmarked notOpen notClosed isName =>
    cases parsed
    refine ⟨?_, ?_⟩
    · show isGraphqlName _ = true
      rw [← isTypeName_toList, String.toList_ofList, isName]
    · rw [chars, String.toList_ofList]
  | case7 => cases parsed

theorem parse_render {t : TypeExpr} (wellFormed : t.WellFormed) : parse t.render = .ok t := by
  rw [parse, render, String.toList_ofList, trim_eq_self (solid_chars wellFormed),
    parseChars_chars wellFormed]

/-- A text is parsed as a type exactly when the type is written so, up to blanks around it. -/
theorem parse_eq_ok_iff {s : String} {t : TypeExpr} :
    parse s = .ok t ↔ t.WellFormed ∧ t.render = String.ofList (trim s.toList) := by
  constructor
  · intro parsed
    obtain ⟨wellFormed, written⟩ := chars_of_parseChars parsed
    exact ⟨wellFormed, by rw [render, written]⟩
  · rintro ⟨wellFormed, written⟩
    rw [parse, ← String.ofList_inj.mp written, parseChars_chars wellFormed]

/-- The parser reads back every well-formed type, and what it reads from a text is well
formed and written as the text is, white space around it aside.  So it accepts exactly the
texts that are written forms, and each of them is that of one type only. -/
theorem parse_exact :
    (∀ t : TypeExpr, t.WellFormed → parse t.render = .ok t) ∧
    (∀ s t, parse s = .ok t → t.WellFormed ∧ t.render = String.ofList (trim s.toList)) ∧
    ∀ s, (∃ t, parse s = .ok t) ↔
      ∃! t : TypeExpr, t.WellFormed ∧ t.render = String.ofList (trim s.toList) := by
  refine ⟨fun t => parse_render, fun s t => parse_eq_ok_iff.mp, fun s => ⟨?_, ?_⟩⟩
  · rintro ⟨t, parsed⟩
    refine ⟨t, parse_eq_ok_iff.mp parsed, ?_⟩
    intro u written
    have same := parse_eq_ok_iff.mpr written
    rw [parsed] at same
    cases same
    rfl
  · rintro ⟨t, written, _⟩
    exact ⟨t, parse_eq_ok_iff.mpr written⟩

/-- A list of lists, and the same text with white space around it. -/
theorem parse_exact_nested :
    parse "[[Int]!]" = .ok (.list (.nonNull (.list (.named "Int")))) ∧
      parse "\u2003[[Int]!]\n" = .ok (.list (.nonNull (.list (.named "Int")))) ∧
      ∃! t : TypeExpr, t.WellFormed ∧ t.render = "[[Int]!]" := by
  let t : TypeExpr := .list (.nonNull (.list (.named "Int")))
  have wellFormed : t.WellFormed := ⟨rfl, show isGraphqlName "Int" = true by decide⟩
  have bare : parse "[[Int]!]" = .ok t := parse_exact.1 t wellFormed
  have spaced : parse "\u2003[[Int]!]\n" = .ok t := by with_unfolding_all rfl
  exact ⟨bare, spaced, (parse_exact.2.2 "\u2003[[Int]!]\n").mp ⟨t, spaced⟩⟩

end TypeExpr

/-- Brackets that close too early belong to no type. -/
example : (TypeExpr.parse "[A]!]", TypeExpr.parse "[A][B]") =
    (.error .unbalanced, .error .invalidName) := by
  with_unfolding_all rfl

end QueryModel
