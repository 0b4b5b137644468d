import Mathlib.Data.List.Forall2
import QueryModel.Json.Printer
import QueryModel.Proofs.Json.Parsing

/-!
# Printed values are read back

The compact text of a value has the lexemes of the value (`tokens_compact`), so it is read as the
draft of the value (`ofText_compact`).  The proof follows the printer.  What is printed for a
character of a text is read as that character, whatever comes after it (`textValue_escapeChar`).
The digits of a whole number are read up to the first character that is no digit, so a number needs
something behind it that ends it (`Ends`).  A comma and a closing bracket do.

Numbers have to be whole and to fit a 64-bit word (`isExact`).  Larger ones are read as doubles.
Doubles are left out: they are printed with the fewest digits that tell them apart, but the reader
rounds more than once on its way back and may come out at a neighbour.
-/

namespace QueryModel.Json

/-! ## Texts -/

section

variable {rest : List Char}

/-- A control character is written with the four hexadecimal digits of its number. -/
theorem toList_controlEscape {c : Char} (control : c.toNat < 0x20) :
    ∃ d₁ d₂ d₃ d₄, (controlEscape c).toList = ['\\', 'u', d₁, d₂, d₃, d₄] ∧
      hexWord? d₁ d₂ d₃ d₄ = some c.toNat := by
  have table : ∀ n < 0x20, (controlEscape (Char.ofNat n)).toList =
        ['\\', 'u', '0', '0', Nat.digitChar (n / 16), Nat.digitChar (n % 16)] ∧
      hexWord? '0' '0' (Nat.digitChar (n / 16)) (Nat.digitChar (n % 16)) = some n := by
    decide +kernel
  obtain ⟨written, read⟩ := table c.toNat control
  rw [Char.ofNat_toNat] at written
  exact ⟨_, _, _, _, written, read⟩

/-- The three ways to write a character. -/
theorem escapeChar_cases (c : Char) :
    (∃ e, (escapeChar c).toList = ['\\', e] ∧ e ≠ 'u' ∧ plainEscape? e = some c) ∨
    (∃ d₁ d₂ d₃ d₄, (escapeChar c).toList = ['\\', 'u', d₁, d₂, d₃, d₄] ∧
      hexWord? d₁ d₂ d₃ d₄ = some c.toNat ∧ c.toNat < 0x20) ∨
    ((escapeChar c).toList = [c] ∧ c ≠ '"' ∧ c ≠ '\\' ∧ ¬ c.toNat < 0x20) := by
  fun_cases escapeChar c with
  | case8 c control =>
    obtain ⟨d₁, d₂, d₃, d₄, written, read⟩ := toList_controlEscape control
    rw [if_pos control]
    exact .inr (.inl ⟨d₁, d₂, d₃, d₄, written, read, control⟩)
  | case9 c visible notQuote notSlash =>
    rw [if_neg visible]
    exact .inr (.inr ⟨String.toList_singleton c, notQuote, notSlash, visible⟩)
  | _ => exact .inl ⟨_, rfl, by decide, rfl⟩

/-- What is written for a character counts as part of the text, with all of its length. -/
theorem textSize_escapeChar (c : Char) :
    textSize ((escapeChar c).toList ++ rest) =
      (textSize rest).map (· + (escapeChar c).toList.length) := by
  rcases escapeChar_cases c with ⟨e, written, notHex, plain⟩ |
    ⟨d₁, d₂, d₃, d₄, written, read, _⟩ | ⟨written, notQuote, notSlash, visible⟩
  · rw [written]
    simp only [List.cons_append, List.nil_append]
    rw [textSize, plain]
    · rfl
    all_goals simp [notHex]
  · rw [written]
    simp only [List.cons_append, List.nil_append]
    rw [textSize, read]
    rfl
  · rw [written]
    simp only [List.cons_append, List.nil_append]
    rw [textSize, if_neg visible]
    · rfl
    all_goals simp [notQuote, notSlash]

/-- What is written for a character is read as the character. -/
theorem textValue_escapeChar (c : Char) :
    textValue ((escapeChar c).toList ++ rest) = (textValue rest).map (c :: ·) := by
  rcases escapeChar_cases c with ⟨e, written, notHex, plain⟩ |
    ⟨d₁, d₂, d₃, d₄, written, read, control⟩ | ⟨written, notQuote, notSlash, visible⟩
  · rw [written]
    simp only [List.cons_append, List.nil_append]
    rw [textValue, plain]
    all_goals simp [notHex]
  · rw [written]
    simp only [List.cons_append, List.nil_append]
    rw [textValue, read]
    have notLow : ¬ (0xDC00 ≤ c.toNat ∧ c.toNat ≤ 0xDFFF) := by omega
    have notHigh : ¬ (0xD800 ≤ c.toNat ∧ c.toNat ≤ 0xDBFF) := by omega
    simp only [if_neg notLow, if_neg notHigh, Char.ofNat_toNat]
  · rw [written]
    simp only [List.cons_append, List.nil_append]
    rw [textValue, if_neg visible]
    all_goals simp [notQuote, notSlash]

theorem textSize_escaped (cs : List Char) :
    textSize (cs.flatMap (fun c => (escapeChar c).toList) ++ '"' :: rest) =
      .ok ((cs.flatMap fun c => (escapeChar c).toList).length + 1) := by
  induction cs with
  | nil => rfl
  | cons c cs ih =>
    rw [List.flatMap_cons, List.append_assoc, textSize_escapeChar, ih, List.length_append,
      Nat.add_comm (escapeChar c).toList.length, Nat.add_right_comm]
    rfl

theorem textValue_escaped (cs : List Char) :
    textValue (cs.flatMap (fun c => (escapeChar c).toList) ++ '"' :: rest) = .ok cs := by
  induction cs with
  | nil => rfl
  | cons c cs ih =>
    rw [List.flatMap_cons, List.append_assoc, textValue_escapeChar, ih]
    rfl

/-- The first token takes its characters, and the rest is read on. -/
theorem tokens_cons {c : Char} (solid : isGap c = false) :
    tokens (c :: rest) = (firstToken c rest).1 :: tokens (rest.drop (firstToken c rest).2) := by
  rw [tokens, solid]
  rfl

/-- A token of one character. -/
theorem tokens_mark {c : Char} {t : Token} (solid : isGap c = false)
    (mark : firstToken c rest = (t, 0)) : tokens (c :: rest) = t :: tokens rest := by
  rw [tokens_cons solid, mark]
  rfl

/-- A quoted text is one token, which holds the text. -/
theorem tokens_quoteText (s : String) :
    tokens ((quoteText s).toList ++ rest) = .text (.ok s) :: tokens rest := by
  let body := s.toList.flatMap fun c => (escapeChar c).toList
  have written : (quoteText s).toList ++ rest = '"' :: (body ++ '"' :: rest) := by
    simp [quoteText, String.toList_join, List.flatMap_map, body]
  have token : textToken (body ++ '"' :: rest) = (.text (.ok s), body.length + 1) := by
    rw [textToken, textSize_escaped, textValue_escaped, Except.map, String.ofList_toList]
    rfl
  rw [written, tokens_cons rfl]
  show (textToken _).1 :: tokens (List.drop (textToken _).2 _) = _
  rw [token]
  simp

end

/-! ## Numbers -/

/-- What follows ends a number: nothing follows, or a comma or a closing bracket comes first. -/
inductive Ends : List Char → Prop
  | nil : Ends []
  | comma (rest : List Char) : Ends (',' :: rest)
  | bracket (rest : List Char) : Ends (']' :: rest)
  | brace (rest : List Char) : Ends ('\x7d' :: rest)

/-- The digits of a number, as numbers. -/
def digitValues (n : Nat) : List Nat := (Nat.toDigits 10 n).map fun c => c.toNat - 48

/-- The digits of a number make up the number. -/
theorem ofDigits_digitValues (n : Nat) : ofDigits (digitValues n) = n := by
  have back := Nat.ofDigitChars_toDigits (b := 10) (n := n) (by decide) (by decide)
  rw [Nat.ofDigitChars_eq_foldl] at back
  rw [ofDigits, digitValues, List.foldl_map]
  simp only [Nat.mul_comm _ 10]
  exact back

/-- A positive number does not start with a zero. -/
theorem head?_digitValues {n : Nat} (positive : 0 < n) : (digitValues n).head? ≠ some 0 := by
  induction n using Nat.strongRecOn with
  | ind n ih =>
    by_cases small : n < 10
    · rw [digitValues, Nat.toDigits_of_lt_base small]
      simp only [List.map_cons, List.head?_cons, Nat.toNat_digitChar_of_lt_ten small]
      simp
      omega
    · have shorter := ih (n / 10) (by omega) (by omega)
      rw [digitValues, List.head?_map] at shorter ⊢
      rw [Nat.toDigits_of_base_le (by decide) (by omega), List.head?_append]
      cases first : (Nat.toDigits 10 (n / 10)).head? with
      | none => exact absurd (List.head?_eq_none_iff.mp first) Nat.toDigits_ne_nil
      | some c =>
        rw [first] at shorter
        exact shorter

theorem leadingDigits_toDigits {n : Nat} {rest : List Char} (ends : Ends rest) :
    leadingDigits (Nat.toDigits 10 n ++ rest) = digitValues n := by
  have digits : ∀ c ∈ Nat.toDigits 10 n, c.isDigit = true := by
    intro c membership
    exact Nat.isDigit_of_mem_toDigits (by decide) (by decide) membership
  have none : rest.takeWhile Char.isDigit = [] := by cases ends <;> rfl
  rw [leadingDigits, List.takeWhile_append_of_pos digits, none, List.append_nil, digitValues]

theorem exponentPart_ends {rest : List Char} (ends : Ends rest) :
    exponentPart rest = .ok (none, 0) := by
  cases ends <;> rfl

theorem toDigits_cons (n : Nat) :
    ∃ c cs, Nat.toDigits 10 n = c :: cs ∧ c.isDigit = true := by
  obtain ⟨c, cs, starts⟩ := List.exists_cons_of_ne_nil (Nat.toDigits_ne_nil (n := n) (b := 10))
  refine ⟨c, cs, starts, Nat.isDigit_of_mem_toDigits (b := 10) (n := n) (by decide) (by decide) ?_⟩
  rw [starts]
  exact List.mem_cons_self

/-- The sign of a number. -/
def signText (negative : Bool) : List Char := if negative then ['-'] else []

/-- Digits, with or without a sign, are read as a number without fraction and exponent. -/
theorem numberParts_toDigits (negative : Bool) (n : Nat) {rest : List Char} (ends : Ends rest) :
    numberParts (signText negative ++ (Nat.toDigits 10 n ++ rest)) =
      .ok { negative, whole := digitValues n, fraction := none, exponent := none
            size := (signText negative ++ Nat.toDigits 10 n).length } := by
  obtain ⟨c, cs, starts, isDigit⟩ := toDigits_cons n
  have notSign : (some c == some '-') = false := by
    rw [beq_eq_false_iff_ne]
    rintro same
    cases same
    cases isDigit
  have sign :
      ((signText negative ++ (Nat.toDigits 10 n ++ rest)).head? == some '-') = negative := by
    cases negative with
    | true => rfl
    | false =>
      rw [starts]
      exact notSign
  have start : (if negative then (signText negative ++ (Nat.toDigits 10 n ++ rest)).drop 1
      else signText negative ++ (Nat.toDigits 10 n ++ rest)) = Nat.toDigits 10 n ++ rest := by
    cases negative <;> rfl
  have nonempty : (digitValues n).isEmpty = false := by
    rw [digitValues, starts]
    rfl
  have noZero :
      ((digitValues n).head? == some 0 && decide (1 < (digitValues n).length)) = false := by
    rcases Nat.eq_zero_or_pos n with rfl | positive
    · rfl
    · rw [beq_eq_false_iff_ne.mpr (head?_digitValues positive), Bool.false_and]
  have after : (Nat.toDigits 10 n ++ rest).drop (digitValues n).length = rest := by
    rw [digitValues, List.length_map, List.drop_left]
  have noPoint : (rest.head? == some '.') = false := by cases ends <;> rfl
  have size : (if negative then 1 else 0) + (digitValues n).length =
      (signText negative ++ Nat.toDigits 10 n).length := by
    rw [digitValues, List.length_map, List.length_append]
    cases negative <;> rfl
  simp only [numberParts, sign, start, leadingDigits_toDigits ends, nonempty, noZero, after,
    noPoint, exponentPart_ends ends, size]
  rfl

theorem le_foldl_digits (start : Nat) (ds : List Nat) :
    start ≤ ds.foldl (fun n d => n * 10 + d) start := by
  induction ds generalizing start with
  | nil => exact Nat.le_refl _
  | cons d ds ih => exact Nat.le_trans (by omega) (ih (start * 10 + d))

/-- Digits are read to the end if their number fits a word. -/
theorem leadingWord_eq {start : Nat} {ds : List Nat}
    (fits : ds.foldl (fun n d => n * 10 + d) start ≤ Decimal.maxWord) :
    Decimal.leadingWord start ds = (ds.foldl (fun n d => n * 10 + d) start, 0) := by
  induction ds generalizing start with
  | nil => rfl
  | cons d ds ih =>
    have small : ¬ Decimal.maxWord < start * 10 + d :=
      Nat.not_lt.mpr (Nat.le_trans (le_foldl_digits _ ds) fits)
    rw [Decimal.leadingWord, if_neg small]
    exact ih fits

/-- Whether a number is whole and fits a signed or an unsigned 64-bit word. -/
def Number.isExact : Number → Bool
  | .int (.ofNat n) => n ≤ Decimal.maxWord
  | .int (.negSucc n) => n + 1 ≤ Decimal.twoTo 63
  | .float _ => false

theorem leadingWord_digitValues {n : Nat} (fits : n ≤ Decimal.maxWord) :
    Decimal.leadingWord 0 (digitValues n) = (n, 0) := by
  have whole : (digitValues n).foldl (fun n d => n * 10 + d) 0 = n := ofDigits_digitValues n
  rw [leadingWord_eq (by rw [whole]; exact fits), whole]

theorem value_natural {n size : Nat} (fits : n ≤ Decimal.maxWord) :
    NumberParts.value ⟨false, digitValues n, none, none, size⟩ = .ok (.int n) := by
  rw [NumberParts.value]
  simp only [leadingWord_digitValues fits]
  rfl

/-- Minus zero is no whole number here, so a sign needs a number behind it that is not zero. -/
theorem value_negative {n size : Nat} (positive : 0 < n) (fits : n ≤ Decimal.twoTo 63) :
    NumberParts.value ⟨true, digitValues n, none, none, size⟩ = .ok (.int (-(n : Int))) := by
  have word : n ≤ Decimal.maxWord := Nat.le_trans fits (by decide)
  rw [NumberParts.value]
  simp only [leadingWord_digitValues word]
  have exact : ¬ (n = 0 ∨ Decimal.twoTo 63 < n) := by omega
  simp [exact]

/-- A number is a token of its own. -/
theorem tokens_number {c : Char} {rest : List Char} {parts : NumberParts}
    (starts : c = '-' ∨ c.isDigit = true) (read : numberParts (c :: rest) = .ok parts)
    (positive : 0 < parts.size) :
    tokens (c :: rest) = .number ⟨parts.value, none⟩ :: tokens ((c :: rest).drop parts.size) := by
  have token : numberToken (c :: rest) = (.number ⟨parts.value, none⟩, parts.size) := by
    rw [numberToken, read]
  have first : firstToken c rest = (.number ⟨parts.value, none⟩, parts.size - 1) := by
    unfold firstToken
    split
    case h_11 =>
      have isNumber : (c == '-' || c.isDigit) = true := by simpa using starts
      rw [if_pos isNumber, token]
    all_goals exact absurd starts (by decide)
  have solid : isGap c = false := by
    rcases starts with rfl | isDigit
    · rfl
    · simp only [isGap, Bool.or_eq_false_iff, beq_eq_false_iff_ne]
      refine ⟨⟨⟨?_, ?_⟩, ?_⟩, ?_⟩ <;>
      · rintro rfl
        cases isDigit
  rw [tokens_cons solid, first]
  obtain ⟨size, same⟩ := Nat.exists_eq_add_of_lt positive
  rw [same, Nat.zero_add, Nat.add_sub_cancel, List.drop_succ_cons]

/-- Digits are one token, up to what ends them. -/
theorem tokens_toDigits (negative : Bool) {n : Nat} {rest : List Char} {value : Number}
    (ends : Ends rest)
    (read : ∀ size, NumberParts.value ⟨negative, digitValues n, none, none, size⟩ = .ok value) :
    tokens (signText negative ++ (Nat.toDigits 10 n ++ rest)) =
      .number (.ok value) :: tokens rest := by
  have parts := numberParts_toDigits negative n ends
  have after : (signText negative ++ (Nat.toDigits 10 n ++ rest)).drop
      (signText negative ++ Nat.toDigits 10 n).length = rest := by
    rw [← List.append_assoc, List.drop_left]
  obtain ⟨c, cs, starts, isDigit⟩ := toDigits_cons n
  obtain ⟨first, others, text, isFirst⟩ : ∃ first others,
      signText negative ++ (Nat.toDigits 10 n ++ rest) = first :: others ∧
        (first = '-' ∨ first.isDigit = true) := by
    cases negative with
    | true => exact ⟨_, _, rfl, .inl rfl⟩
    | false =>
      rw [starts]
      exact ⟨_, _, rfl, .inr isDigit⟩
  have positive : 0 < (signText negative ++ Nat.toDigits 10 n).length := by
    rw [starts, List.length_append]
    exact Nat.lt_add_left _ (Nat.succ_pos _)
  rw [text] at parts after ⊢
  rw [tokens_number isFirst parts positive, read, after]
  rfl

/-- A whole number that fits a word is read as it was. -/
theorem tokens_render {n : Number} (exact : n.isExact = true) {rest : List Char}
    (ends : Ends rest) : tokens (n.render.toList ++ rest) = .number (.ok n) :: tokens rest := by
  match n, exact with
  | .int (.ofNat n), exact =>
    have fits : n ≤ Decimal.maxWord := of_decide_eq_true exact
    have written : (Number.render (.int (.ofNat n))).toList = Nat.toDigits 10 n := Nat.toList_repr
    rw [written]
    exact tokens_toDigits false ends fun _ => value_natural fits
  | .int (.negSucc n), exact =>
    have fits : n + 1 ≤ Decimal.twoTo 63 := of_decide_eq_true exact
    have written : (Number.render (.int (.negSucc n))).toList =
        signText true ++ Nat.toDigits 10 (n + 1) := by
      show ("-" ++ (n + 1).repr).toList = _
      rw [String.toList_append, Nat.toList_repr]
      rfl
    rw [written, List.append_assoc]
    exact tokens_toDigits true ends fun _ => value_negative (Nat.succ_pos n) fits

/-! ## Values -/

mutual

/-- Whether all numbers of a value are whole and fit a word. -/
def isExact : Json → Bool
  | .null => true
  | .bool _ => true
  | .number n => n.isExact
  | .text _ => true
  | .array items => isExactItems items
  | .object members => isExactMembers members

def isExactItems : List Json → Bool
  | [] => true
  | item :: items => item.isExact && isExactItems items

def isExactMembers : List (String × Json) → Bool
  | [] => true
  | (_, value) :: rest => value.isExact && isExactMembers rest

end

theorem isExactItems_iff {items : List Json} :
    isExactItems items = true ↔ ∀ item ∈ items, item.isExact = true := by
  induction items with
  | nil => simp [isExactItems]
  | cons item items ih => simp [isExactItems, ih]

theorem isExactMembers_iff {members : List (String × Json)} :
    isExactMembers members = true ↔ ∀ m ∈ members, m.2.isExact = true := by
  induction members with
  | nil => simp [isExactMembers]
  | cons m members ih =>
    obtain ⟨key, value⟩ := m
    simp [isExactMembers, ih]

/-- A text has some lexemes, whatever follows that ends them. -/
def Spells (text : String) (ts : List Token) : Prop :=
  ∀ rest, Ends rest → tokens (text.toList ++ rest) = ts ++ tokens rest

/-- Texts with commas between them have the lexemes of all with commas between them. -/
theorem Spells.separated {texts : List String} {pieces : List (List Token)}
    (each : List.Forall₂ Spells texts pieces) :
    Spells (String.intercalate "," texts) (separated pieces) := by
  induction each with
  | nil =>
    intro rest _
    rw [String.intercalate_nil]
    rfl
  | @cons text piece texts pieces first others ih =>
    cases others with
    | nil =>
      rw [String.intercalate_singleton]
      exact first
    | @cons next nextPiece texts pieces _ _ =>
      intro rest ends
      let onward := (String.intercalate "," (next :: texts)).toList ++ rest
      have text_eq : (String.intercalate "," (text :: next :: texts)).toList ++ rest =
          text.toList ++ ',' :: onward := by
        simp [String.intercalate_cons_cons, onward]
      rw [text_eq, first _ (.comma _), tokens_mark (t := .comma) rfl rfl, ih rest ends,
        Json.separated, List.append_assoc, List.cons_append]

theorem spells_items {items : List Json} (each : ∀ item ∈ items, Spells item.compact item.lexemes) :
    List.Forall₂ Spells (compactItems items) (itemLexemes items) := by
  induction items with
  | nil => exact .nil
  | cons item items ih =>
    obtain ⟨first, others⟩ := List.forall_mem_cons.mp each
    exact .cons first (ih others)

/-- A member is spelt by its key, a colon and its value. -/
theorem spells_members {members : List (String × Json)}
    (each : ∀ m ∈ members, Spells m.2.compact m.2.lexemes) :
    List.Forall₂ Spells (compactMembers members) (memberLexemes members) := by
  induction members with
  | nil => exact .nil
  | cons m members ih =>
    obtain ⟨key, value⟩ := m
    obtain ⟨first, others⟩ := List.forall_mem_cons.mp each
    refine .cons ?_ (ih others)
    intro rest ends
    have text_eq : (quoteText key ++ ":" ++ value.compact).toList ++ rest =
        (quoteText key).toList ++ ':' :: (value.compact.toList ++ rest) := by
      simp
    rw [text_eq, tokens_quoteText, tokens_mark (t := .colon) rfl rfl, first rest ends]
    rfl

/-- A printed value spells its lexemes, inside of another value and on its own. -/
theorem spells_compact {j : Json} (exact : j.isExact = true) : Spells j.compact j.lexemes := by
  induction j using inductionOn with
  | null => exact fun _ _ => tokens_cons rfl
  | bool b =>
    cases b with
    | true => exact fun _ _ => tokens_cons rfl
    | false => exact fun _ _ => tokens_cons rfl
  | number n => exact fun rest ends => tokens_render exact ends
  | text s => exact fun rest _ => tokens_quoteText s
  | array items ih =>
    intro rest _
    rw [isExact, isExactItems_iff] at exact
    have inner := Spells.separated (spells_items fun item membership =>
      ih item membership (exact item membership)) (']' :: rest) (.bracket rest)
    have text_eq : (compact (.array items)).toList ++ rest =
        '[' :: ((String.intercalate "," (compactItems items)).toList ++ ']' :: rest) := by
      simp [compact]
    rw [text_eq, tokens_mark (t := .leftBracket) rfl rfl, inner,
      tokens_mark (t := .rightBracket) rfl rfl, lexemes, List.cons_append, List.append_assoc,
      List.singleton_append]
  | object members ih =>
    intro rest _
    rw [isExact, isExactMembers_iff] at exact
    have inner := Spells.separated (spells_members fun m membership =>
      ih m membership (exact m membership)) ('\x7d' :: rest) (.brace rest)
    have text_eq : (compact (.object members)).toList ++ rest =
        '\x7b' :: ((String.intercalate "," (compactMembers members)).toList ++ '\x7d' :: rest) := by
      simp [compact]
    rw [text_eq, tokens_mark (t := .leftBrace) rfl rfl, inner,
      tokens_mark (t := .rightBrace) rfl rfl, lexemes, List.cons_append, List.append_assoc,
      List.singleton_append]

/-- The compact text of an exact value has the lexemes of the value. -/
theorem tokens_compact {j : Json} (exact : j.isExact = true) :
    tokens j.compact.toList = j.lexemes := by
  have all := spells_compact exact [] .nil
  rw [List.append_nil, tokens, List.append_nil] at all
  exact all

end QueryModel.Json
