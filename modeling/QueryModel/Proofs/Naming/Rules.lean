import Mathlib.Data.List.Forall2
import QueryModel.Dict
import QueryModel.Naming.Singular

/-!
# Rules for singular forms

A rule for the end of a word looks at the characters of the word from behind.  It applies when the
word can be cut in three: what stands before, what the rule keeps and what it drops
(`EndingRule.Cuts`).  The last two have the lengths of their tests, so there is at most one cut.
The rule writes its letters in the place of the dropped ones (`EndingRule.singular?_eq_some_iff`).

The last rule of the table that applies gives the singular.  What holds for every rule of the table
carries over to it.  Its characters come from the word or are letters that a rule writes
(`mem_singularByRule`), and it starts like the word (`head?_singularByRule`).  There is one
exception to the second.  The most general rule keeps nothing, and it takes away the whole of a word
that is a single `s`.
-/

namespace QueryModel

/-! ## Tests on characters -/

theorem acceptsAll_iff {tests : List CharTest} {cs : List Char} :
    acceptsAll tests cs = true ↔ List.Forall₂ (fun t c => t.accepts c = true) tests cs := by
  induction tests generalizing cs with
  | nil => cases cs <;> simp [acceptsAll]
  | cons t tests ih =>
    cases cs with
    | nil => simp [acceptsAll]
    | cons c cs => simp [acceptsAll, ih]

theorem length_eq_of_acceptsAll {tests : List CharTest} {cs : List Char}
    (accepted : acceptsAll tests cs = true) : tests.length = cs.length :=
  (acceptsAll_iff.mp accepted).length_eq

/-- The tests for the letters of a text accept what folds to that text. -/
theorem acceptsAll_letters {s : String} {cs : List Char} :
    acceptsAll (letters s) cs = true ↔ cs.map foldChar = s.toList := by
  rw [acceptsAll_iff, letters, List.forall₂_map_left_iff, ← List.forall₂_eq_eq_eq,
    List.forall₂_map_left_iff]
  constructor
  · intro accepted
    exact accepted.flip.imp fun _ _ => beq_iff_eq.mp
  · intro folds
    exact folds.flip.imp fun _ _ => beq_iff_eq.mpr

/-! ## How a rule cuts a word -/

namespace EndingRule

variable {r : EndingRule} {word out : List Char}

/-- A word cut in three, where the tests of a rule accept the last two parts. -/
structure Cuts (r : EndingRule) (word before kept dropped : List Char) : Prop where
  word_eq : word = before ++ kept ++ dropped
  kept : acceptsAll r.kept kept = true
  dropped : acceptsAll r.dropped dropped = true
  whole : r.wholeWord = true → before = []

/-- What a rule puts after the kept part. -/
def replacement (r : EndingRule) (kept : List Char) : List Char :=
  (if r.repeatsFirst then kept.take 1 else []) ++ r.written

/-- A rule applies exactly when it can cut the word. -/
theorem singular?_eq_some_iff :
    r.singular? word = some out ↔
      ∃ before kept dropped, r.Cuts word before kept dropped ∧
        out = before ++ kept ++ r.replacement kept := by
  constructor
  · intro applied
    simp only [singular?] at applied
    split at applied
    next passes =>
      simp only [Bool.and_eq_true, Bool.or_eq_true, Bool.not_eq_true', beq_iff_eq] at passes
      obtain ⟨⟨whole, kept⟩, dropped⟩ := passes
      cases applied
      let stem := word.take (word.length - r.dropped.length)
      refine ⟨stem.take (word.length - r.dropped.length - r.kept.length), _, _,
        ⟨?_, kept, dropped, ?_⟩, ?_⟩
      · rw [List.take_append_drop, List.take_append_drop]
      · intro isWhole
        rcases whole with notWhole | atStart
        · rw [isWhole] at notWhole
          cases notWhole
        · rw [atStart, List.take_zero]
      · rw [List.take_append_drop, replacement, List.append_assoc]
    next => cases applied
  · rintro ⟨before, kept, dropped, ⟨rfl, keptPass, droppedPass, whole⟩, rfl⟩
    have stemSize : (before ++ kept ++ dropped).length - r.dropped.length =
        (before ++ kept).length := by
      rw [List.length_append, length_eq_of_acceptsAll droppedPass, Nat.add_sub_cancel]
    have keptStart : (before ++ kept).length - r.kept.length = before.length := by
      rw [List.length_append, length_eq_of_acceptsAll keptPass, Nat.add_sub_cancel]
    have anchored : (!r.wholeWord || before.length == 0) = true := by
      cases isWhole : r.wholeWord with
      | false => rfl
      | true => rw [whole isWhole]; rfl
    simp only [singular?, stemSize, keptStart, List.take_left, List.drop_left, keptPass,
      droppedPass, anchored, Bool.and_self, if_true]
    rw [replacement, ← List.append_assoc]

end EndingRule

/-! ## What every rule does -/

namespace SingularRule

variable {rule : SingularRule} {word out : List Char}

/-- The tests for the letters that a rule keeps. -/
def kept : SingularRule → List CharTest
  | .ending r => r.kept
  | .start kept _ => kept

/-- The letters that a rule writes. -/
def written : SingularRule → List Char
  | .ending r => r.written
  | .start _ _ => []

/-- A rule adds no characters but those it writes. -/
theorem mem_of_singular? (applied : rule.singular? word = some out) {c : Char}
    (membership : c ∈ out) : c ∈ word ∨ c ∈ rule.written := by
  cases rule with
  | ending r =>
    obtain ⟨before, kept, dropped, cuts, rfl⟩ := EndingRule.singular?_eq_some_iff.mp applied
    rw [cuts.word_eq]
    simp only [EndingRule.replacement, List.mem_append] at membership ⊢
    rcases membership with (inBefore | inKept) | echoed | isWritten
    · exact .inl (.inl (.inl inBefore))
    · exact .inl (.inl (.inr inKept))
    · split at echoed
      · exact .inl (.inl (.inr (List.mem_of_mem_take echoed)))
      · cases echoed
    · exact .inr isWritten
  | start kept dropped =>
    simp only [singular?] at applied
    split at applied
    · cases applied
      rcases List.mem_append.mp membership with inKept | after
      · exact .inl (List.mem_of_mem_take inKept)
      · exact .inl (List.mem_of_mem_drop after)
    · cases applied

/-- A rule that keeps something keeps the first character. -/
theorem head?_of_singular? (keeps : rule.kept ≠ []) (applied : rule.singular? word = some out) :
    out.head? = word.head? := by
  cases rule with
  | ending r =>
    obtain ⟨before, kept, dropped, cuts, rfl⟩ := EndingRule.singular?_eq_some_iff.mp applied
    have nonempty : before ++ kept ≠ [] := by
      intro empty
      have size := length_eq_of_acceptsAll cuts.kept
      rw [(List.append_eq_nil_iff.mp empty).2] at size
      exact keeps (List.eq_nil_of_length_eq_zero size)
    rw [cuts.word_eq, List.head?_append_of_ne_nil _ nonempty,
      List.head?_append_of_ne_nil _ nonempty]
  | start kept dropped =>
    simp only [singular?] at applied
    split at applied
    · cases applied
      cases kept with
      | nil => exact absurd rfl keeps
      | cons t tests =>
        cases word with
        | nil => rw [List.take_nil, List.drop_nil, List.append_nil]
        | cons c cs => rfl
    · cases applied

end SingularRule

/-! ## The table -/

/-- Rules write letters in lower case only. -/
theorem isLower_of_mem_written {rule : SingularRule} {c : Char} (inTable : rule ∈ singularRules)
    (membership : c ∈ rule.written) : c.isLower = true :=
  have table : ∀ rule ∈ singularRules, rule.written.all Char.isLower = true := by decide +kernel
  List.all_eq_true.mp (table rule inTable) c membership

/-- So does the table of irregular words. -/
theorem isLower_of_mem_irregulars {entry : String × String} {c : Char}
    (inTable : entry ∈ irregulars) (membership : c ∈ entry.2.toList) : c.isLower = true :=
  have table : ∀ entry ∈ irregulars, entry.2.toList.all Char.isLower = true := by decide +kernel
  List.all_eq_true.mp (table entry inTable) c membership

/-- Every rule but the most general one keeps something. -/
theorem kept_ne_nil_of_mem :
    ∀ rule ∈ singularRules, rule = .ending (ending "" "s" "") ∨ rule.kept ≠ [] := by
  decide +kernel

/-- A word that no rule applies to stays, and else one of the rules gives the singular. -/
theorem singularByRule_cases (word : List Char) :
    singularByRule word = word ∨
      ∃ rule ∈ singularRules, rule.singular? word = some (singularByRule word) := by
  rw [singularByRule]
  cases found : singularRules.reverse.findSome? (·.singular? word) with
  | none => exact .inl rfl
  | some out =>
    obtain ⟨rule, membership, applied⟩ := List.exists_of_findSome?_eq_some found
    exact .inr ⟨rule, List.mem_reverse.mp membership, applied⟩

theorem mem_singularByRule {word : List Char} {c : Char} (membership : c ∈ singularByRule word) :
    c ∈ word ∨ c.isLower = true := by
  rcases singularByRule_cases word with same | ⟨rule, inTable, applied⟩
  · rw [same] at membership
    exact .inl membership
  · exact (rule.mem_of_singular? applied membership).imp_right (isLower_of_mem_written inTable)

/-- The singular starts like the word, unless the word is a single `s`. -/
theorem head?_singularByRule (word : List Char) :
    (singularByRule word).head? = word.head? ∨ ∃ c, word = [c] ∧ foldChar c = 's' := by
  rcases singularByRule_cases word with same | ⟨rule, inTable, applied⟩
  · exact .inl (congrArg List.head? same)
  · rcases kept_ne_nil_of_mem rule inTable with rfl | keeps
    · obtain ⟨before, kept, dropped, cuts, out⟩ := EndingRule.singular?_eq_some_iff.mp applied
      obtain rfl : kept = [] :=
        List.eq_nil_of_length_eq_zero (length_eq_of_acceptsAll cuts.kept).symm
      obtain ⟨c, rfl, isS⟩ := List.map_eq_singleton_iff.mp (acceptsAll_letters.mp cuts.dropped)
      cases before with
      | nil => exact .inr ⟨c, cuts.word_eq, isS⟩
      | cons first rest =>
        left
        rw [out, cuts.word_eq]
        rfl
    · exact .inl (rule.head?_of_singular? keeps applied)

/-! ## Words -/

/-- The singular is the word itself, an irregular one or the one that a rule gives. -/
theorem singularize_cases (word : String) :
    singularize word = word ∨ (∃ entry ∈ irregulars, singularize word = entry.2) ∨
      singularize word = String.ofList (singularByRule word.toList) := by
  rw [singularize]
  split
  · exact .inl rfl
  · split
    next singular found => exact .inr (.inl ⟨_, mem_of_lookup_eq_some found, rfl⟩)
    next => exact .inr (.inr rfl)

/-- Letters that the word does not have are in lower case. -/
theorem mem_singularize {word : String} {c : Char} (membership : c ∈ (singularize word).toList) :
    c ∈ word.toList ∨ c.isLower = true := by
  rcases singularize_cases word with same | ⟨entry, inTable, same⟩ | same <;>
    rw [same] at membership
  · exact .inl membership
  · exact .inr (isLower_of_mem_irregulars inTable membership)
  · rw [String.toList_ofList] at membership
    exact mem_singularByRule membership

end QueryModel
