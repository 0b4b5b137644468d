import Mathlib.Data.List.Basic
import QueryModel.Proofs.Naming.LetterCase

/-!
# Plurals of words in -sis

Words such as *diagnoses* and *hypotheses* have a singular in -sis.  Several rules apply to them and
the last one of the table counts.  Which rules can apply is read off the ending alone: a rule whose
tests clash with it never does (`SingularRule.fits_of_singular?`), so the search may leave those
rules out (`singularByRule_eq_of_suffix`).  Of the rules that are left, the first ones in the order
of the search decide.  They are the rule for *oxen*, which looks at the start of the word, and the
rule for the ending.

Words in *analyses* have two rules.  The one for the whole word writes -sis.  The other one repeats
the first letter that it keeps, so that *reanalyses* becomes *reanalyasis*.
-/

namespace QueryModel

open Text

/-! ## Rules that an ending leaves open -/

/-- Whether tests and characters agree as far as both go. -/
def acceptsSoFar : List CharTest → List Char → Bool
  | t :: ts, c :: cs => t.accepts c && acceptsSoFar ts cs
  | _, _ => true

/-- Whether a rule may apply to words with an ending, as far as the ending tells. -/
def SingularRule.fits : SingularRule → List Char → Bool
  | .ending r, suffix => acceptsSoFar (r.kept ++ r.dropped).reverse suffix.reverse
  | .start .., _ => true

/-- The rules that may apply to words with an ending, in the order of the search. -/
def rulesFor (suffix : String) : List SingularRule :=
  singularRules.reverse.filter (·.fits suffix.toList)

theorem findSome?_filter {α β : Type} {l : List α} {p : α → Bool} {f : α → Option β}
    (leftOut : ∀ x ∈ l, p x = false → f x = none) : (l.filter p).findSome? f = l.findSome? f := by
  induction l with
  | nil => rfl
  | cons x xs ih =>
    obtain ⟨first, rest⟩ := List.forall_mem_cons.mp leftOut
    cases keeps : p x with
    | true =>
      rw [List.filter_cons_of_pos keeps, List.findSome?_cons, List.findSome?_cons, ih rest]
    | false =>
      rw [List.filter_cons_of_neg (by simp [keeps]), List.findSome?_cons, first keeps, ih rest]

theorem acceptsSoFar_of_prefix {tests : List CharTest} {cs rest read : List Char}
    (accepted : acceptsAll tests cs = true) (starts : read <+: cs ++ rest) :
    acceptsSoFar tests read = true := by
  induction tests generalizing cs read with
  | nil => rfl
  | cons t tests ih =>
    cases read with
    | nil => rfl
    | cons d read =>
      cases cs with
      | nil => cases accepted
      | cons c cs =>
        rw [acceptsAll, Bool.and_eq_true] at accepted
        rw [List.cons_append, List.cons_prefix_cons] at starts
        obtain ⟨rfl, later⟩ := starts
        rw [acceptsSoFar, accepted.1, ih accepted.2 later, Bool.and_self]

theorem acceptsAll_append {tests more : List CharTest} {cs ds : List Char}
    (first : acceptsAll tests cs = true) (second : acceptsAll more ds = true) :
    acceptsAll (tests ++ more) (cs ++ ds) = true :=
  acceptsAll_iff.mpr (List.rel_append (acceptsAll_iff.mp first) (acceptsAll_iff.mp second))

theorem acceptsAll_reverse {tests : List CharTest} {cs : List Char}
    (accepted : acceptsAll tests cs = true) : acceptsAll tests.reverse cs.reverse = true :=
  acceptsAll_iff.mpr (List.forall₂_reverse_iff.mpr (acceptsAll_iff.mp accepted))

section

variable {word : List Char} (ascii : Ascii word)
include ascii

theorem foldChar_foldChar_of_mem (c : Char) (membership : c ∈ word) :
    foldChar (foldChar c) = foldChar c := by
  rw [foldChar_eq_toLower (ascii c membership), foldChar_toLower (ascii c membership),
    foldChar_eq_toLower (ascii c membership)]

theorem SingularRule.fits_of_singular? {rule : SingularRule} {out suffix : List Char}
    (ends : suffix <:+ word.map foldChar) (applied : rule.singular? word = some out) :
    rule.fits suffix = true := by
  cases rule with
  | start kept dropped => rfl
  | ending r =>
    obtain ⟨before, kept, dropped, cuts, -⟩ := EndingRule.singular?_eq_some_iff.mp applied
    have tail : word = before ++ (kept ++ dropped) := cuts.word_eq.trans (List.append_assoc ..)
    have same : ∀ c ∈ kept ++ dropped, foldChar (foldChar c) = foldChar c := by
      intro c membership
      exact foldChar_foldChar_of_mem ascii c (tail ▸ List.mem_append_right before membership)
    have accepted : acceptsAll (r.kept ++ r.dropped) ((kept ++ dropped).map foldChar) = true := by
      rw [acceptsAll_map same]
      exact acceptsAll_append cuts.kept cuts.dropped
    -- The tests and the ending may differ in length, so they are compared from the last character.
    rw [tail, List.map_append, ← List.reverse_prefix, List.reverse_append] at ends
    exact acceptsSoFar_of_prefix (acceptsAll_reverse accepted) ends

/-- The search may leave out the rules that clash with the ending. -/
theorem singularByRule_eq_of_suffix {suffix : String} (ends : suffix.toList <:+ word.map foldChar) :
    singularByRule word = ((rulesFor suffix).findSome? (·.singular? word)).getD word := by
  rw [singularByRule, rulesFor, findSome?_filter]
  intro rule _ clashes
  by_contra applies
  obtain ⟨out, applied⟩ := Option.ne_none_iff_exists'.mp applies
  rw [rule.fits_of_singular? ascii ends applied] at clashes
  cases clashes

end

/-! ## What the rules do with an ending -/

section

variable {word : List Char} {kept dropped : String}

/-- A rule for the start of a word leaves words with another start alone. -/
theorem SingularRule.singular?_start (notStart : ¬ (kept ++ dropped).toList <+: word.map foldChar) :
    (SingularRule.start (letters kept) (letters dropped)).singular? word = none := by
  rw [singular?, if_neg]
  intro accepted
  have joined : letters kept ++ letters dropped = letters (kept ++ dropped) := by simp [letters]
  rw [joined, acceptsAll_letters, List.map_take] at accepted
  exact notStart (accepted ▸ List.take_prefix _ _)

/-- A word with an ending can be cut at its two parts. -/
theorem exists_cut (ends : (kept ++ dropped).toList <:+ word.map foldChar) :
    ∃ before k d, word = before ++ k ++ d ∧
      k.map foldChar = kept.toList ∧ d.map foldChar = dropped.toList := by
  obtain ⟨tail, ⟨before, rfl⟩, folds⟩ := List.suffix_map_iff.mp ends
  rw [String.toList_append] at folds
  obtain ⟨k, d, rfl, foldsKept, foldsDropped⟩ := List.map_eq_append_iff.mp folds.symm
  exact ⟨before, k, d, (List.append_assoc ..).symm, foldsKept, foldsDropped⟩

/-- What a rule for an ending gives, in terms of the word. -/
theorem EndingRule.singular?_of_cut {r : EndingRule} {before k d : List Char}
    (keptTests : r.kept = letters kept) (droppedTests : r.dropped = letters dropped)
    (cut : word = before ++ k ++ d) (foldsKept : k.map foldChar = kept.toList)
    (foldsDropped : d.map foldChar = dropped.toList) (whole : r.wholeWord = true → before = []) :
    r.singular? word = some (word.rdrop dropped.length ++ r.replacement k) := by
  have size : dropped.length = d.length := by
    rw [← String.length_toList, ← foldsDropped, List.length_map]
  have stem : word.rdrop dropped.length = before ++ k := by
    rw [cut, size, List.rdrop_append_length]
  rw [stem]
  refine singular?_eq_some_iff.mpr ⟨before, k, d, ⟨cut, ?_, ?_, whole⟩, rfl⟩
  · rw [keptTests]
    exact acceptsAll_letters.mpr foldsKept
  · rw [droppedTests]
    exact acceptsAll_letters.mpr foldsDropped

theorem EndingRule.singular?_ending (written : String)
    (ends : (kept ++ dropped).toList <:+ word.map foldChar) :
    (ending kept dropped written).singular? word =
      some (word.rdrop dropped.length ++ written.toList) := by
  obtain ⟨before, k, d, cut, foldsKept, foldsDropped⟩ := exists_cut ends
  exact singular?_of_cut rfl rfl cut foldsKept foldsDropped nofun

/-- A rule for a whole word leaves longer words alone. -/
theorem EndingRule.singular?_wholeWord (written : String)
    (ends : (kept ++ dropped).toList <:+ word.map foldChar) :
    EndingRule.singular? { ending kept dropped written with wholeWord := true } word =
      if word.map foldChar = (kept ++ dropped).toList then
        some (word.rdrop dropped.length ++ written.toList)
      else none := by
  split
  next whole =>
    obtain ⟨before, k, d, cut, foldsKept, foldsDropped⟩ := exists_cut ends
    have nothingBefore : before = [] := by
      rw [cut, List.map_append, List.map_append, foldsKept, foldsDropped, String.toList_append,
        List.append_assoc, List.append_left_eq_self] at whole
      exact List.map_eq_nil_iff.mp whole
    exact singular?_of_cut rfl rfl cut foldsKept foldsDropped fun _ => nothingBefore
  next longer =>
    rw [Option.eq_none_iff_forall_ne_some]
    intro out applied
    obtain ⟨before, k, d, cuts, -⟩ := singular?_eq_some_iff.mp applied
    apply longer
    rw [cuts.word_eq, cuts.whole rfl, List.nil_append, List.map_append,
      acceptsAll_letters.mp cuts.kept, acceptsAll_letters.mp cuts.dropped, String.toList_append]

/-- A rule that repeats the first letter it keeps writes it as the word does. -/
theorem EndingRule.singular?_repeatsFirst (written : String) (keeps : kept ≠ "")
    (ends : (kept ++ dropped).toList <:+ word.map foldChar) :
    EndingRule.singular? { ending kept dropped written with repeatsFirst := true } word =
      some (word.rdrop dropped.length ++ (word.rtake (kept ++ dropped).length).take 1 ++
        written.toList) := by
  obtain ⟨before, k, d, cut, foldsKept, foldsDropped⟩ := exists_cut ends
  have size : (kept ++ dropped).length = (k ++ d).length := by
    rw [← String.length_toList, String.toList_append, ← foldsKept, ← foldsDropped,
      ← List.map_append, List.length_map]
  have ending : word.rtake (kept ++ dropped).length = k ++ d := by
    rw [size, cut, List.append_assoc, List.rtake, List.length_append, Nat.add_sub_cancel,
      List.drop_left]
  have nonempty : 1 ≤ k.length := by
    rw [← List.length_map foldChar, foldsKept, Nat.one_le_iff_ne_zero, String.length_toList]
    exact fun empty => keeps (String.length_eq_zero_iff.mp empty)
  rw [ending, List.take_append_of_le_length nonempty, List.append_assoc]
  exact singular?_of_cut rfl rfl cut foldsKept foldsDropped nofun

end

/-! ## Words in -sis -/

/-- The plurals of the words in -sis that the rules know. -/
def sisPlurals : List String :=
  ["analyses", "bases", "diagnoses", "parentheses", "prognoses", "synopses", "theses"]

/-- What stands before -ses in them, where the rule writes -sis as it is.  The rule for *theses*
counts before the one for *parentheses*. -/
def sisStems : List String := ["ba", "diagno", "progno", "synop", "the"]

theorem rulesFor_sis : ∀ stem ∈ sisStems,
    (rulesFor (stem ++ "ses")).take 2 =
      [.start (letters "ox") (letters "en"), .ending (ending stem "ses" "sis")] := by
  decide +kernel

theorem rulesFor_analyses :
    (rulesFor ("analy" ++ "ses")).take 3 =
      [.start (letters "ox") (letters "en"),
        .ending { ending "analy" "ses" "sis" with wholeWord := true },
        .ending { ending "analy" "ses" "sis" with repeatsFirst := true }] := by
  decide +kernel

theorem analyses_or_sisStem : ∀ p ∈ sisPlurals,
    p = "analyses" ∨ ∃ stem ∈ sisStems, (stem ++ "ses").toList <:+ p.toList := by
  decide +kernel

section

variable {word : List Char} (ascii : Ascii word)
  (notOxen : ¬ ("ox" ++ "en").toList <+: word.map foldChar)
include ascii notOxen

theorem singularByRule_sis {stem : String} (inTable : stem ∈ sisStems)
    (ends : (stem ++ "ses").toList <:+ word.map foldChar) :
    singularByRule word = word.rdrop 3 ++ "sis".toList := by
  have split := List.take_append_drop 2 (rulesFor (stem ++ "ses"))
  rw [rulesFor_sis stem inTable] at split
  rw [singularByRule_eq_of_suffix ascii ends, ← split, List.cons_append, List.findSome?_cons,
    SingularRule.singular?_start notOxen, List.cons_append, List.findSome?_cons,
    SingularRule.singular?, EndingRule.singular?_ending "sis" ends]
  rfl

theorem singularByRule_analyses (ends : ("analy" ++ "ses").toList <:+ word.map foldChar) :
    singularByRule word =
      if word.map foldChar = ("analy" ++ "ses").toList then word.rdrop 3 ++ "sis".toList
      else word.rdrop 3 ++ (word.rtake 8).take 1 ++ "sis".toList := by
  have split := List.take_append_drop 3 (rulesFor ("analy" ++ "ses"))
  rw [rulesFor_analyses] at split
  rw [singularByRule_eq_of_suffix ascii ends, ← split, List.cons_append, List.findSome?_cons,
    SingularRule.singular?_start notOxen, List.cons_append, List.findSome?_cons,
    SingularRule.singular?, EndingRule.singular?_wholeWord "sis" ends, List.cons_append,
    List.findSome?_cons, SingularRule.singular?,
    EndingRule.singular?_repeatsFirst "sis" (by decide) ends]
  split_ifs <;> rfl

/-- The rules write -sis for -ses, and before it the *a* of longer words in *analyses* again. -/
theorem singularByRule_sisPlural
    (plural : ∃ p ∈ sisPlurals, p.toList <:+ word.map foldChar) :
    singularByRule word = word.rdrop 3 ++
      (if "analyses".toList <:+ word.map foldChar ∧ word.map foldChar ≠ "analyses".toList then
        (word.rtake 8).take 1 else []) ++ "sis".toList := by
  by_cases analyses : "analyses".toList <:+ word.map foldChar
  · rw [singularByRule_analyses ascii notOxen analyses]
    split_ifs with whole longer longer
    · exact absurd whole longer.2
    · rw [List.append_nil]
    · rfl
    · exact absurd ⟨analyses, whole⟩ longer
  · obtain ⟨p, isPlural, ends⟩ := plural
    rcases analyses_or_sisStem p isPlural with rfl | ⟨stem, inTable, endsStem⟩
    · exact absurd ends analyses
    · rw [singularByRule_sis ascii notOxen inTable (endsStem.trans ends),
        if_neg fun longer => analyses longer.1, List.append_nil]

end

theorem toList_lowercase {s : String} (ascii : Ascii s.toList) :
    (lowercase s).toList = s.toList.map foldChar := by
  rw [lowercase, String.toList_ofList, lower_eq_map ascii]
  exact List.map_congr_left fun c membership => (foldChar_eq_toLower (ascii c membership)).symm

theorem not_suffix_uncountable :
    ∀ p ∈ sisPlurals, ∀ w ∈ uncountables, ¬ p.toList <:+ w.toList := by
  decide +kernel

theorem not_suffix_irregular :
    ∀ p ∈ sisPlurals, ∀ entry ∈ irregulars, ¬ p.toList <:+ entry.1.toList := by
  decide +kernel

/-- The tables of words have no plural of a word in -sis. -/
theorem singularize_sisPlural {word : String}
    (plural : ∃ p ∈ sisPlurals, p.toList <:+ (lowercase word).toList) :
    singularize word = String.ofList (singularByRule word.toList) := by
  obtain ⟨p, isPlural, ends⟩ := plural
  have unlisted : ¬ uncountables.contains (lowercase word) = true := by
    intro listed
    exact not_suffix_uncountable p isPlural _ (List.contains_iff_mem.mp listed) ends
  rw [singularize_eq, if_neg unlisted]
  split
  next singular found =>
    have clash := not_suffix_irregular p isPlural _ (mem_of_lookup_eq_some found)
    exact absurd ends clash
  next => rfl

/-- A plural of a word in -sis loses -ses and gets -sis, unless it is a longer word in
*analyses*. -/
theorem singularize_eq_sis_iff {word : String} (ascii : Ascii word.toList)
    (plural : ∃ p ∈ sisPlurals, p.toList <:+ (lowercase word).toList)
    (notOxen : ¬ "oxen".toList <+: (lowercase word).toList) :
    singularize word = String.ofList (word.toList.rdrop 3 ++ "sis".toList) ↔
      ¬ ("analyses".toList <:+ (lowercase word).toList ∧ lowercase word ≠ "analyses") := by
  rw [singularize_sisPlural plural, String.ofList_inj, ne_eq, ← String.toList_inj]
  rw [toList_lowercase ascii] at plural notOxen ⊢
  rw [singularByRule_sisPlural ascii notOxen plural, List.append_assoc, List.append_right_inj,
    List.append_left_eq_self]
  split
  next longer =>
    -- The word has its ending, so there is a letter that the rule repeats.
    have size : 8 ≤ word.toList.length := by
      rw [← List.length_map foldChar]
      exact longer.1.length_le
    have repeated : (word.toList.rtake 8).take 1 ≠ [] := by
      rw [ne_eq, List.take_eq_nil_iff, List.rtake, List.drop_eq_nil_iff]
      omega
    exact iff_of_false repeated (not_not_intro longer)
  next shorter => exact iff_of_true rfl shorter

theorem singularize_eq_sis_hypotheses :
    singularize "riskHypotheses" = "riskHypothesis" ∧ singularize "ANALYSES" = "ANALYsis" := by
  have hypotheses := singularize_eq_sis_iff (show Ascii "riskHypotheses".toList by decide +kernel)
    ⟨"theses", by decide +kernel, by decide +kernel⟩ (by decide +kernel)
  have analyses := singularize_eq_sis_iff (show Ascii "ANALYSES".toList by decide +kernel)
    ⟨"analyses", by decide +kernel, by decide +kernel⟩ (by decide +kernel)
  exact ⟨(hypotheses.mpr (by decide +kernel)).trans (by decide +kernel),
    (analyses.mpr (by decide +kernel)).trans (by decide +kernel)⟩

/-- A longer word in *analyses* gets its *a* twice. -/
theorem singularize_riskAnalyses :
    "analyses".toList <:+ (lowercase "riskAnalyses").toList ∧
      singularize "riskAnalyses" = "riskAnalyAsis" ∧
      singularize "riskAnalyses" ≠ "riskAnalysis" := by
  decide +kernel

end QueryModel
