import Mathlib.Data.List.Basic
import QueryModel.Model.TypeRef
import QueryModel.Naming.Identifier

/-!
# Targets as text

A target is read into a reference, and a reference is written as text.  Reading loses the spelling
of the well-known targets, which may have the package of the language in front and have two names
each for whole and for floating-point numbers (`TypeRef.spellings`).  Of classes it loses nothing: a
class is cut at its last dot, and its halves are written with a dot between them again.

One thing could go wrong.  A class without a package is written without a dot, so a target whose
only dot is its first character would lose it.  A qualified name starts with an identifier, and no
identifier is empty (`not_startsWithDot_of_isQualifiedName`).
-/

namespace QueryModel

open Text

/-! ## The last separator -/

namespace Text

variable {separator : Char}

/-- A text without a separator is not cut, and any other is cut at the last one. -/
theorem splitLast?_cases (separator : Char) (cs : List Char) :
    (separator ∉ cs ∧ splitLast? separator cs = none) ∨
      ∃ before after, cs = before ++ separator :: after ∧ separator ∉ after ∧
        splitLast? separator cs = some (before, after) := by
  induction cs with
  | nil => exact .inl ⟨List.not_mem_nil, rfl⟩
  | cons c cs ih =>
    rcases ih with ⟨absent, notCut⟩ | ⟨before, after, rfl, absent, cut⟩
    · by_cases here : c = separator
      · subst here
        refine .inr ⟨[], cs, rfl, absent, ?_⟩
        rw [splitLast?, notCut]
        exact if_pos rfl
      · refine .inl ⟨List.not_mem_cons_of_ne_of_not_mem (Ne.symm here) absent, ?_⟩
        rw [splitLast?, notCut]
        exact if_neg here
    · refine .inr ⟨c :: before, after, rfl, absent, ?_⟩
      rw [splitLast?, cut]

theorem splitLast?_of_notMem {cs : List Char} (absent : separator ∉ cs) :
    splitLast? separator cs = none := by
  rcases splitLast?_cases separator cs with ⟨-, notCut⟩ | ⟨before, after, rfl, -, -⟩
  · exact notCut
  · exact absurd (List.mem_append_right _ List.mem_cons_self) absent

theorem splitLast?_append (before : List Char) {after : List Char} (absent : separator ∉ after) :
    splitLast? separator (before ++ separator :: after) = some (before, after) := by
  induction before with
  | nil =>
    rw [List.nil_append, splitLast?, splitLast?_of_notMem absent]
    exact if_pos rfl
  | cons c before ih => rw [List.cons_append, splitLast?, ih]

end Text

/-! ## Classes -/

namespace ClassName

/-- A class is read back from its text, whatever its package is. -/
theorem parse_render {c : ClassName} (plain : '.' ∉ c.name.toList) : parse c.render = c := by
  obtain ⟨package, name⟩ := c
  rw [render]
  split
  next noPackage =>
    obtain rfl : package = "" := String.isEmpty_iff.mp noPackage
    rw [parse, splitLast?_of_notMem plain]
  next =>
    have chars : (package ++ "." ++ name).toList = package.toList ++ '.' :: name.toList := by simp
    rw [parse, chars, splitLast?_append _ plain]
    simp only [String.ofList_toList]

/-- A text that does not start with a dot is written back from its class. -/
theorem render_parse {s : String} (starts : s.toList.head? ≠ some '.') :
    (parse s).render = s ∧ '.' ∉ (parse s).name.toList := by
  rcases splitLast?_cases '.' s.toList with ⟨absent, notCut⟩ | ⟨before, after, chars, absent, cut⟩
  · rw [parse, notCut]
    exact ⟨rfl, absent⟩
  · have filled : before ≠ [] := by
      rintro rfl
      exact starts (by rw [chars]; rfl)
    have whole : s = String.ofList before ++ "." ++ String.ofList after := by
      rw [← String.toList_inj, chars]
      simp
    rw [parse, cut, render]
    refine ⟨?_, by rwa [String.toList_ofList]⟩
    rw [if_neg (by simpa using filled), ← whole]

end ClassName

theorem not_startsWithDot_of_isQualifiedName {s : String} (qualified : isQualifiedName s = true) :
    s.toList.head? ≠ some '.' := by
  intro starts
  obtain ⟨cs, chars⟩ := List.head?_eq_some_iff.mp starts
  rw [isQualifiedName, chars, splitWhere] at qualified
  cases qualified

/-! ## References -/

namespace TypeRef

/-- The simple names of the well-known targets, what they stand for and how that is written. -/
def spellings : List (String × TypeRef × String) :=
  [("String", .text, "String"), ("Boolean", .boxed .boolean, "Boolean"),
   ("Integer", .boxed .int, "Integer"), ("Int", .boxed .int, "Integer"),
   ("Long", .boxed .long, "Long"), ("Double", .boxed .double, "Double"),
   ("Float", .boxed .double, "Double")]

/-- A target is a simple name with the package of the language in front, or it does not have that
package in front and is the simple name itself. -/
def Simplifies (target simple : String) : Prop :=
  target = "java.lang." ++ simple ∨ target = simple ∧ ∀ rest, target ≠ "java.lang." ++ rest

theorem Simplifies.unique {target simple other : String} (simplifies : Simplifies target simple)
    (simplifies' : Simplifies target other) : simple = other := by
  rcases simplifies with rfl | ⟨rfl, noPackage⟩
  · rcases simplifies' with same | ⟨-, noPackage⟩
    · exact (String.append_right_inj _).mp same
    · exact absurd rfl (noPackage simple)
  · rcases simplifies' with same | ⟨same, -⟩
    · exact absurd same (noPackage other)
    · exact same

theorem simplifies_simpleTarget (target : String) : Simplifies target (simpleTarget target) := by
  rw [simpleTarget]
  split
  next rest found =>
    have rest_toList : (String.ofList rest).toList = rest := String.toList_ofList
    left
    rw [← String.toList_inj, String.toList_append, rest_toList]
    exact (List.append_eq_of_isPrefixOf?_eq_some found).symm
  next notFound =>
    refine .inr ⟨rfl, ?_⟩
    rintro rest rfl
    rw [String.toList_append, List.isPrefixOf?_eq_some_iff_append_eq.mpr rfl] at notFound
    cases notFound

theorem ofTarget_of_mem_spellings {target written : String} {ref : TypeRef}
    (known : (simpleTarget target, ref, written) ∈ spellings) :
    ofTarget target = ref ∧ ref.render = written ∧ ofTarget written = ref := by
  rw [ofTarget]
  generalize simpleTarget target = simple at known
  simp only [spellings, List.mem_cons, List.not_mem_nil, or_false] at known
  rcases known with same | same | same | same | same | same | same
  all_goals
    cases same
    with_unfolding_all exact ⟨rfl, rfl, rfl⟩

theorem ofTarget_of_notMem_spellings {target : String}
    (unknown : simpleTarget target ∉ spellings.map (·.1)) :
    ofTarget target = .named (ClassName.parse target) := by
  have names : spellings.map (·.1) = wellKnownTargets.map (·.1) := rfl
  have notFound : wellKnownTargets.lookup (simpleTarget target) = none := by
    rw [names] at unknown
    refine List.lookup_eq_none_iff.mpr fun entry membership => ?_
    rw [bne_iff_ne]
    intro same
    exact unknown (List.mem_map.mpr ⟨entry, membership, same.symm⟩)
  rw [ofTarget, notFound]

theorem render_ofTarget_of_notMem_spellings {target : String}
    (qualified : isQualifiedName target = true)
    (unknown : simpleTarget target ∉ spellings.map (·.1)) : (ofTarget target).render = target := by
  have starts := not_startsWithDot_of_isQualifiedName qualified
  rw [ofTarget_of_notMem_spellings unknown, render, (ClassName.render_parse starts).1]

/-- What is written for a target is read as the same reference. -/
theorem ofTarget_render_ofTarget {target : String} (qualified : isQualifiedName target = true) :
    ofTarget (ofTarget target).render = ofTarget target := by
  by_cases known : simpleTarget target ∈ spellings.map (·.1)
  · obtain ⟨⟨simple, ref, written⟩, membership, same⟩ := List.mem_map.mp known
    cases same
    obtain ⟨read, rfl, readAgain⟩ := ofTarget_of_mem_spellings membership
    rw [read, readAgain]
  · rw [render_ofTarget_of_notMem_spellings qualified known]

/-- A qualified name of a well-known target is read as what its simple name stands for.  Every other
qualified name is read as a class and written as it was.  What is written is read as the same
reference.  A class whose name has no dot is read back from its text, whatever its package is. -/
theorem ofTarget_exact {target : String} (qualified : isQualifiedName target = true) :
    (∃ simple, Simplifies target simple ∧
      (∀ ref written, (simple, ref, written) ∈ spellings →
        ofTarget target = ref ∧ (ofTarget target).render = written) ∧
      (simple ∉ spellings.map (·.1) →
        ∃ c, ofTarget target = .named c ∧ '.' ∉ c.name.toList ∧
          (ofTarget target).render = target)) ∧
    ofTarget (ofTarget target).render = ofTarget target ∧
    ∀ c : ClassName, '.' ∉ c.name.toList → ClassName.parse c.render = c := by
  refine ⟨⟨simpleTarget target, simplifies_simpleTarget target, ?_, ?_⟩,
    ofTarget_render_ofTarget qualified, fun c => ClassName.parse_render⟩
  · intro ref written known
    obtain ⟨read, shown, -⟩ := ofTarget_of_mem_spellings known
    exact ⟨read, read ▸ shown⟩
  · intro unknown
    have starts := not_startsWithDot_of_isQualifiedName qualified
    exact ⟨_, ofTarget_of_notMem_spellings unknown, (ClassName.render_parse starts).2,
      render_ofTarget_of_notMem_spellings qualified unknown⟩

/-- Only one package of the language is taken off, so the second target is a class. -/
theorem ofTarget_exact_langTwice :
    (ofTarget "java.lang.Float" = .boxed .double ∧
      ofTarget (ofTarget "java.lang.Float").render = .boxed .double) ∧
    (ofTarget "java.lang.java.lang.Float").render = "java.lang.java.lang.Float" ∧
    ClassName.parse (⟨".", "Float"⟩ : ClassName).render = ⟨".", "Float"⟩ := by
  obtain ⟨⟨simple, simplifies, known, -⟩, again, classes⟩ :=
    ofTarget_exact (show isQualifiedName "java.lang.Float" = true by decide +kernel)
  obtain ⟨⟨simple', simplifies', -, unknown⟩, -⟩ :=
    ofTarget_exact (show isQualifiedName "java.lang.java.lang.Float" = true by decide +kernel)
  obtain rfl : simple = "Float" := simplifies.unique (.inl rfl)
  obtain rfl : simple' = "java.lang.Float" := simplifies'.unique (.inl rfl)
  have read := (known (.boxed .double) "Double" (by simp [spellings])).1
  obtain ⟨-, -, -, written⟩ := unknown (by decide)
  exact ⟨⟨read, again.trans read⟩, written, classes _ (by decide)⟩

end TypeRef

end QueryModel
