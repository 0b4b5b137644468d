import Mathlib.Data.List.Induction
import QueryModel.Build.Flatten

/-!
# Merging is grouping

Merging walks over the fields of a level and folds each one into the merged field
of its response name.  This module says what comes out in terms of the whole list.

The *group* of a field is the list of all fields of its response name, in order.
There is one merged field for every group, and no two have the same response name
(`mem_mergeFields`, `nodup_responseNames_mergeFields`).  The merged field of a
group has the first field of the group and joins the selections of all of them.
It has a selection when one of them has one.  It is conditional when all of them
are.
-/

namespace QueryModel

/-- Several selections, joined in each part. -/
def Selection.joined (l : List Selection) : Selection :=
  ⟨l.flatMap (·.fields), l.flatMap (·.spreads), l.flatMap (·.inlines)⟩

theorem Selection.joined_concat (l : List Selection) (a : Selection) :
    joined (l ++ [a]) = joined l ++ a := by
  simp only [joined, List.flatMap_append, List.flatMap_cons, List.flatMap_nil, List.append_nil]
  rfl

/-- A field without a selection has nothing below it. -/
theorem Field.selection_eq_empty {f : Field} (leaf : f.hasSelection = false) :
    f.selection = {} := by
  simp only [Field.hasSelection, Field.selection, Bool.or_eq_false_iff, Bool.not_eq_false',
    Option.isSome_eq_false_iff, Option.isNone_iff_eq_none, List.isEmpty_iff] at leaf
  obtain ⟨⟨fields, spreads⟩, inlines⟩ := leaf
  rw [Field.selection, fields, spreads, inlines]
  rfl

/-! ## The merged field of a group -/

namespace MergedField

/-- The response name that a merged field stands for. -/
def responseName (m : MergedField) : String := m.first.responseName

/-- The merged field of a field and of later ones of its response name. -/
def ofGroup (first : Field) (rest : List Field) : MergedField := rest.foldl add (ofField first)

@[simp]
theorem responseName_ofField (f : Field) : (ofField f).responseName = f.responseName := rfl

@[simp]
theorem responseName_add (m : MergedField) (f : Field) :
    (m.add f).responseName = m.responseName := rfl

theorem ofGroup_concat (first : Field) (rest : List Field) (f : Field) :
    ofGroup first (rest ++ [f]) = (ofGroup first rest).add f := by
  simp only [ofGroup, List.foldl_append, List.foldl_cons, List.foldl_nil]

@[simp]
theorem first_ofGroup (first : Field) (rest : List Field) :
    (ofGroup first rest).first = first := by
  induction rest using List.reverseRecOn with
  | nil => rfl
  | append_singleton rest f ih => rw [ofGroup_concat, add, ih]

theorem responseName_ofGroup (first : Field) (rest : List Field) :
    (ofGroup first rest).responseName = first.responseName := by
  rw [responseName, first_ofGroup]

/-- The selection below a merged field joins those of its group. -/
theorem nested_ofGroup (first : Field) (rest : List Field) :
    (ofGroup first rest).nested = .joined ((first :: rest).map (·.selection)) := by
  induction rest using List.reverseRecOn with
  | nil => simp [ofGroup, ofField, Selection.joined]
  | append_singleton rest f ih =>
    rw [ofGroup_concat, ← List.cons_append, List.map_append, List.map_singleton,
      Selection.joined_concat, ← ih]
    rfl

/-- A merged field has a selection when one field of its group has one. -/
theorem hasSelection_ofGroup (first : Field) (rest : List Field) :
    (ofGroup first rest).hasSelection = (first :: rest).any (·.hasSelection) := by
  induction rest using List.reverseRecOn with
  | nil => simp [ofGroup, ofField]
  | append_singleton rest f ih =>
    rw [ofGroup_concat, add, ih, ← List.cons_append, List.any_append]
    simp

theorem nested_ofGroup_eq_empty {first : Field} {rest : List Field}
    (leaf : (ofGroup first rest).hasSelection = false) : (ofGroup first rest).nested = {} := by
  rw [hasSelection_ofGroup, List.any_eq_false] at leaf
  have empty : ∀ f ∈ first :: rest, f.selection = {} := by
    intro f membership
    exact Field.selection_eq_empty (Bool.eq_false_iff.mpr (leaf f membership))
  rw [nested_ofGroup, List.map_congr_left empty]
  simp [Selection.joined]

/-- A merged field is conditional when all fields of its group are. -/
theorem conditional_ofGroup (first : Field) (rest : List Field) :
    (ofGroup first rest).conditional = (first :: rest).all (·.isConditional) := by
  induction rest using List.reverseRecOn with
  | nil => simp [ofGroup, ofField]
  | append_singleton rest f ih =>
    rw [ofGroup_concat, add, ih, ← List.cons_append, List.all_append]
    simp

end MergedField

/-! ## Merging one field -/

theorem mergeField_cons (f : Field) (m : MergedField) (ms : List MergedField) :
    mergeField f (m :: ms) =
      if m.responseName = f.responseName then m.add f :: ms else m :: mergeField f ms := rfl

/-- Merging a field adds its response name unless it is there. -/
theorem responseNames_mergeField (f : Field) (ms : List MergedField) :
    (mergeField f ms).map (·.responseName) =
      if f.responseName ∈ ms.map (·.responseName) then ms.map (·.responseName)
      else ms.map (·.responseName) ++ [f.responseName] := by
  induction ms with
  | nil => rfl
  | cons m ms ih =>
    by_cases same : m.responseName = f.responseName
    · rw [mergeField_cons, if_pos same, if_pos (by simp [same])]
      rfl
    · have other : f.responseName ≠ m.responseName := fun equal => same equal.symm
      rw [mergeField_cons, if_neg same, List.map_cons, ih]
      simp only [List.map_cons, List.mem_cons, other, false_or]
      split <;> rfl

/-- A merged field after one more field was merged is an old one of another response
name, an old one to which the field was added, or the field on its own. -/
theorem mem_mergeField {f : Field} {ms : List MergedField} {x : MergedField}
    (distinct : (ms.map (·.responseName)).Nodup) :
    x ∈ mergeField f ms ↔ (x ∈ ms ∧ x.responseName ≠ f.responseName) ∨
      (∃ m ∈ ms, m.responseName = f.responseName ∧ x = m.add f) ∨
      (f.responseName ∉ ms.map (·.responseName) ∧ x = .ofField f) := by
  induction ms with
  | nil => simp [mergeField]
  | cons m ms ih =>
    simp only [List.map_cons, List.nodup_cons] at distinct
    by_cases same : m.responseName = f.responseName
    · have later : ∀ y ∈ ms, y.responseName ≠ f.responseName := by
        intro y membership equal
        exact distinct.1 (List.mem_map.mpr ⟨y, membership, equal.trans same.symm⟩)
      rw [mergeField_cons, if_pos same]
      simp only [List.mem_cons, List.map_cons, same]
      grind
    · rw [mergeField_cons, if_neg same, List.mem_cons, ih distinct.2]
      simp only [List.mem_cons, List.map_cons]
      grind

/-! ## Merging a list of fields -/

theorem mergeFields_concat (fields : List Field) (f : Field) :
    mergeFields (fields ++ [f]) = mergeField f (mergeFields fields) := by
  simp only [mergeFields, List.foldl_append, List.foldl_cons, List.foldl_nil]

/-- No two merged fields have the same response name. -/
theorem nodup_responseNames_mergeFields (fields : List Field) :
    ((mergeFields fields).map (·.responseName)).Nodup := by
  induction fields using List.reverseRecOn with
  | nil => exact List.nodup_nil
  | append_singleton fields f ih =>
    rw [mergeFields_concat, responseNames_mergeField]
    split
    next known => exact ih
    next fresh => exact List.nodup_append.mpr ⟨ih, by simp, by grind⟩

/-- The fields of a response name, in order. -/
def fieldsNamed (name : String) (fields : List Field) : List Field :=
  fields.filter (·.responseName == name)

theorem mem_fieldsNamed {name : String} {fields : List Field} {f : Field} :
    f ∈ fieldsNamed name fields ↔ f ∈ fields ∧ f.responseName = name := by
  rw [fieldsNamed, List.mem_filter, beq_iff_eq]

theorem fieldsNamed_concat (name : String) (fields : List Field) (f : Field) :
    fieldsNamed name (fields ++ [f]) =
      fieldsNamed name fields ++ if f.responseName = name then [f] else [] := by
  rw [fieldsNamed, List.filter_append]
  by_cases same : f.responseName = name <;> simp [fieldsNamed, same]

/-- The response names of merged fields are those of the fields. -/
theorem mem_responseNames_mergeFields {name : String} {fields : List Field} :
    name ∈ (mergeFields fields).map (·.responseName) ↔ fieldsNamed name fields ≠ [] := by
  induction fields using List.reverseRecOn with
  | nil => simp [mergeFields, fieldsNamed]
  | append_singleton fields f ih =>
    rw [mergeFields_concat, responseNames_mergeField, fieldsNamed_concat]
    by_cases same : f.responseName = name
    · subst same
      rw [if_pos rfl]
      split
      next known => simp [known]
      next fresh => simp
    · rw [if_neg same, List.append_nil, ← ih]
      split
      next known => exact Iff.rfl
      next fresh => simp [Ne.symm same]

/-- The merged fields are those of the groups. -/
theorem mem_mergeFields {fields : List Field} {m : MergedField} :
    m ∈ mergeFields fields ↔ ∃ first rest,
      fieldsNamed first.responseName fields = first :: rest ∧ m = .ofGroup first rest := by
  induction fields using List.reverseRecOn generalizing m with
  | nil => simp [mergeFields, fieldsNamed]
  | append_singleton fields f ih =>
    rw [mergeFields_concat, mem_mergeField (nodup_responseNames_mergeFields fields),
      mem_responseNames_mergeFields, not_ne_iff]
    constructor
    · rintro (⟨old, other⟩ | ⟨old, oldMember, same, rfl⟩ | ⟨none, rfl⟩)
      · obtain ⟨first, rest, group, rfl⟩ := ih.mp old
        rw [MergedField.responseName_ofGroup] at other
        exact ⟨first, rest, by rw [fieldsNamed_concat, group, if_neg (Ne.symm other)]; simp, rfl⟩
      · obtain ⟨first, rest, group, rfl⟩ := ih.mp oldMember
        rw [MergedField.responseName_ofGroup] at same
        refine ⟨first, rest ++ [f], ?_, (MergedField.ofGroup_concat ..).symm⟩
        rw [fieldsNamed_concat, group, if_pos same.symm, List.cons_append]
      · exact ⟨f, [], by rw [fieldsNamed_concat, none, if_pos rfl, List.nil_append], rfl⟩
    · rintro ⟨first, rest, group, rfl⟩
      rw [fieldsNamed_concat] at group
      by_cases same : f.responseName = first.responseName
      · rw [if_pos same] at group
        cases old : fieldsNamed first.responseName fields with
        | nil =>
          rw [old, List.nil_append, List.cons.injEq] at group
          obtain ⟨rfl, rfl⟩ := group
          exact .inr (.inr ⟨old, rfl⟩)
        | cons head tail =>
          rw [old, List.cons_append, List.cons.injEq] at group
          obtain ⟨rfl, rfl⟩ := group
          refine .inr (.inl ⟨.ofGroup head tail, ih.mpr ⟨head, tail, old, rfl⟩, ?_,
            MergedField.ofGroup_concat ..⟩)
          rw [MergedField.responseName_ofGroup, same]
      · rw [if_neg same, List.append_nil] at group
        refine .inl ⟨ih.mpr ⟨first, rest, group, rfl⟩, ?_⟩
        rw [MergedField.responseName_ofGroup]
        exact Ne.symm same

/-- Below a merged field lies what is below the fields of its response name. -/
theorem nested_of_mem_mergeFields {fields : List Field} {m : MergedField}
    (merged : m ∈ mergeFields fields) :
    m.nested = .joined ((fieldsNamed m.responseName fields).map (·.selection)) := by
  obtain ⟨first, rest, group, rfl⟩ := mem_mergeFields.mp merged
  rw [MergedField.nested_ofGroup, MergedField.responseName_ofGroup, group]

/-- A merged field is conditional when all fields of its response name are. -/
theorem conditional_of_mem_mergeFields {fields : List Field} {m : MergedField}
    (merged : m ∈ mergeFields fields) :
    m.conditional = (fieldsNamed m.responseName fields).all (·.isConditional) := by
  obtain ⟨first, rest, group, rfl⟩ := mem_mergeFields.mp merged
  rw [MergedField.conditional_ofGroup, MergedField.responseName_ofGroup, group]

theorem first_mem_of_mem_mergeFields {fields : List Field} {m : MergedField}
    (merged : m ∈ mergeFields fields) : m.first ∈ fields := by
  obtain ⟨first, rest, group, rfl⟩ := mem_mergeFields.mp merged
  have inGroup : first ∈ fieldsNamed first.responseName fields := by
    rw [group]
    exact List.mem_cons_self ..
  rw [MergedField.first_ofGroup]
  exact (mem_fieldsNamed.mp inGroup).1

theorem exists_mem_mergeFields {fields : List Field} {f : Field} (membership : f ∈ fields) :
    ∃ m ∈ mergeFields fields, m.responseName = f.responseName := by
  apply List.mem_map.mp
  rw [mem_responseNames_mergeFields]
  exact List.ne_nil_of_mem (mem_fieldsNamed.mpr ⟨membership, rfl⟩)

end QueryModel
