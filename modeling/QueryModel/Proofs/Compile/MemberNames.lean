import Mathlib.Data.List.Nodup
import QueryModel.Proofs.Compile.Checks
import QueryModel.Proofs.Naming.ShapeNames

/-!
# Names of members

A variable gives a parameter and a setter, whose name is the name of the variable with its first
letter in lower case.  A scalar gives a constant, whose name is the name of the scalar in upper
case.  Neither name is compared with the others, so both can be taken twice.

* Two variables clash when their names differ in the case of the first letter only
  (`FirstLetterClash`).  One letter needs care: the lower case of `İ` is an `i` with a dot that is a
  character of its own, so a name may also clash with one that is written with that dot.
* Two scalars clash when their names differ in letter case only, anywhere in the name.

`memberNames_nodup_iff` says that nothing else makes two members have one name, and
`not_nodup_memberNames` that these do.
-/

namespace QueryModel

open Text

namespace Text

/-! ## First letters -/

/-- The dot that stands above the letter before it. -/
def dotAbove : Char := '\u0307'

/-- Two texts that become one when their first letters go to lower case: either the letters are the
same in lower case, or one is `İ` and the other is an `i` with a dot behind it. -/
def FirstLetterClash : List Char → List Char → Prop
  | c :: cs, d :: ds =>
    (lowerChar c = lowerChar d ∧ cs = ds) ∨
      (c = 'İ' ∧ lowerChar d = ['i'] ∧ ds = dotAbove :: cs) ∨
      (d = 'İ' ∧ lowerChar c = ['i'] ∧ cs = dotAbove :: ds)
  | _, _ => False

instance decidableFirstLetterClash : (cs ds : List Char) → Decidable (FirstLetterClash cs ds)
  | [], _ => .isFalse id
  | _ :: _, [] => .isFalse id
  | _ :: _, _ :: _ => inferInstanceAs (Decidable (_ ∨ _ ∨ _))

theorem lowerChar_dotted : lowerChar 'İ' = ['i', dotAbove] := by decide +kernel

/-- All letters but one have a single character in lower case. -/
theorem exists_lowerChar_eq {c : Char} (plain : c ≠ 'İ') : ∃ d, lowerChar c = [d] := by
  have notListed : lowerExpansions.lookup c.toNat = none := by
    refine List.lookup_eq_none_iff.mpr (List.forall_mem_singleton.mpr ?_)
    exact bne_iff_ne.mpr fun same => plain (Char.toNat_inj.mp same)
  simp only [lowerChar, mapCase, notListed]
  split
  · exact ⟨_, rfl⟩
  · split
    · exact ⟨_, rfl⟩
    · exact ⟨_, rfl⟩

theorem lowerChar_append_eq_iff {c d : Char} {cs ds : List Char} :
    lowerChar c ++ cs = lowerChar d ++ ds ↔ FirstLetterClash (c :: cs) (d :: ds) := by
  constructor
  · intro same
    -- where both letters have as many characters in lower case, the rests are the same too
    by_cases dotted : c = 'İ'
    · subst dotted
      by_cases dotted' : d = 'İ'
      · subst dotted'
        exact .inl ⟨rfl, List.append_cancel_left same⟩
      · obtain ⟨e, lowered⟩ := exists_lowerChar_eq dotted'
        rw [lowerChar_dotted, lowered] at same
        injection same with letter rest
        exact .inr (.inl ⟨rfl, by rw [lowered, letter], rest.symm⟩)
    · obtain ⟨e, lowered⟩ := exists_lowerChar_eq dotted
      by_cases dotted' : d = 'İ'
      · subst dotted'
        rw [lowerChar_dotted, lowered] at same
        injection same with letter rest
        exact .inr (.inr ⟨rfl, by rw [lowered, letter], rest⟩)
      · obtain ⟨e', lowered'⟩ := exists_lowerChar_eq dotted'
        rw [lowered, lowered'] at same
        injection same with letter rest
        exact .inl ⟨by rw [lowered, lowered', letter], rest⟩
  · rintro (⟨sameLetter, rfl⟩ | ⟨rfl, isI, rfl⟩ | ⟨rfl, isI, rfl⟩)
    · rw [sameLetter]
    · rw [lowerChar_dotted, isI]
      rfl
    · rw [lowerChar_dotted, isI]
      rfl

theorem lowerChar_ne_nil (c : Char) : lowerChar c ≠ [] := by
  by_cases dotted : c = 'İ'
  · rw [dotted, lowerChar_dotted]
    exact List.cons_ne_nil _ _
  · obtain ⟨d, lowered⟩ := exists_lowerChar_eq dotted
    rw [lowered]
    exact List.cons_ne_nil _ _

theorem decapitalize_eq_iff {a b : String} :
    decapitalize a = decapitalize b ↔ a = b ∨ FirstLetterClash a.toList b.toList := by
  rw [decapitalize, decapitalize, String.ofList_inj, ← String.toList_inj]
  cases a.toList with
  | nil =>
    cases b.toList with
    | nil => simp
    | cons d ds => simp [decapitalizeChars, FirstLetterClash, lowerChar_ne_nil]
  | cons c cs =>
    cases b.toList with
    | nil => simp [decapitalizeChars, FirstLetterClash, lowerChar_ne_nil]
    | cons d ds =>
      rw [decapitalizeChars, decapitalizeChars, lowerChar_append_eq_iff]
      refine ⟨.inr, ?_⟩
      rintro (same | clash)
      · cases same
        exact .inl ⟨rfl, rfl⟩
      · exact clash

/-! ## Upper case -/

theorem constantChar_of_isNameRest {c : Char} (continues : isNameRest c = true) :
    constantChar c = [c.toUpper] := by
  have notDash : c ≠ '-' := ne_of_isNameRest continues rfl
  have notDot : c ≠ '.' := ne_of_isNameRest continues rfl
  rw [constantChar, upperChar, if_pos (toNat_lt_of_isNameRest continues)]
  simp [notDash, notDot, isBlank_of_isNameRest continues]

/-- Nothing of a GraphQL name is dropped or replaced, so its constant is the name in upper case. -/
theorem constantCase_of_isGraphqlName {s : String} (valid : isGraphqlName s = true) :
    constantCase s = String.ofList (s.toList.map Char.toUpper) := by
  have continues : ∀ c ∈ s.toList, isNameRest c = true := fun _ => isNameRest_of_mem_toList valid
  have unmarked : ∀ c ∈ s.toList, (c == '!') = false := by
    intro c membership
    exact beq_eq_false_iff_ne.mpr (ne_of_isNameRest (continues c membership) rfl)
  rw [constantCase, dropEndWhile_eq_self unmarked, List.map_eq_flatMap]
  congr 1
  exact List.flatMap_congr fun c membership => constantChar_of_isNameRest (continues c membership)

/-- Upper case and lower case tell the same letters apart. -/
theorem toUpper_eq_iff {c d : Char} : c.toUpper = d.toUpper ↔ c.toLower = d.toLower := by
  constructor
  · intro same
    rw [← c.toLower_toUpper_eq_toLower, same, d.toLower_toUpper_eq_toLower]
  · intro same
    rw [← c.toUpper_toLower_eq_toUpper, same, d.toUpper_toLower_eq_toUpper]

theorem map_toUpper_eq_iff {cs ds : List Char} :
    cs.map Char.toUpper = ds.map Char.toUpper ↔ cs.map Char.toLower = ds.map Char.toLower := by
  simp only [← List.forall₂_eq_eq_eq, List.forall₂_map_left_iff, List.forall₂_map_right_iff,
    toUpper_eq_iff]

/-- Of GraphQL names, those clash that are the same with a capital at the front. -/
theorem firstLetterClash_iff {a b : String} (valid : isGraphqlName a = true)
    (valid' : isGraphqlName b = true) :
    FirstLetterClash a.toList b.toList ↔ capitalize a = capitalize b := by
  obtain ⟨c, cs, chars, starts, -⟩ := isGraphqlName_iff.mp valid
  obtain ⟨d, ds, chars', starts', -⟩ := isGraphqlName_iff.mp valid'
  have ascii := toNat_lt_of_isNameRest (isNameRest_of_isNameStart starts)
  have ascii' := toNat_lt_of_isNameRest (isNameRest_of_isNameStart starts')
  have lowered : lowerChar c = [c.toLower] := if_pos ascii
  have lowered' : lowerChar d = [d.toLower] := if_pos ascii'
  rw [capitalize, capitalize, chars, chars', capitalizeChars_cons ascii,
    capitalizeChars_cons ascii', String.ofList_inj, List.cons_eq_cons, toUpper_eq_iff,
    ← lowerChar_append_eq_iff, lowered, lowered', List.singleton_append, List.singleton_append,
    List.cons_eq_cons]

theorem constantCase_eq_iff {a b : String} (valid : isGraphqlName a = true)
    (valid' : isGraphqlName b = true) :
    constantCase a = constantCase b ↔ lowercase a = lowercase b := by
  rw [constantCase_of_isGraphqlName valid, constantCase_of_isGraphqlName valid', lowercase,
    lowercase, lower_eq_map (ascii_of_isGraphqlName valid),
    lower_eq_map (ascii_of_isGraphqlName valid'), String.ofList_inj, String.ofList_inj,
    map_toUpper_eq_iff]

end Text

/-! ## Members -/

namespace Context

variable {c : Context} {o : Operation} {t : OperationType}

/-- The name of a member is that of its variable with the first letter in lower case. -/
theorem names_declaredVariables (built : c.operationType o = .ok t) :
    t.declaredVariables.map (·.name) = (o.parameters.map (·.name)).map decapitalize := by
  obtain ⟨_, _, _, parameters, _, _, _, _, typed, _, rfl⟩ := operationType_eq_ok.mp built
  have members := forall₂_variableMember typed
  rw [List.map_map]
  refine map_eq_of_forall₂ members fun v m made => ?_
  obtain ⟨type, -, made⟩ := Build.bind_eq_ok.mp made
  cases made
  rfl

theorem names_setters (built : c.operationType o = .ok t) :
    t.builder.setters.map (·.name) = t.declaredVariables.map (·.name) := by
  rw [setters_operationType built, List.map_map]
  rfl

theorem nodup_declaredVariables_iff (built : c.operationType o = .ok t)
    (distinct : (o.parameters.map (·.name)).Nodup) :
    (t.declaredVariables.map (·.name)).Nodup ↔
      ∀ a ∈ o.parameters.map (·.name), ∀ b ∈ o.parameters.map (·.name), a ≠ b →
        ¬ FirstLetterClash a.toList b.toList := by
  rw [names_declaredVariables built, List.nodup_map_iff_inj_on distinct]
  refine forall₂_congr fun a _ => forall₂_congr fun b _ => ?_
  rw [decapitalize_eq_iff]
  constructor
  · exact fun injective different clash => different (injective (.inr clash))
  · intro noClash same
    by_contra different
    exact noClash different (same.resolve_left different)

theorem names_constants {type : ScalarsType} (listed : c.scalarsType? = some type) :
    type.constants.map (·.name) = c.settings.scalars.keys.map constantCase := by
  rw [scalarsType?] at listed
  split at listed
  next => cases listed
  next =>
    cases listed
    rw [Dict.keys, List.map_map, List.map_map]
    rfl

theorem nodup_constants_iff {type : ScalarsType} (listed : c.scalarsType? = some type)
    (valid : ∀ name ∈ c.settings.scalars.keys, isGraphqlName name = true) :
    (type.constants.map (·.name)).Nodup ↔
      ∀ a ∈ c.settings.scalars.keys, ∀ b ∈ c.settings.scalars.keys, a ≠ b →
        lowercase a ≠ lowercase b := by
  have distinct : c.settings.scalars.keys.Nodup := c.settings.scalars.distinct
  rw [names_constants listed, List.nodup_map_iff_inj_on distinct]
  refine forall₂_congr fun a inKeys => forall₂_congr fun b inKeys' => ?_
  rw [constantCase_eq_iff (valid a inKeys) (valid b inKeys')]
  exact not_imp_not.symm

/-- The setters of an operation are named like the parameters of its variables.  If the variables
have different names, then so have the parameters, exactly when no two names become one with their
first letter in lower case.  Of GraphQL names those do that differ in the case of the first letter
only.  The constants of scalars with GraphQL names have different names exactly when no two of the
names differ in letter case only. -/
theorem memberNames_nodup_iff (c : Context) :
    (∀ o t, c.operationType o = .ok t → (o.parameters.map (·.name)).Nodup →
      t.builder.setters.map (·.name) = t.declaredVariables.map (·.name) ∧
      ((t.declaredVariables.map (·.name)).Nodup ↔
        ∀ a ∈ o.parameters.map (·.name), ∀ b ∈ o.parameters.map (·.name), a ≠ b →
          ¬ FirstLetterClash a.toList b.toList)) ∧
    (∀ a b, isGraphqlName a = true → isGraphqlName b = true →
      (FirstLetterClash a.toList b.toList ↔ capitalize a = capitalize b)) ∧
    ∀ type, c.scalarsType? = some type →
      (∀ name ∈ c.settings.scalars.keys, isGraphqlName name = true) →
      ((type.constants.map (·.name)).Nodup ↔
        ∀ a ∈ c.settings.scalars.keys, ∀ b ∈ c.settings.scalars.keys, a ≠ b →
          lowercase a ≠ lowercase b) := by
  refine ⟨fun o t built distinct => ?_, fun _ _ => firstLetterClash_iff,
    fun _ => nodup_constants_iff⟩
  exact ⟨names_setters built, nodup_declaredVariables_iff built distinct⟩

end Context

namespace Sample

/-- Two names that are the same in lower case, and differ in more than the first letter. -/
def heroCapitals : List Variable := [⟨"Id", "ID"⟩, ⟨"ID", "ID"⟩]

/-- Two names that differ in the first letter only. -/
def heroIds : List Variable := [⟨"id", "ID"⟩, ⟨"Id", "ID"⟩]

/-- A run over a document that declares scalars. -/
def declaringScalars (names : List String) : Context :=
  { settings := .ofConfig {} { declarations := names.map (.scalar · none) } "com.example" }

theorem memberNames_nodup_capitals :
    (∃ type, context.operationType (heroBy heroCapitals) = .ok type ∧
      (type.declaredVariables.map (·.name)).Nodup ∧
      (type.builder.setters.map (·.name)).Nodup) ∧
    ∃ type, (declaringScalars ["Date", "Dates"]).scalarsType? = some type ∧
      (type.constants.map (·.name)).Nodup := by
  constructor
  · obtain ⟨type, built⟩ := exists_type_heroBy (show Except.isOk
      ((context.reserve "HeroQuery").variablesType? heroCapitals) = true by decide +kernel)
    obtain ⟨setters, distinct⟩ :=
      (Context.memberNames_nodup_iff context).1 _ _ built (by decide +kernel)
    have members := distinct.mpr (by decide +kernel)
    exact ⟨type, built, members, setters ▸ members⟩
  · refine ⟨_, rfl, ?_⟩
    exact ((Context.memberNames_nodup_iff (declaringScalars ["Date", "Dates"])).2.2 _ rfl
      (by decide +kernel)).mpr (by decide +kernel)

/-- Names that differ are taken twice, by two setters of an operation and by two constants. -/
theorem not_nodup_memberNames :
    (∃ type, context.operationType (heroBy heroIds) = .ok type ∧
      (heroIds.map (·.name)).Nodup ∧ (∀ v ∈ heroIds, isGraphqlName v.name = true) ∧
      type.declaredVariables.map (·.name) = ["id", "id"] ∧
      type.builder.setters.map (·.name) = ["id", "id"] ∧
      ¬ (type.declaredVariables.map (·.name)).Nodup) ∧
    ∃ type, (declaringScalars ["Date", "DATE"]).scalarsType? = some type ∧
      (∀ name ∈ (declaringScalars ["Date", "DATE"]).settings.scalars.keys,
        isGraphqlName name = true) ∧
      ¬ (type.constants.map (·.name)).Nodup := by
  constructor
  · obtain ⟨type, built⟩ := exists_type_heroBy (show Except.isOk
      ((context.reserve "HeroQuery").variablesType? heroIds) = true by decide +kernel)
    have names : type.declaredVariables.map (·.name) = ["id", "id"] :=
      (Context.names_declaredVariables built).trans (by decide +kernel)
    have setters := (Context.names_setters built).trans names
    refine ⟨type, built, by decide, by decide +kernel, names, setters, ?_⟩
    rw [names]
    decide
  · exact ⟨_, rfl, by decide +kernel, by decide +kernel⟩

end Sample

end QueryModel
