/-!
# Results that may fail

Readers, builders and checks return a value or an error.  Chaining two of them gives a value
when both do, and the error of the first one that fails.
-/

namespace QueryModel.Result

variable {ε α β : Type} {first : Except ε α} {next : α → Except ε β}

theorem ok_bind (a : α) : (Except.ok a : Except ε α) >>= next = next a := rfl

theorem bind_eq_ok {b : β} :
    first >>= next = .ok b ↔ ∃ a, first = .ok a ∧ next a = .ok b := by
  cases first with
  | error e =>
    constructor
    · intro h
      cases h
    · rintro ⟨a, absent, _⟩
      cases absent
  | ok a =>
    constructor
    · intro h
      exact ⟨a, rfl, h⟩
    · rintro ⟨_, same, h⟩
      cases same
      exact h

theorem bind_eq_error {e : ε} :
    first >>= next = .error e ↔ first = .error e ∨ ∃ a, first = .ok a ∧ next a = .error e := by
  cases first with
  | error e' =>
    constructor
    · intro h
      cases h
      exact .inl rfl
    · rintro (same | ⟨_, absent, _⟩)
      · cases same
        rfl
      · cases absent
  | ok a =>
    constructor
    · intro h
      exact .inr ⟨a, rfl, h⟩
    · rintro (absent | ⟨_, same, h⟩)
      · cases absent
      · cases same
        exact h

/-- A check before a result has to pass. -/
theorem check_eq_ok {check : Except ε Unit} {next : Unit → Except ε β} {b : β} :
    check >>= next = .ok b ↔ check = .ok () ∧ next () = .ok b := by
  rw [bind_eq_ok]
  constructor
  · rintro ⟨_, passed, h⟩
    exact ⟨passed, h⟩
  · rintro ⟨passed, h⟩
    exact ⟨(), passed, h⟩

end QueryModel.Result
