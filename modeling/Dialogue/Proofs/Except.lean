set_option autoImplicit false

/-!
# Computations that may fail

How a sequence of computations succeeds or fails.
-/

namespace Dialogue

variable {ε φ α β : Type}

/-- A sequence succeeds if all of it does. -/
theorem bind_eq_ok_iff {x : Except ε α} {next : α → Except ε β} {b : β} :
    (x >>= next) = .ok b ↔ ∃ a, x = .ok a ∧ next a = .ok b := by
  cases x with
  | error f => simp [bind, Except.bind]
  | ok a => simp [bind, Except.bind]

/-- A sequence fails with its first failure. -/
theorem bind_eq_error_iff {x : Except ε α} {next : α → Except ε β} {f : ε} :
    (x >>= next) = .error f ↔ x = .error f ∨ ∃ a, x = .ok a ∧ next a = .error f := by
  cases x with
  | error g => simp [bind, Except.bind]
  | ok a => simp [bind, Except.bind]

/-- To rename failures makes nothing succeed or fail. -/
theorem mapError_eq_ok_iff {x : Except ε α} {rename : ε → φ} {a : α} :
    x.mapError rename = .ok a ↔ x = .ok a := by
  cases x with
  | error f =>
    constructor
    · intro h
      cases h
    · intro h
      cases h
  | ok b =>
    constructor
    · intro h
      exact congrArg Except.ok (Except.ok.inj h)
    · intro h
      exact congrArg Except.ok (Except.ok.inj h)

theorem mapError_eq_error_iff {x : Except ε α} {rename : ε → φ} {g : φ} :
    x.mapError rename = .error g ↔ ∃ f, x = .error f ∧ rename f = g := by
  cases x with
  | error f =>
    constructor
    · intro h
      exact ⟨f, rfl, Except.error.inj h⟩
    · rintro ⟨f', hf, rfl⟩
      obtain rfl := Except.error.inj hf
      rfl
  | ok b =>
    constructor
    · intro h
      cases h
    · rintro ⟨f, hf, -⟩
      cases hf

/-- What a computation gives as an option is what it gives. -/
theorem toOption_eq_some_iff {x : Except ε α} {a : α} : x.toOption = some a ↔ x = .ok a := by
  cases x with
  | error f => simp [Except.toOption]
  | ok b => simp [Except.toOption]

end Dialogue
