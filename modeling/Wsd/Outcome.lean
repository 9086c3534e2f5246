import Mathlib.Logic.Basic

/-! Computations which return or fail, as used by every handler. -/

namespace Except

variable {ε α β : Type}

@[simp] theorem ok_bind (a : α) (f : α → Except ε β) : (Except.ok a >>= f) = f a := (rfl)

@[simp] theorem error_bind (e : ε) (f : α → Except ε β) : (Except.error e >>= f) = Except.error e := (rfl)

@[simp] theorem pure_eq_ok (a : α) : (pure a : Except ε α) = Except.ok a := rfl

/-- A sequence returns exactly if its first part does and the rest does from there. -/
theorem bind_eq_ok_iff {x : Except ε α} {f : α → Except ε β} {b : β} :
    (x >>= f) = .ok b ↔ ∃ a, x = .ok a ∧ f a = .ok b := by
  cases x with
  | error e => simp
  | ok a => simp

theorem bind_eq_error_iff {x : Except ε α} {f : α → Except ε β} {e : ε} :
    (x >>= f) = .error e ↔ x = .error e ∨ ∃ a, x = .ok a ∧ f a = .error e := by
  cases x with
  | error e' => simp
  | ok a => simp

/-- A computation which can be run returns a value with a property. -/
theorem exists_ok {x : Except ε α} {P : α → Prop} [DecidablePred P]
    (h : (x.toOption.any fun a => decide (P a)) = true) : ∃ a, x = .ok a ∧ P a := by
  cases x with
  | error e => cases h
  | ok a => exact ⟨a, rfl, of_decide_eq_true h⟩

/-- A computation which can be run returns a pair with a given first component. -/
theorem exists_ok_fst [DecidableEq α] {x : Except ε (α × β)} {a : α}
    (h : (x.toOption.any fun r => decide (r.1 = a)) = true) : ∃ b, x = .ok (a, b) := by
  obtain ⟨⟨a', b⟩, hx, rfl⟩ := exists_ok (P := fun r : α × β => r.1 = a) h
  exact ⟨b, hx⟩

/-- A computation which can be run fails with a given error. -/
theorem eq_error [DecidableEq ε] {x : Except ε α} {e : ε}
    (h : (match x with | .ok _ => false | .error e' => decide (e' = e)) = true) : x = .error e := by
  cases x with
  | error e' => rw [of_decide_eq_true h]
  | ok a => cases h

end Except
