import Wsd.Outcome

/-! Two runs of a computation which start with different values in a cell that tells why a call has
failed: they agree if they differ in that cell at most, and not even there where a call has failed. -/

namespace TwoRuns

variable {ε σ σ' τ τ' ρ ρ' α : Type}

/-- Both runs end with the same error, or return alike. -/
inductive Agree (erase : σ → τ) (reason : σ → ρ) : Except ε (Int × σ) → Except ε (Int × σ) → Prop where
  | error (e : ε) : Agree erase reason (.error e) (.error e)
  | ok {rv : Int} {s s' : σ} (hsame : erase s = erase s') (hreason : rv < 0 → reason s = reason s') :
      Agree erase reason (.ok (rv, s)) (.ok (rv, s'))

namespace Agree

variable {erase : σ → τ} {reason : σ → ρ} {erase' : σ' → τ'} {reason' : σ' → ρ'}
  {x y x' y' : Except ε (Int × σ)}

theorem refl (x : Except ε (Int × σ)) : Agree erase reason x x := by
  cases x with
  | error e => exact .error e
  | ok r => exact .ok rfl fun _ => rfl

/-- A call which succeeds may leave the cell as it was. -/
theorem success {s s' : σ} (hsame : erase s = erase s') : @Agree ε σ τ ρ erase reason (.ok (0, s)) (.ok (0, s')) :=
  .ok hsame fun hneg => absurd hneg (Int.lt_irrefl 0)

theorem bind {f f' : Int × σ → Except ε (Int × σ')} (h : Agree erase reason x y)
    (hf : ∀ rv s s', erase s = erase s' → (rv < 0 → reason s = reason s') →
      Agree erase' reason' (f (rv, s)) (f' (rv, s'))) : Agree erase' reason' (x >>= f) (y >>= f') := by
  cases h with
  | error e => exact .error e
  | ok hsame hreason => exact hf _ _ _ hsame hreason

theorem bind_same {z : Except ε α} {f f' : α → Except ε (Int × σ)} (hf : ∀ a, Agree erase reason (f a) (f' a)) :
    Agree erase reason (z >>= f) (z >>= f') := by
  cases z with
  | error e => exact .error e
  | ok a => exact hf a

theorem ite {b : Prop} [Decidable b] (hx : Agree erase reason x y) (hy : Agree erase reason x' y') :
    Agree erase reason (if b then x else x') (if b then y else y') := by
  split
  · exact hx
  · exact hy

/-- Runs which agree are the same up to what is erased. -/
theorem map_eq (h : Agree erase reason x y) :
    x.map (fun r => (r.1, erase r.2)) = y.map fun r => (r.1, erase r.2) := by
  cases h with
  | error e => rfl
  | @ok rv s s' hsame hreason => exact congrArg (fun t => Except.ok (rv, t)) hsame

end Agree

end TwoRuns
