import Wsd.Outcome

/-! A loop which calls a step as long as it returns 0, and why it ends: each round which goes on
lowers a measure of the state. -/

namespace Rounds

variable {ε σ : Type}

/-- `while (0 == (rv = step())) n++;` with the given number of rounds; the error says that the loop is
    still running behind them. -/
def countZero (running : ε) (step : σ → Except ε (Int × σ)) : Nat → Nat → σ → Except ε (Int × Nat × σ)
  | 0, _, _ => .error running
  | fuel + 1, n, s => do
    let (rv, s) ← step s
    if rv = 0 then countZero running step fuel (n + 1) s else return (rv, n, s)

/-- The loop ends, and counts at most the given number of rounds. -/
def Ends (running : ε) (loop : Nat → Except ε (Int × Nat × σ)) (size : Nat) : Prop :=
  ∀ fuel, size < fuel → loop fuel ≠ .error running ∧ ∀ rv n s, loop fuel = .ok (rv, n, s) → n ≤ size

variable {running : ε} {step : σ → Except ε (Int × σ)} {Inv : σ → Prop} {size : σ → Nat} {s : σ}

theorem countZero_ends (hstep : ∀ s, Inv s → step s ≠ .error running)
    (hlower : ∀ s s', Inv s → step s = .ok (0, s') → Inv s' ∧ size s' < size s) {fuel n : Nat} (hs : Inv s)
    (hfuel : size s < fuel) :
    countZero running step fuel n s ≠ .error running ∧
      ∀ rv n' s', countZero running step fuel n s = .ok (rv, n', s') → n' ≤ n + size s := by
  induction fuel generalizing n s with
  | zero => omega
  | succ fuel ih =>
    unfold countZero
    cases hcall : step s with
    | error e =>
      refine ⟨fun h => ?_, fun rv n' s' h => (nomatch h)⟩
      cases h
      exact hstep s hs hcall
    | ok r =>
      obtain ⟨rv, s1⟩ := r
      rw [Except.ok_bind]
      simp only
      by_cases hrv : rv = 0
      · subst hrv
        rw [if_pos rfl]
        obtain ⟨hs1, hless⟩ := hlower s s1 hs hcall
        obtain ⟨hends, hcount⟩ := @ih s1 (n + 1) hs1 (by omega)
        refine ⟨hends, fun rv n' s' h => ?_⟩
        have hle := hcount rv n' s' h
        omega
      · rw [if_neg hrv]
        refine ⟨(nomatch ·), fun rv n' s' h => ?_⟩
        cases h
        omega

end Rounds
