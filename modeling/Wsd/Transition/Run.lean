import Wsd.Outcome

/-! Systems whose steps take an input and may fail, and what holds in all their runs. -/

namespace Transition

variable {σ ι ε : Type}

structure System (σ ι ε : Type) where
  init : σ
  valid : σ → ι → Prop
  step : ι → σ → Except ε σ

namespace System

/-- The states of the runs whose every step has a valid input and meets `P`. -/
inductive Reach (sys : System σ ι ε) (P : σ → ι → Prop) : σ → Prop
  | init : Reach sys P sys.init
  | step {s s' : σ} {i : ι} : Reach sys P s → sys.valid s i → P s i → sys.step i s = .ok s' → Reach sys P s'

variable {sys : System σ ι ε} {P Q : σ → ι → Prop} {s : σ}

/-- What holds at the start and is kept by every step holds in every state. -/
theorem Reach.invariant {I : σ → Prop} (h : Reach sys P s) (hinit : I sys.init)
    (hstep : ∀ s s' i, I s → sys.valid s i → P s i → sys.step i s = .ok s' → I s') : I s := by
  induction h with
  | init => exact hinit
  | step _ hvalid hP hs ih => exact hstep _ _ _ ih hvalid hP hs

theorem Reach.mono (h : Reach sys P s) (hPQ : ∀ s i, P s i → Q s i) : Reach sys Q s := by
  induction h with
  | init => exact .init
  | step _ hvalid hP hs ih => exact .step ih hvalid (hPQ _ _ hP) hs

/-- Runs the system on given inputs as long as they are valid and meet `P`. -/
def exec (sys : System σ ι ε) (P : σ → ι → Prop) [∀ s i, Decidable (sys.valid s i)] [∀ s i, Decidable (P s i)] :
    List ι → σ → Option σ
  | [], s => some s
  | i :: is, s =>
    if sys.valid s i ∧ P s i then
      match sys.step i s with
      | .error _ => none
      | .ok s' => exec sys P is s'
    else
      none

theorem Reach.exec [∀ s i, Decidable (sys.valid s i)] [∀ s i, Decidable (P s i)] {is : List ι} {s' : σ}
    (h : Reach sys P s) (hexec : sys.exec P is s = some s') : Reach sys P s' := by
  induction is generalizing s with
  | nil =>
    cases hexec
    exact h
  | cons i is ih =>
    unfold System.exec at hexec
    by_cases hok : sys.valid s i ∧ P s i
    · rw [if_pos hok] at hexec
      cases hs : sys.step i s with
      | error e =>
        rw [hs] at hexec
        cases hexec
      | ok s1 =>
        rw [hs] at hexec
        exact ih (.step h hok.1 hok.2 hs) hexec
    · rw [if_neg hok] at hexec
      cases hexec

/-- A run on given inputs which ends in a state with a property. -/
theorem exists_reach (sys : System σ ι ε) [∀ s i, Decidable (sys.valid s i)] [∀ s i, Decidable (P s i)]
    {B : σ → Prop} [DecidablePred B]
    (is : List ι) (h : ((sys.exec P is sys.init).any fun s => decide (B s)) = true) : ∃ s, Reach sys P s ∧ B s := by
  cases hexec : sys.exec P is sys.init with
  | none =>
    rw [hexec] at h
    cases h
  | some s =>
    rw [hexec] at h
    exact ⟨s, Reach.init.exec hexec, of_decide_eq_true h⟩

/-- The error with which a step ends a run. -/
def failure (sys : System σ ι ε) (i : ι) (s : σ) : Option ε :=
  match sys.step i s with
  | .error e => some e
  | .ok _ => none

theorem failure_eq_some {i : ι} {e : ε} : sys.failure i s = some e ↔ sys.step i s = .error e := by
  unfold failure
  cases sys.step i s with
  | error e' => simp
  | ok s' => simp

end System

end Transition
