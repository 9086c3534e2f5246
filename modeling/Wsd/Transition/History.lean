import Wsd.Transition.Run

/-! Systems which record what their runs do. -/

namespace Transition.System

variable {σ ι ε γ : Type}

/-- The system with a record, which each step continues from the states before and
    behind it. -/
def history (sys : System σ ι ε) (record : σ → σ → γ → γ) (start : γ) : System (σ × γ) ι ε where
  init := (sys.init, start)
  valid s i := sys.valid s.1 i
  step i s := do
    let s' ← sys.step i s.1
    return (s', record s.1 s' s.2)

variable {sys : System σ ι ε} {record : σ → σ → γ → γ} {start : γ} {P : σ → ι → Prop}

instance [h : ∀ s i, Decidable (sys.valid s i)] : ∀ s i, Decidable ((sys.history record start).valid s i) :=
  fun s i => h s.1 i

theorem history_step {i : ι} {s s' : σ × γ} (h : (sys.history record start).step i s = .ok s') :
    sys.step i s.1 = .ok s'.1 ∧ s'.2 = record s.1 s'.1 s.2 := by
  obtain ⟨s1, hstep, hret⟩ := Except.bind_eq_ok_iff.mp h
  cases hret
  exact ⟨hstep, rfl⟩

/-- The record does not restrict the runs. -/
theorem Reach.history {s : σ} (h : Reach sys P s) :
    ∃ g, Reach (sys.history record start) (fun s i => P s.1 i) (s, g) := by
  induction h with
  | init => exact ⟨start, .init⟩
  | @step s s' i _ hvalid hP hs ih =>
    obtain ⟨g, hreach⟩ := ih
    refine ⟨record s s' g, @Reach.step _ _ _ _ _ _ (s', record s s' g) _ hreach hvalid hP ?_⟩
    simp only [System.history, hs, Except.ok_bind, Except.pure_eq_ok]

theorem Reach.of_history {s : σ × γ} (h : Reach (sys.history record start) (fun s i => P s.1 i) s) :
    Reach sys P s.1 := by
  induction h with
  | init => exact .init
  | step _ hvalid hP hs ih => exact .step ih hvalid hP (history_step hs).1

/-- What holds of the start and its record, and is kept by every step of a reachable
    state, holds in every state of a run with its record. -/
theorem Reach.history_invariant {I : σ → γ → Prop} {s : σ × γ}
    (h : Reach (sys.history record start) (fun s i => P s.1 i) s) (hinit : I sys.init start)
    (hstep : ∀ s s' i g, Reach sys P s → I s g → sys.valid s i → P s i → sys.step i s = .ok s' →
      I s' (record s s' g)) : I s.1 s.2 := by
  induction h with
  | init => exact hinit
  | @step s s' i hreach hvalid hP hs ih =>
    obtain ⟨hs', hrecord⟩ := history_step hs
    rw [hrecord]
    exact hstep s.1 s'.1 i s.2 hreach.of_history ih hvalid hP hs'

end Transition.System
