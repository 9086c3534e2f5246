import Wsd.Transition.Run

/-! Runs with the list of their steps. -/

namespace Transition

variable {σ ι ε α : Type}

/-- A step of a run: the state before it, its input and the state behind it. -/
structure Move (σ ι : Type) where
  before : σ
  input : ι
  after : σ

namespace System

/-- The runs whose every step has a valid input and meets `P`, with their steps in order. -/
inductive Path (sys : System σ ι ε) (P : σ → ι → Prop) : List (Move σ ι) → σ → Prop
  | init : Path sys P [] sys.init
  | step {path : List (Move σ ι)} {s s' : σ} {i : ι} : Path sys P path s → sys.valid s i → P s i →
      sys.step i s = .ok s' → Path sys P (path ++ [⟨s, i, s'⟩]) s'

variable {sys : System σ ι ε} {P Q : σ → ι → Prop} {path : List (Move σ ι)} {s : σ}

theorem Path.reach (h : Path sys P path s) : Reach sys P s := by
  induction h with
  | init => exact .init
  | step _ hvalid hP hs ih => exact .step ih hvalid hP hs

theorem Path.mono (h : Path sys P path s) (hPQ : ∀ s i, P s i → Q s i) : Path sys Q path s := by
  induction h with
  | init => exact .init
  | step _ hvalid hP hs ih => exact .step ih hvalid (hPQ _ _ hP) hs

theorem Path.eq_init (h : Path sys P [] s) : s = sys.init := by
  generalize hnil : ([] : List (Move σ ι)) = path at h
  cases h with
  | init => rfl
  | step _ _ _ _ => simp at hnil

/-- What holds of the run without a step and is kept by every step of a reachable state,
    holds of every run. -/
theorem Path.invariant {I : List (Move σ ι) → σ → Prop} (h : Path sys P path s) (hinit : I [] sys.init)
    (hstep : ∀ path s s' i, Reach sys P s → I path s → sys.valid s i → P s i → sys.step i s = .ok s' →
      I (path ++ [⟨s, i, s'⟩]) s') : I path s := by
  induction h with
  | init => exact hinit
  | step hpath hvalid hP hs ih => exact hstep _ _ _ _ hpath.reach ih hvalid hP hs

/-- What holds of the steps of reachable states holds of each step of a run. -/
theorem Path.forall_move {I : Move σ ι → Prop} (h : Path sys P path s)
    (hstep : ∀ s s' i, Reach sys P s → sys.valid s i → P s i → sys.step i s = .ok s' → I ⟨s, i, s'⟩) :
    ∀ m ∈ path, I m := by
  refine h.invariant (I := fun path _ => ∀ m ∈ path, I m) (by simp) ?_
  intro path s s' i hreach ih hvalid hP hs
  rw [List.forall_mem_append, List.forall_mem_singleton]
  exact ⟨ih, hstep s s' i hreach hvalid hP hs⟩

/-- A run up to one of its steps is a run. -/
theorem Path.before {done rest : List (Move σ ι)} {m : Move σ ι} (h : Path sys P path s)
    (heq : path = done ++ m :: rest) : Path sys P done m.before := by
  induction h generalizing rest with
  | init => simp at heq
  | @step path s s' i hpath hvalid hP hs ih =>
    obtain rfl | ⟨rest', last, rfl⟩ := List.eq_nil_or_concat rest
    · obtain ⟨rfl, hlast⟩ := List.append_inj' heq rfl
      cases hlast
      exact hpath
    · rw [List.concat_eq_append, ← List.cons_append, ← List.append_assoc] at heq
      exact ih (List.append_inj' heq rfl).1

/-- Runs the system on given inputs as long as they are valid and meet `P`. -/
def trail (sys : System σ ι ε) (P : σ → ι → Prop) [∀ s i, Decidable (sys.valid s i)] [∀ s i, Decidable (P s i)] :
    List ι → List (Move σ ι) × σ → Option (List (Move σ ι) × σ)
  | [], run => some run
  | i :: is, (path, s) =>
    if sys.valid s i ∧ P s i then
      match sys.step i s with
      | .error _ => none
      | .ok s' => trail sys P is (path ++ [⟨s, i, s'⟩], s')
    else
      none

theorem Path.trail [∀ s i, Decidable (sys.valid s i)] [∀ s i, Decidable (P s i)] {is : List ι}
    {path' : List (Move σ ι)} {s' : σ} (h : Path sys P path s)
    (htrail : sys.trail P is (path, s) = some (path', s')) : Path sys P path' s' := by
  induction is generalizing path s with
  | nil =>
    cases htrail
    exact h
  | cons i is ih =>
    unfold System.trail at htrail
    by_cases hok : sys.valid s i ∧ P s i
    · rw [if_pos hok] at htrail
      cases hs : sys.step i s with
      | error e =>
        rw [hs] at htrail
        cases htrail
      | ok s1 =>
        rw [hs] at htrail
        exact ih (.step h hok.1 hok.2 hs) htrail
    · rw [if_neg hok] at htrail
      cases htrail

/-- A run on given inputs whose steps and last state have a property. -/
theorem exists_path (sys : System σ ι ε) [∀ s i, Decidable (sys.valid s i)] [∀ s i, Decidable (P s i)]
    {B : List (Move σ ι) → σ → Prop} [∀ path s, Decidable (B path s)] (is : List ι)
    (h : ((sys.trail P is ([], sys.init)).any fun run => decide (B run.1 run.2)) = true) :
    ∃ path s, Path sys P path s ∧ B path s := by
  cases htrail : sys.trail P is ([], sys.init) with
  | none =>
    rw [htrail] at h
    cases h
  | some run =>
    rw [htrail] at h
    exact ⟨run.1, run.2, Path.init.trail htrail, of_decide_eq_true h⟩

end System

end Transition
