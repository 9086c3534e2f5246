import Wsd.Transition.Path

/-! Systems with a clock and a timer which some of their steps start anew. What rings only
once the timer has run for some time rings at most once in that time, as long as the timer
is started in between. -/

namespace Transition.System

variable {σ ι ε : Type}

/-- What the steps of a system do with a clock and a timer. `Since t s` says that the timer
    has not been running in state `s` since before time `t`, and `delay` is the time for which
    it has run when it rings. -/
structure Timer (sys : System σ ι ε) (P : σ → ι → Prop) (time : σ → Int) (Since : Int → σ → Prop)
    (Starts Rings : Move σ ι → Prop) (delay : Int) : Prop where
  mono {s s' : σ} {i : ι} : Reach sys P s → sys.valid s i → P s i → sys.step i s = .ok s' → time s ≤ time s'
  keeps {s s' : σ} {i : ι} {t : Int} : Reach sys P s → sys.valid s i → P s i → sys.step i s = .ok s' → t ≤ time s →
    Since t s → Since t s'
  starts {s s' : σ} {i : ι} {t : Int} : Reach sys P s → sys.valid s i → P s i → sys.step i s = .ok s' → t ≤ time s →
    Starts ⟨s, i, s'⟩ → Since t s'
  rings {s s' : σ} {i : ι} {t : Int} : Reach sys P s → sys.valid s i → P s i → sys.step i s = .ok s' →
    Since t s → Rings ⟨s, i, s'⟩ → delay < time s' - t

variable {sys : System σ ι ε} {P : σ → ι → Prop} {time : σ → Int} {Since : Int → σ → Prop}
  {Starts Rings : Move σ ι → Prop} {delay : Int} {path : List (Move σ ι)} {s : σ} {i j k : Nat} {m m1 m' : Move σ ι}

/-- The moves of a run are steps of reachable states. -/
theorem Path.move (h : Path sys P path s) : ∀ m ∈ path, Reach sys P m.before ∧ sys.valid m.before m.input ∧
    P m.before m.input ∧ sys.step m.input m.before = .ok m.after :=
  h.forall_move fun _ _ _ hreach hvalid hP hs => ⟨hreach, hvalid, hP, hs⟩

/-- All steps of a run are over at its last state. -/
theorem Timer.time_le (h : Timer sys P time Since Starts Rings delay) (hpath : Path sys P path s) :
    ∀ m ∈ path, time m.after ≤ time s := by
  refine hpath.invariant (I := fun path s => ∀ m ∈ path, time m.after ≤ time s) (by simp) ?_
  intro path s s' i hreach ih hvalid hP hs
  rw [List.forall_mem_append, List.forall_mem_singleton]
  exact ⟨fun m hm => Int.le_trans (ih m hm) (h.mono hreach hvalid hP hs), Int.le_refl _⟩

/-- A timer which is started behind a step has not been running since before that step. -/
theorem Timer.since (h : Timer sys P time Since Starts Rings delay) (hpath : Path sys P path s)
    (hi : path[i]? = some m) (hk : path[k]? = some m1) (hik : i < k) (hstart : Starts m1) : Since (time m.after) s := by
  induction hpath with
  | init => cases hi
  | @step path s s' input hpath hvalid hP hs ih =>
    have hlen := (List.getElem?_eq_some_iff.mp hk).1
    rw [List.length_append, List.length_singleton] at hlen
    rw [List.getElem?_append_left (by omega)] at hi
    have hbefore := h.time_le hpath m (List.mem_of_getElem? hi)
    by_cases hlast : k < path.length
    · rw [List.getElem?_append_left hlast] at hk
      exact h.keeps hpath.reach hvalid hP hs hbefore (ih hi hk)
    · obtain rfl : k = path.length := by omega
      rw [List.getElem?_concat_length] at hk
      cases hk
      exact h.starts hpath.reach hvalid hP hs hbefore hstart

/-- Between two rings of a timer more than its delay passes, if it is started between them. -/
theorem Timer.spaced (h : Timer sys P time Since Starts Rings delay) (hpath : Path sys P path s)
    (hi : path[i]? = some m) (hk : path[k]? = some m1) (hj : path[j]? = some m') (hik : i < k) (hkj : k < j)
    (hstart : Starts m1) (hring : Rings m') : delay < time m'.after - time m.after := by
  obtain ⟨hlt, hget⟩ := List.getElem?_eq_some_iff.mp hj
  have hsplit : path = path.take j ++ m' :: path.drop (j + 1) := by
    rw [← hget, ← List.drop_eq_getElem_cons hlt, List.take_append_drop]
  have hbefore : Path sys P (path.take j) m'.before := hpath.before hsplit
  have hsince : Since (time m.after) m'.before := by
    refine h.since hbefore ?_ ?_ hik hstart
    · rw [List.getElem?_take_of_lt (by omega), hi]
    · rw [List.getElem?_take_of_lt hkj, hk]
  obtain ⟨hreach, hvalid, hP, hs⟩ := hpath.move m' (List.mem_of_getElem? hj)
  exact h.rings hreach hvalid hP hs hsince hring

end Transition.System
