import Mathlib.Data.List.Perm.Subperm
import Mathlib.Data.List.Range
import Mathlib.Data.Nat.ModEq
import Mathlib.Logic.Function.Iterate

/-! Taking turns among the numbers below `n`. -/

namespace RoundRobin

variable {n : Nat}

/-- The number behind the given one, where the first follows the last. -/
def next (n host : Nat) : Nat :=
  if n ≤ host + 1 then 0 else host + 1

theorem next_of_lt {host : Nat} (h : host < n) : next n host = (host + 1) % n := by
  unfold next
  split
  · rw [show host + 1 = n by omega, Nat.mod_self]
  · rw [Nat.mod_eq_of_lt (by omega)]

theorem next_ne {host : Nat} (hn : 1 < n) : next n host ≠ host := by
  unfold next
  split <;> omega

/-- Going on as many times as there are numbers ends where it started. -/
theorem next_iterate {host : Nat} (h : host < n) (turns : Nat) : (next n)^[turns] host = (host + turns) % n := by
  induction turns with
  | zero => exact (Nat.mod_eq_of_lt h).symm
  | succ turns ih =>
    rw [Function.iterate_succ_apply', ih, next_of_lt (Nat.mod_lt _ (by omega)), Nat.mod_add_mod, Nat.add_assoc]

/-- Each choice differs from the one before it, and any `n` in a row among the first
    `bound` choices take all numbers. -/
def Alternates (n : Nat) (choices : List Nat) (bound : Nat) : Prop :=
  choices.IsChain (· ≠ ·) ∧ ∀ i, i + n ≤ bound → ∀ host < n, host ∈ (choices.drop i).take n

/-- How far the turn has been taken differs modulo `n` from one choice to the next, and
    between any two of `n` choices in a row among the first `bound` ones. -/
def Spreads (n : Nat) (turns : List Nat) (bound : Nat) : Prop :=
  turns.IsChain (fun a b => ¬ a ≡ b [MOD n]) ∧
    ∀ i, i + n ≤ bound → ((turns.drop i).take n).Pairwise fun a b => ¬ a ≡ b [MOD n]

/-- As many numbers below `n` take all of them if and only if they are different. -/
theorem forall_mem_iff_nodup {choices : List Nat} (hlen : choices.length = n) (hlt : ∀ host ∈ choices, host < n) :
    (∀ host < n, host ∈ choices) ↔ choices.Nodup := by
  have hsub : choices ⊆ List.range n := fun host hmem => List.mem_range.mpr (hlt host hmem)
  constructor
  · intro hall
    have hrange : List.range n ⊆ choices := fun host hmem => hall host (List.mem_range.mp hmem)
    have hperm := (List.nodup_range.subperm hrange).perm_of_length_le (by rw [List.length_range, hlen])
    exact hperm.nodup_iff.mp List.nodup_range
  · intro hnodup host hhost
    have hperm := (hnodup.subperm hsub).perm_of_length_le (by rw [List.length_range, hlen])
    exact hperm.mem_iff.mpr (List.mem_range.mpr hhost)

theorem alternates_iff_spreads {turns : List Nat} {bound : Nat} (hn : 0 < n) (hbound : bound ≤ turns.length) :
    Alternates n (turns.map (· % n)) bound ↔ Spreads n turns bound := by
  unfold Alternates Spreads
  rw [List.isChain_map]
  refine and_congr Iff.rfl (forall_congr' fun i => forall_congr' fun hi => ?_)
  rw [← List.map_drop, ← List.map_take, forall_mem_iff_nodup, List.Nodup, List.pairwise_map]
  · rfl
  · rw [List.length_map, List.length_take, List.length_drop]
    omega
  · intro host hmem
    obtain ⟨turn, -, rfl⟩ := List.mem_map.mp hmem
    exact Nat.mod_lt _ hn

end RoundRobin
