import Mathlib.Data.List.Nodup
import Mathlib.Logic.Function.Basic

/-! Chains: lists which end at a null pointer, and whose nodes know the pointer which leads
to them, the one before their own or the one at the start. -/

namespace Links

variable {α ρ : Type} {read read' : ρ → Option (Option α)} {slot : α → ρ} {pprev pprev' : α → Option ρ} {p : ρ} {x : α}
  {xs ys : List α}

/-- From the pointer at `p` the nodes follow in order; `slot` is where a node's own pointer is. -/
def Chain (read : ρ → Option (Option α)) (slot : α → ρ) (pprev : α → Option ρ) : ρ → List α → Prop
  | p, [] => read p = some none
  | p, x :: xs => read p = some (some x) ∧ pprev x = some p ∧ Chain read slot pprev (slot x) xs

/-- Where the pointer is which leads behind the nodes. -/
def behind (slot : α → ρ) (p : ρ) (xs : List α) : ρ :=
  (xs.map slot).getLastD p

theorem behind_cons (slot : α → ρ) (p : ρ) (x : α) (xs : List α) : behind slot p (x :: xs) = behind slot (slot x) xs := by
  rw [behind, List.map_cons, List.getLastD_cons]
  rfl

theorem behind_mem (slot : α → ρ) (p : ρ) (xs : List α) : behind slot p xs ∈ p :: xs.map slot := by
  induction xs generalizing p with
  | nil => exact List.mem_singleton_self p
  | cons z xs ih =>
    rw [behind_cons]
    exact List.mem_cons_of_mem p (ih (slot z))

/-- A chain depends on its pointers and its nodes only. -/
theorem Chain.congr (h : Chain read slot pprev p xs) (hread : ∀ q ∈ p :: xs.map slot, read' q = read q)
    (hpprev : ∀ z ∈ xs, pprev' z = pprev z) : Chain read' slot pprev' p xs := by
  induction xs generalizing p with
  | nil => exact (hread p List.mem_cons_self).trans h
  | cons z xs ih =>
    obtain ⟨hfirst, hback, hrest⟩ := h
    exact ⟨(hread p List.mem_cons_self).trans hfirst, (hpprev z List.mem_cons_self).trans hback,
      ih hrest (fun q hq => hread q (List.mem_cons_of_mem _ hq)) fun y hy => hpprev y (List.mem_cons_of_mem _ hy)⟩

/-- A node knows the pointer which leads to it, and that pointer leads to it. -/
theorem Chain.at (h : Chain read slot pprev p (xs ++ x :: ys)) :
    read (behind slot p xs) = some (some x) ∧ pprev x = some (behind slot p xs) ∧
      Chain read slot pprev (slot x) ys := by
  induction xs generalizing p with
  | nil => exact h
  | cons z xs ih =>
    rw [behind_cons]
    exact ih h.2.2

theorem Chain.head? (h : Chain read slot pprev p xs) : read p = some xs.head? := by
  cases xs with
  | nil => exact h
  | cons z xs => exact h.1

section Update

variable [DecidableEq α]

/-- The node behind, if there is one, is told the pointer which leads to it. -/
def pointBack (pprev : α → Option ρ) (node : Option α) (p : ρ) : α → Option ρ :=
  match node with
  | none => pprev
  | some y => Function.update pprev y (some p)

theorem pointBack_of_ne {node : Option α} {z : α} (h : node ≠ some z) : pointBack pprev node p z = pprev z := by
  cases node with
  | none => rfl
  | some y =>
    apply Function.update_of_ne
    rintro rfl
    exact h rfl

variable [DecidableEq ρ]

/-- From the pointer which led to a cut node on. -/
theorem Chain.skip (h : Chain read slot pprev p ys) (hnodup : ys.Nodup) {q : ρ} (hq : q ∉ ys.map slot) :
    Chain (Function.update read q (read p)) slot (pointBack pprev ys.head? q) q ys := by
  cases ys with
  | nil => exact (Function.update_self ..).trans h
  | cons y ys =>
    obtain ⟨hfirst, -, hrest⟩ := h
    obtain ⟨hnot, -⟩ := List.nodup_cons.mp hnodup
    refine ⟨(Function.update_self ..).trans hfirst, Function.update_self .., hrest.congr (fun r hr => ?_) fun z hz => ?_⟩
    · apply Function.update_of_ne
      rintro rfl
      exact hq (by rwa [List.map_cons])
    · apply Function.update_of_ne
      rintro rfl
      exact hnot hz

/-- A node which the pointer to it leads around is out of the chain. -/
theorem Chain.remove (h : Chain read slot pprev p (xs ++ x :: ys)) (hslot : Function.Injective slot)
    (hnodup : (xs ++ x :: ys).Nodup) (hp : p ∉ (xs ++ x :: ys).map slot) :
    Chain (Function.update read (behind slot p xs) (read (slot x))) slot
      (pointBack pprev ys.head? (behind slot p xs)) p (xs ++ ys) := by
  induction xs generalizing p with
  | nil =>
    obtain ⟨-, -, hrest⟩ := h
    obtain ⟨-, hnodup⟩ := List.nodup_cons.mp hnodup
    refine hrest.skip hnodup fun hmem => hp ?_
    exact List.mem_cons_of_mem _ hmem
  | cons z xs ih =>
    obtain ⟨hfirst, hback, hrest⟩ := h
    obtain ⟨hnot, hnodup⟩ := List.nodup_cons.mp hnodup
    rw [List.cons_append, List.map_cons, List.mem_cons, not_or] at hp
    rw [behind_cons]
    have hz : slot z ∉ (xs ++ x :: ys).map slot := by
      rw [List.mem_map_of_injective hslot]
      exact hnot
    refine ⟨?_, ?_, ih hrest hnodup hz⟩
    · rw [Function.update_of_ne, hfirst]
      rintro rfl
      obtain heq | hmem := List.mem_cons.mp (behind_mem slot (slot z) xs)
      · exact hp.1 heq
      · rw [List.map_append] at hp
        exact hp.2 (List.mem_append_left _ hmem)
    · rw [pointBack_of_ne, hback]
      intro hhead
      exact hnot (List.mem_append_right _ (List.mem_cons_of_mem x (List.mem_of_head? hhead)))

/-- A new node at the start. -/
theorem Chain.push (h : Chain read slot pprev p xs) (hslot : Function.Injective slot) (hnodup : xs.Nodup) (hx : x ∉ xs)
    (hp : p ≠ slot x) (hps : p ∉ xs.map slot) :
    Chain (Function.update (Function.update read (slot x) (read p)) p (some (some x))) slot
      (Function.update (pointBack pprev xs.head? (slot x)) x (some p)) p (x :: xs) := by
  have hslotx : slot x ∉ xs.map slot := by
    rw [List.mem_map_of_injective hslot]
    exact hx
  refine ⟨Function.update_self .., Function.update_self .., ?_⟩
  refine (h.skip hnodup hslotx).congr (fun q hq => ?_) fun z hz => ?_
  · apply Function.update_of_ne
    rintro rfl
    obtain heq | hmem := List.mem_cons.mp hq
    · exact hp heq
    · exact hps hmem
  · apply Function.update_of_ne
    rintro rfl
    exact hx hz

end Update

end Links
