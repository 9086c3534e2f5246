import Mathlib.Data.List.Basic

/-- Addressable cells from a base address on. There is no end: an access behind
    an array is an access to whatever lies there. -/
abbrev Memory (α : Type) : Type := Nat → α

namespace Memory

variable {α : Type}

/-- The `len` cells from `start` on. -/
def window (m : Memory α) (start len : Nat) : List α :=
  (List.range len).map fun k => m (start + k)

/-- Overwrites the cells from `pos` on by the given values. -/
def store (m : Memory α) (pos : Nat) (xs : List α) : Memory α := fun i =>
  if pos ≤ i then (xs[i - pos]?).getD (m i) else m i

/-- The `memmove` of C within one memory: the source is read before any cell is written. -/
def move (m : Memory α) (dst src len : Nat) : Memory α := fun i =>
  if dst ≤ i ∧ i < dst + len then m (src + (i - dst)) else m i

@[simp] theorem length_window (m : Memory α) (start len : Nat) : (m.window start len).length = len := by
  simp [window]

@[simp] theorem window_zero (m : Memory α) (start : Nat) : m.window start 0 = [] := rfl

@[simp] theorem getElem_window (m : Memory α) (start len i : Nat) (h : i < (m.window start len).length) :
    (m.window start len)[i] = m (start + i) := by
  simp [window]

theorem window_congr {m m' : Memory α} {start start' len : Nat}
    (h : ∀ k, k < len → m (start + k) = m' (start' + k)) : m.window start len = m'.window start' len := by
  apply List.map_congr_left
  intro k hk
  exact h k (List.mem_range.mp hk)

theorem window_add (m : Memory α) (start a b : Nat) :
    m.window start (a + b) = m.window start a ++ m.window (start + a) b := by
  simp only [window, List.range_add, List.map_append, List.map_map, Function.comp_def, Nat.add_assoc]

theorem window_succ (m : Memory α) (start len : Nat) :
    m.window start (len + 1) = m start :: m.window (start + 1) len := by
  rw [Nat.add_comm, window_add]
  simp [window]

theorem take_window (m : Memory α) {start len n : Nat} (h : n ≤ len) :
    (m.window start len).take n = m.window start n := by
  obtain ⟨rest, rfl⟩ := Nat.exists_eq_add_of_le h
  rw [window_add, List.take_append_of_le_length (by simp), List.take_of_length_le (by simp)]

theorem drop_window (m : Memory α) {start len n : Nat} (h : n ≤ len) :
    (m.window start len).drop n = m.window (start + n) (len - n) := by
  obtain ⟨rest, rfl⟩ := Nat.exists_eq_add_of_le h
  rw [window_add, List.drop_append_of_le_length (by simp), List.drop_of_length_le (by simp)]
  simp

@[simp] theorem store_nil (m : Memory α) (pos : Nat) : m.store pos [] = m := by
  funext i
  simp [store]

theorem store_apply_of_lt (m : Memory α) {pos i : Nat} (xs : List α) (h : i < pos) : m.store pos xs i = m i := by
  simp [store, Nat.not_le.mpr h]

theorem store_apply_of_le (m : Memory α) {pos i : Nat} (xs : List α) (h : pos + xs.length ≤ i) :
    m.store pos xs i = m i := by
  have hnone : xs[i - pos]? = none := List.getElem?_eq_none (by omega)
  simp [store, hnone]

theorem store_apply_add (m : Memory α) (pos : Nat) {xs : List α} {k : Nat} (h : k < xs.length) :
    m.store pos xs (pos + k) = xs[k] := by
  simp [store, h]

/-- A store is read back by the window it covers. -/
@[simp] theorem window_store_self (m : Memory α) (pos : Nat) (xs : List α) :
    (m.store pos xs).window pos xs.length = xs := by
  apply List.ext_getElem (by simp)
  intro i hi hxs
  rw [getElem_window, store_apply_add m pos hxs]

theorem window_store_before (m : Memory α) {start len pos : Nat} (xs : List α) (h : start + len ≤ pos) :
    (m.store pos xs).window start len = m.window start len := by
  apply window_congr
  intro k hk
  exact store_apply_of_lt m xs (by omega)

theorem window_store_after (m : Memory α) {start len pos : Nat} (xs : List α) (h : pos + xs.length ≤ start) :
    (m.store pos xs).window start len = m.window start len := by
  apply window_congr
  intro k hk
  exact store_apply_of_le m xs (by omega)

/-- Storing right behind a window appends to it. -/
theorem window_store_append (m : Memory α) (start len : Nat) (xs : List α) :
    (m.store (start + len) xs).window start (len + xs.length) = m.window start len ++ xs := by
  rw [window_add, window_store_before m xs (Nat.le_refl _), window_store_self]

/-- Consecutive stores are one store of the concatenation. -/
theorem store_append (m : Memory α) (pos : Nat) (xs ys : List α) :
    m.store pos (xs ++ ys) = (m.store pos xs).store (pos + xs.length) ys := by
  funext i
  by_cases hlow : i < pos
  · rw [store_apply_of_lt m _ hlow, store_apply_of_lt _ _ (by omega), store_apply_of_lt m _ hlow]
  obtain ⟨k, rfl⟩ := Nat.exists_eq_add_of_le (Nat.not_lt.mp hlow)
  by_cases hfirst : k < xs.length
  · rw [store_apply_add m pos (by simp; omega), List.getElem_append_left hfirst,
      store_apply_of_lt _ _ (by omega), store_apply_add m pos hfirst]
  obtain ⟨j, rfl⟩ := Nat.exists_eq_add_of_le (Nat.not_lt.mp hfirst)
  by_cases hsecond : j < ys.length
  · rw [store_apply_add m pos (by simp; omega), List.getElem_append_right (by omega),
      ← Nat.add_assoc, store_apply_add _ _ hsecond]
    simp
  · rw [store_apply_of_le m _ (by simp; omega), store_apply_of_le _ _ (by omega),
      store_apply_of_le m _ (by omega)]

theorem window_move (m : Memory α) (dst src len : Nat) :
    (m.move dst src len).window dst len = m.window src len := by
  apply window_congr
  intro k hk
  simp [move, hk]

end Memory
