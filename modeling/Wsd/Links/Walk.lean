import Mathlib.Data.List.Nodup
import Mathlib.Logic.Function.Basic

/-! Walks along the links of a memory, and rings: lists which are linked in both directions
through a head. -/

namespace Links

variable {α : Type} {f g next prev : α → Option α} {a b c x : α} {xs ys : List α}

/-- Following `f` from `a` visits the nodes in order and leads to `b`. -/
def Walk (f : α → Option α) : α → List α → α → Prop
  | a, [], b => f a = some b
  | a, x :: xs, b => f a = some x ∧ Walk f x xs b

theorem walk_append : Walk f a (xs ++ x :: ys) b ↔ Walk f a xs x ∧ Walk f x ys b := by
  induction xs generalizing a with
  | nil => exact Iff.rfl
  | cons z xs ih => exact (and_congr_right fun _ => ih).trans and_assoc.symm

/-- A walk depends on the links of its start and of its nodes only. -/
theorem Walk.congr (h : Walk f a xs b) (hfg : ∀ z ∈ a :: xs, g z = f z) : Walk g a xs b := by
  induction xs generalizing a with
  | nil => exact (hfg a List.mem_cons_self).trans h
  | cons z xs ih =>
    obtain ⟨hfirst, hrest⟩ := h
    exact ⟨(hfg a List.mem_cons_self).trans hfirst, ih hrest fun y hy => hfg y (List.mem_cons_of_mem _ hy)⟩

/-- The start of a walk leads to its first node. -/
theorem Walk.first (h : Walk f a xs b) : f a = some (xs.headD b) := by
  cases xs with
  | nil => exact h
  | cons z xs => exact h.1

/-- The last node of a walk leads to its end. -/
theorem Walk.last (h : Walk f a xs b) : f (xs.getLastD a) = some b := by
  induction xs generalizing a with
  | nil => exact h
  | cons z xs ih =>
    rw [List.getLastD_cons]
    exact ih h.2

/-- Every node of a walk has a link. -/
theorem Walk.isSome (h : Walk f a xs b) {z : α} (hz : z ∈ a :: xs) : (f z).isSome := by
  induction xs generalizing a with
  | nil =>
    rw [List.mem_singleton.mp hz, h]
    rfl
  | cons y xs ih =>
    obtain ⟨hfirst, hrest⟩ := h
    obtain rfl | hz := List.mem_cons.mp hz
    · rw [hfirst]
      rfl
    · exact ih hrest hz

theorem getLastD_mem (a : α) (xs : List α) : xs.getLastD a ∈ a :: xs := by
  induction xs generalizing a with
  | nil => exact List.mem_singleton_self a
  | cons z xs ih =>
    rw [List.getLastD_cons]
    exact List.mem_cons_of_mem a (ih z)

theorem headD_mem (b : α) (xs : List α) : xs.headD b ∈ b :: xs := by
  cases xs with
  | nil => exact List.mem_singleton_self b
  | cons z xs => exact List.mem_cons_of_mem b List.mem_cons_self

section Update

variable [DecidableEq α]

/-- The last node of a walk may be linked to another end. -/
theorem Walk.redirect (h : Walk f a xs b) (hnodup : (a :: xs).Nodup) (c : α) :
    Walk (Function.update f (xs.getLastD a) (some c)) a xs c := by
  induction xs generalizing a with
  | nil => exact Function.update_self ..
  | cons z xs ih =>
    obtain ⟨hfirst, hrest⟩ := h
    obtain ⟨hnot, hnodup⟩ := List.nodup_cons.mp hnodup
    rw [List.getLastD_cons]
    refine ⟨?_, ih hrest hnodup⟩
    rw [Function.update_of_ne, hfirst]
    rintro rfl
    exact hnot (getLastD_mem z xs)

/-- Without the links into it and out of it, a node is cut out of a walk. -/
theorem Walk.cut (h : Walk f a (xs ++ x :: ys) b) (hnodup : (a :: (xs ++ x :: ys)).Nodup) :
    Walk (Function.update f (xs.getLastD a) (f x)) a (xs ++ ys) b := by
  obtain ⟨hfront, hback⟩ := walk_append.mp h
  rw [← List.cons_append] at hnodup
  have hnodup' := (List.nodup_append.mp hnodup).1
  rw [hback.first]
  cases ys with
  | nil =>
    rw [List.append_nil]
    exact hfront.redirect hnodup' _
  | cons y ys =>
    refine walk_append.mpr ⟨hfront.redirect hnodup' y, hback.2.congr fun z hz => ?_⟩
    apply Function.update_of_ne
    rintro rfl
    exact (List.nodup_append.mp hnodup).2.2 _ (getLastD_mem a xs) _ (List.mem_cons_of_mem x hz) rfl

/-- A new node is put into a walk. -/
theorem Walk.link (h : Walk f a (xs ++ ys) b) (hnodup : (a :: (xs ++ ys)).Nodup) (hx : x ∉ a :: (xs ++ ys)) :
    Walk (Function.update (Function.update f x (some (ys.headD b))) (xs.getLastD a) (some x)) a (xs ++ x :: ys) b := by
  rw [← List.cons_append] at hnodup hx
  have hnodup' := (List.nodup_append.mp hnodup).1
  have hne : xs.getLastD a ≠ x := by
    rintro rfl
    exact hx (List.mem_append_left ys (getLastD_mem a xs))
  have hfresh {z : α} (hz : z ∈ a :: xs ++ ys) : z ≠ x := by
    rintro rfl
    exact hx hz
  have hback : Walk (Function.update (Function.update f x (some (ys.headD b))) (xs.getLastD a) (some x)) x ys b := by
    cases ys with
    | nil => exact (Function.update_of_ne hne.symm ..).trans (Function.update_self ..)
    | cons y ys =>
      refine ⟨(Function.update_of_ne hne.symm ..).trans (Function.update_self ..), ?_⟩
      refine (walk_append.mp h).2.congr fun z hz => ?_
      have hlast : z ≠ xs.getLastD a := fun heq =>
        (List.nodup_append.mp hnodup).2.2 _ (getLastD_mem a xs) _ hz heq.symm
      rw [Function.update_of_ne hlast, Function.update_of_ne (hfresh (List.mem_append_right _ hz))]
  have hfront : ∃ c, Walk f a xs c := by
    cases ys with
    | nil => exact ⟨b, by rwa [List.append_nil] at h⟩
    | cons y ys => exact ⟨y, (walk_append.mp h).1⟩
  obtain ⟨c, hfront⟩ := hfront
  refine walk_append.mpr ⟨?_, hback⟩
  exact (hfront.congr fun z hz => Function.update_of_ne (hfresh (List.mem_append_left ys hz)) ..).redirect hnodup' x

end Update

/-- From the head the links lead through the nodes and back to the head, in both directions. -/
structure Ring (next prev : α → Option α) (head : α) (xs : List α) : Prop where
  nodup : (head :: xs).Nodup
  forward : Walk next head xs head
  backward : Walk prev head xs.reverse head

namespace Ring

variable {head : α}

theorem empty (hnext : next head = some head) (hprev : prev head = some head) : Ring next prev head [] :=
  ⟨List.nodup_singleton head, hnext, hprev⟩

theorem congr (h : Ring next prev head xs) {next' prev' : α → Option α} (hnext : ∀ z ∈ head :: xs, next' z = next z)
    (hprev : ∀ z ∈ head :: xs, prev' z = prev z) : Ring next' prev' head xs where
  nodup := h.nodup
  forward := h.forward.congr hnext
  backward := h.backward.congr fun z hz => by
    obtain rfl | hz := List.mem_cons.mp hz
    · exact hprev z List.mem_cons_self
    · exact hprev z (List.mem_cons_of_mem _ (List.mem_reverse.mp hz))

/-- The neighbours of a node. -/
theorem next_eq (h : Ring next prev head (xs ++ x :: ys)) : next x = some (ys.headD head) :=
  (walk_append.mp h.forward).2.first

theorem prev_eq (h : Ring next prev head (xs ++ x :: ys)) : prev x = some (xs.getLastD head) := by
  have hback := h.backward
  rw [List.reverse_append, List.reverse_cons, List.append_assoc, List.singleton_append] at hback
  rw [(walk_append.mp hback).2.first, List.headD_eq_head?_getD, List.head?_reverse, List.getLastD_eq_getLast?]

theorem last_eq (h : Ring next prev head xs) : prev head = some (xs.getLastD head) := by
  rw [h.backward.first, List.headD_eq_head?_getD, List.head?_reverse, List.getLastD_eq_getLast?]

theorem reverse_getLastD (ys : List α) : ys.reverse.getLastD head = ys.headD head := by
  rw [List.getLastD_eq_getLast?, List.getLast?_reverse, List.headD_eq_head?_getD]

variable [DecidableEq α]

/-- A node whose neighbours are linked with each other is out of the ring. -/
theorem remove (h : Ring next prev head (xs ++ x :: ys)) :
    Ring (Function.update next (xs.getLastD head) (next x)) (Function.update prev (ys.headD head) (prev x)) head
      (xs ++ ys) where
  nodup := by
    refine h.nodup.sublist ?_
    exact ((List.sublist_cons_self x ys).append_left xs).cons_cons head
  forward := h.forward.cut h.nodup
  backward := by
    have hback := h.backward
    have hnodup : (head :: (xs ++ x :: ys).reverse).Nodup := by
      have hcons := List.nodup_cons.mp h.nodup
      exact List.nodup_cons.mpr ⟨fun hmem => hcons.1 (List.mem_reverse.mp hmem), List.nodup_reverse.mpr hcons.2⟩
    rw [List.reverse_append, List.reverse_cons, List.append_assoc, List.singleton_append] at hback hnodup
    have hcut := hback.cut hnodup
    rwa [reverse_getLastD, ← List.reverse_append] at hcut

/-- A new node between two neighbours is in the ring. -/
theorem insert (h : Ring next prev head (xs ++ ys)) (hx : x ∉ head :: (xs ++ ys)) :
    Ring (Function.update (Function.update next x (some (ys.headD head))) (xs.getLastD head) (some x))
      (Function.update (Function.update prev x (some (xs.getLastD head))) (ys.headD head) (some x)) head
      (xs ++ x :: ys) where
  nodup := by
    have hcons := List.nodup_cons.mp h.nodup
    simp only [List.mem_cons, List.mem_append, not_or] at hx hcons
    rw [List.nodup_cons, List.nodup_middle, List.nodup_cons]
    simp only [List.mem_append, List.mem_cons, not_or]
    exact ⟨⟨hcons.1.1, fun heq => hx.1 heq.symm, hcons.1.2⟩, hx.2, hcons.2⟩
  forward := h.forward.link h.nodup hx
  backward := by
    have hback := h.backward
    have hnodup : (head :: (xs ++ ys).reverse).Nodup := by
      have hcons := List.nodup_cons.mp h.nodup
      exact List.nodup_cons.mpr ⟨fun hmem => hcons.1 (List.mem_reverse.mp hmem), List.nodup_reverse.mpr hcons.2⟩
    have hx' : x ∉ head :: (xs ++ ys).reverse := by
      simpa only [List.mem_cons, List.mem_reverse] using hx
    rw [List.reverse_append] at hback hnodup hx'
    have hlink := hback.link hnodup hx'
    rw [reverse_getLastD, List.headD_eq_head?_getD, List.head?_reverse, ← List.getLastD_eq_getLast?] at hlink
    rwa [List.reverse_append, List.reverse_cons, List.append_assoc, List.singleton_append]

end Ring

end Links
