import Mathlib.Data.List.Basic

/-! A stream of encoded items which arrives in pieces: where the items end does not
depend on where the pieces end. -/

namespace Framing

variable {α β : Type} (enc : α → List β)

/-- The symbols of a sequence of items. -/
def stream (items : List α) : List β :=
  items.flatMap enc

/-- What lies behind the items which the given part of their stream completes. -/
def leftover : List α → List β → List β
  | [], part => part
  | a :: items, part =>
    if (enc a).length ≤ part.length then leftover items (part.drop (enc a).length) else part

/-- The pieces arrive one by one behind the given part, and what each leaves behind
    the complete items satisfies `P`. -/
def Leaves (P : List β → Prop) (items : List α) : List β → List (List β) → Prop
  | _, [] => True
  | part, piece :: pieces => P (leftover enc items (part ++ piece)) ∧ Leaves P items (part ++ piece) pieces

/-- No piece is empty, and each fits into a buffer of the given size behind what the
    pieces before it have left there. -/
def Fits (size : Nat) (items : List α) : List β → List (List β) → Prop
  | _, [] => True
  | part, piece :: pieces =>
    piece ≠ [] ∧ (leftover enc items part).length + piece.length ≤ size ∧ Fits size items (part ++ piece) pieces

instance decidableLeaves (P : List β → Prop) [DecidablePred P] (items : List α) :
    (part : List β) → (pieces : List (List β)) → Decidable (Leaves enc P items part pieces)
  | _, [] => isTrue trivial
  | part, piece :: pieces =>
    have := decidableLeaves P items (part ++ piece) pieces
    inferInstanceAs (Decidable (_ ∧ _))

instance decidableFits [DecidableEq β] (size : Nat) (items : List α) :
    (part : List β) → (pieces : List (List β)) → Decidable (Fits enc size items part pieces)
  | _, [] => isTrue trivial
  | part, piece :: pieces =>
    have := decidableFits size items (part ++ piece) pieces
    inferInstanceAs (Decidable (_ ∧ _ ∧ _))

variable {enc} {items done left : List α} {part rest : List β} {a : α}

@[simp] theorem stream_nil : stream enc [] = [] := rfl

@[simp] theorem stream_cons (a : α) (items : List α) : stream enc (a :: items) = enc a ++ stream enc items := rfl

@[simp] theorem stream_append (done left : List α) :
    stream enc (done ++ left) = stream enc done ++ stream enc left :=
  List.flatMap_append

/-- Items which are not empty are no more than the symbols of their stream. -/
theorem length_le_stream (h : ∀ a, 1 ≤ (enc a).length) (items : List α) :
    items.length ≤ (stream enc items).length := by
  induction items with
  | nil => exact Nat.le_refl 0
  | cons a items ih =>
    have ha := h a
    rw [stream_cons, List.length_append, List.length_cons]
    omega

/-- Complete items are skipped. -/
theorem leftover_append (done left : List α) (part : List β) :
    leftover enc (done ++ left) (stream enc done ++ part) = leftover enc left part := by
  induction done with
  | nil => rfl
  | cons a done ih =>
    simp only [List.cons_append, leftover, stream_cons, List.append_assoc]
    rw [if_pos (by simp), List.drop_left, ih]

theorem leftover_of_lt (h : part.length < (enc a).length) : leftover enc (a :: items) part = part :=
  if_neg (Nat.not_le.mpr h)

/-- A part of a stream is a sequence of complete items and, behind them, a proper
    part of the next one. -/
theorem exists_split (h : part ++ rest = stream enc items) :
    ∃ done left, items = done ++ left ∧ part = stream enc done ++ leftover enc items part ∧
      leftover enc items part ++ rest = stream enc left ∧
      ∀ a ∈ left.head?, (leftover enc items part).length < (enc a).length := by
  induction items generalizing part with
  | nil => exact ⟨[], [], rfl, rfl, h, by simp⟩
  | cons a items ih =>
    by_cases hlen : (enc a).length ≤ part.length
    · obtain ⟨part', rfl⟩ : ∃ part', part = enc a ++ part' := by
        have htake := congrArg (List.take (enc a).length) h
        rw [List.take_append_of_le_length hlen, stream_cons, List.take_left] at htake
        exact ⟨part.drop (enc a).length, by rw [← htake, List.length_take, Nat.min_eq_left hlen,
          List.take_append_drop]⟩
      rw [stream_cons, List.append_assoc] at h
      obtain ⟨done, left, rfl, hpart, hrest, hshort⟩ := ih (List.append_cancel_left h)
      have hskip := @leftover_append _ _ enc [a] (done ++ left) part'
      rw [stream_cons, stream_nil, List.append_nil, List.singleton_append] at hskip
      refine ⟨a :: done, left, rfl, ?_, ?_, ?_⟩
      · rw [hskip, stream_cons, List.append_assoc, ← hpart]
      · rwa [hskip]
      · rwa [hskip]
    · have hstay := @leftover_of_lt _ _ enc items _ _ (Nat.not_le.mp hlen)
      refine ⟨[], a :: items, rfl, ?_, ?_, ?_⟩
      · rw [hstay]
        rfl
      · rwa [hstay]
      · rw [hstay]
        intro b hb
        cases hb
        exact Nat.not_le.mp hlen

/-- A whole stream leaves nothing. -/
theorem leftover_stream (items : List α) : leftover enc items (stream enc items) = [] := by
  have h := @leftover_append _ _ enc items [] []
  rwa [List.append_nil, List.append_nil] at h

/-- Where items are told apart by their first symbols, those which a stream starts with are its first items. -/
theorem exists_left (hne : ∀ a, enc a ≠ [])
    (hinj : ∀ a b : α, ∀ tail tail' : List β, enc a ++ tail = enc b ++ tail' → a = b ∧ tail = tail')
    (h : stream enc done ++ rest = stream enc items) : ∃ left, items = done ++ left ∧ rest = stream enc left := by
  induction done generalizing items with
  | nil => exact ⟨items, rfl, h⟩
  | cons a done ih =>
    rw [stream_cons, List.append_assoc] at h
    cases items with
    | nil => exact absurd (List.append_eq_nil_iff.mp h).1 (hne a)
    | cons b items =>
      obtain ⟨rfl, htail⟩ := hinj a b _ _ h
      obtain ⟨left, rfl, hrest⟩ := ih htail
      exact ⟨left, rfl, hrest⟩

end Framing
