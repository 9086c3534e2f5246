import Wsd.Json.Grammar

/-! The braces of a JSON text: those which open and close its objects, and those which are
mere characters of its strings. -/

namespace Json

/-- Where a scanner is which tells strings from the rest of the text. -/
inductive Mode
  | outside
  | string
  | escape
  deriving DecidableEq, Repr

def Mode.next : Mode → UInt8 → Mode
  | .outside, b => if b = 0x22 then .string else .outside
  | .string, b => if b = 0x22 then .outside else if b = 0x5c then .escape else .string
  | .escape, _ => .string

/-- The mode behind the given bytes. -/
def mode (m : Mode) (w : List UInt8) : Mode :=
  w.foldl Mode.next m

def brace (b : UInt8) : Int :=
  if b = 0x7b then 1 else if b = 0x7d then -1 else 0

/-- The braces outside strings, where a closing one counts against an opening one. -/
def depth : Mode → List UInt8 → Int
  | _, [] => 0
  | m, b :: w => (if m = .outside then brace b else 0) + depth (m.next b) w

/-- The braces inside strings, counted in the same way. -/
def quoted : Mode → List UInt8 → Int
  | _, [] => 0
  | m, b :: w => (if m = .outside then 0 else brace b) + quoted (m.next b) w

/-- All braces. -/
def raw : List UInt8 → Int
  | [] => 0
  | b :: w => brace b + raw w

@[simp] theorem mode_nil (m : Mode) : mode m [] = m := rfl
@[simp] theorem depth_nil (m : Mode) : depth m [] = 0 := rfl
@[simp] theorem quoted_nil (m : Mode) : quoted m [] = 0 := rfl
@[simp] theorem raw_nil : raw [] = 0 := rfl

@[simp] theorem raw_cons (b : UInt8) (w : List UInt8) : raw (b :: w) = brace b + raw w := rfl

@[simp] theorem raw_append (u w : List UInt8) : raw (u ++ w) = raw u + raw w := by
  induction u with
  | nil => simp
  | cons b u ih => rw [List.cons_append, raw_cons, raw_cons, ih, Int.add_assoc]

theorem mode_append (m : Mode) (u w : List UInt8) : mode m (u ++ w) = mode (mode m u) w :=
  List.foldl_append

theorem depth_append (m : Mode) (u w : List UInt8) : depth m (u ++ w) = depth m u + depth (mode m u) w := by
  induction u generalizing m with
  | nil => simp
  | cons b u ih => rw [List.cons_append, depth, depth, ih, Int.add_assoc]; rfl

theorem depth_add_quoted (m : Mode) (w : List UInt8) : depth m w + quoted m w = raw w := by
  induction w generalizing m with
  | nil => rfl
  | cons b w ih =>
    have hrest := ih (m.next b)
    rw [depth, quoted, raw_cons]
    split <;> omega

/-- A part of the front of two texts ends in the first one or reaches into the second. -/
theorem prefix_of_append {p u w : List UInt8} (h : p <+: u ++ w) : p <+: u ∨ ∃ q, p = u ++ q ∧ q <+: w := by
  rcases Nat.le_total p.length u.length with hle | hle
  · exact .inl (List.prefix_of_prefix_length_le h (List.prefix_append u w) hle)
  · obtain ⟨q, rfl⟩ := List.prefix_of_prefix_length_le (List.prefix_append u w) h hle
    exact .inr ⟨q, rfl, (List.prefix_append_right_inj u).mp h⟩

/-- Outside strings, no object is closed which has not been opened before, and all are closed
    in the end. -/
structure Balanced (w : List UInt8) : Prop where
  mode : mode .outside w = .outside
  depth : depth .outside w = 0
  nonneg {p : List UInt8} : p <+: w → 0 ≤ Json.depth .outside p

theorem Balanced.append {u w : List UInt8} (hu : Balanced u) (hw : Balanced w) : Balanced (u ++ w) := by
  refine ⟨?_, ?_, ?_⟩
  · rw [mode_append, hu.mode, hw.mode]
  · rw [depth_append, hu.mode, hu.depth, hw.depth, Int.add_zero]
  · intro p hp
    obtain hp | ⟨q, rfl, hq⟩ := prefix_of_append hp
    · exact hu.nonneg hp
    · have hrest := hw.nonneg hq
      rw [depth_append, hu.mode, hu.depth]
      omega

/-- A byte which neither opens nor closes anything. -/
def IsPlain (b : UInt8) : Prop :=
  b ≠ 0x22 ∧ b ≠ 0x7b ∧ b ≠ 0x7d

instance decidableIsPlain (b : UInt8) : Decidable (IsPlain b) :=
  inferInstanceAs (Decidable (_ ∧ _))

theorem brace_of_plain {b : UInt8} (h : IsPlain b) : brace b = 0 := by
  obtain ⟨-, hopen, hclose⟩ := h
  rw [brace, if_neg hopen, if_neg hclose]

theorem mode_of_plain {w : List UInt8} (h : ∀ b ∈ w, IsPlain b) : mode .outside w = .outside := by
  induction w with
  | nil => rfl
  | cons b w ih =>
    obtain ⟨hb, hw⟩ := List.forall_mem_cons.mp h
    change mode (Mode.next .outside b) w = .outside
    rw [Mode.next, if_neg hb.1]
    exact ih hw

theorem depth_of_plain {w : List UInt8} (h : ∀ b ∈ w, IsPlain b) : depth .outside w = 0 := by
  induction w with
  | nil => rfl
  | cons b w ih =>
    obtain ⟨hb, hw⟩ := List.forall_mem_cons.mp h
    rw [depth, if_pos rfl, brace_of_plain hb, Mode.next, if_neg hb.1, ih hw]
    rfl

theorem Balanced.plain {w : List UInt8} (h : ∀ b ∈ w, IsPlain b) : Balanced w :=
  ⟨mode_of_plain h, depth_of_plain h,
    fun hp => Int.le_of_eq (depth_of_plain fun b hb => h b (hp.subset hb)).symm⟩

/-- A scanner stays inside a string over the given bytes, and ends behind a whole character. -/
def Inside : Mode → List UInt8 → Prop
  | m, [] => m = .string
  | m, b :: w => m ≠ .outside ∧ Inside (m.next b) w

theorem Inside.mode_eq {m : Mode} {w : List UInt8} (h : Inside m w) : mode m w = .string := by
  induction w generalizing m with
  | nil => exact h
  | cons b w ih => exact ih h.2

theorem Inside.depth_eq {m : Mode} {w p : List UInt8} (h : Inside m w) (hp : p <+: w) : depth m p = 0 := by
  induction w generalizing m p with
  | nil =>
    rw [List.prefix_nil.mp hp]
    rfl
  | cons b w ih =>
    obtain rfl | ⟨q, rfl, hq⟩ := List.prefix_cons_iff.mp hp
    · rfl
    · rw [depth, if_neg h.1, ih h.2 hq]
      rfl

theorem Inside.cons {b : UInt8} {w : List UInt8} (hquote : b ≠ 0x22) (hescape : b ≠ 0x5c) (h : Inside .string w) :
    Inside .string (b :: w) := by
  refine ⟨by decide, ?_⟩
  rw [Mode.next, if_neg hquote, if_neg hescape]
  exact h

theorem Inside.escape (b : UInt8) {w : List UInt8} (h : Inside .string w) : Inside .string (0x5c :: b :: w) :=
  ⟨by decide, by decide, h⟩

theorem IsDigit.ne {b c : UInt8} (h : IsDigit b) (hc : c < 0x30 ∨ 0x39 < c) : b ≠ c := by
  rintro rfl
  have hlow := UInt8.le_iff_toNat_le.mp h.1
  have hhigh := UInt8.le_iff_toNat_le.mp h.2
  rw [UInt8.lt_iff_toNat_lt, UInt8.lt_iff_toNat_lt] at hc
  omega

theorem IsDigit.plain {b : UInt8} (h : IsDigit b) : IsPlain b :=
  ⟨h.ne (by decide), h.ne (by decide), h.ne (by decide)⟩

theorem IsHex.ne {b c : UInt8} (h : IsHex b) (hc : c = 0x22 ∨ c = 0x5c) : b ≠ c := by
  rintro rfl
  unfold IsHex IsDigit at h
  rcases hc with rfl | rfl
  · exact absurd h (by decide)
  · exact absurd h (by decide)

theorem Chars.inside {w : List UInt8} (h : Chars w) : Inside .string w := by
  induction h with
  | nil => rfl
  | plain _ hquote hescape _ ih => exact ih.cons hquote hescape
  | escape _ _ ih => exact ih.escape _
  | unicode ha hb hc hd _ ih =>
    have hhex {x : UInt8} {w : List UInt8} (hx : IsHex x) (hw : Inside .string w) : Inside .string (x :: w) :=
      hw.cons (hx.ne (.inl rfl)) (hx.ne (.inr rfl))
    exact (hhex ha (hhex hb (hhex hc (hhex hd ih)))).escape 0x75

/-- A string opens and closes no object, whatever its characters are. -/
theorem Balanced.string {w : List UInt8} (h : Chars w) : Balanced ([0x22] ++ w ++ [0x22]) := by
  have hmode : Json.mode .outside ([0x22] ++ w) = .string := h.inside.mode_eq
  have hdepth {p : List UInt8} (hp : p <+: w) : Json.depth .outside ([0x22] ++ p) = 0 := by
    rw [depth_append]
    change 0 + Json.depth .string p = 0
    rw [h.inside.depth_eq hp, Int.add_zero]
  refine ⟨?_, ?_, ?_⟩
  · rw [mode_append, hmode]
    rfl
  · rw [depth_append, hdepth (List.prefix_refl w), hmode]
    rfl
  · intro p hp
    obtain rfl | hp := List.prefix_concat_iff.mp hp
    · rw [depth_append, hdepth (List.prefix_refl w), hmode]
      decide
    obtain rfl | ⟨q, rfl, hq⟩ := List.prefix_cons_iff.mp hp
    · exact Int.le_refl 0
    · exact Int.le_of_eq (hdepth hq).symm

theorem depth_open (w : List UInt8) : depth .outside ([0x7b] ++ w) = 1 + depth .outside w := rfl

theorem mode_open (w : List UInt8) : mode .outside ([0x7b] ++ w) = mode .outside w := rfl

/-- A proper prefix of a text in braces holds an open one. -/
theorem Balanced.depth_pos {w p : List UInt8} (h : Balanced w) (hp : p <+: [0x7b] ++ w ++ [0x7d]) (hne : p ≠ [])
    (hproper : p ≠ [0x7b] ++ w ++ [0x7d]) : 0 < Json.depth .outside p := by
  obtain rfl | hp := List.prefix_concat_iff.mp hp
  · exact absurd rfl hproper
  obtain rfl | ⟨q, rfl, hq⟩ := List.prefix_cons_iff.mp hp
  · exact absurd rfl hne
  · have hinner := h.nonneg hq
    have hopen := depth_open q
    rw [List.singleton_append] at hopen
    omega

/-- The braces around a balanced text. -/
theorem Balanced.braces {w : List UInt8} (h : Balanced w) : Balanced ([0x7b] ++ w ++ [0x7d]) := by
  have hclosed : Json.depth .outside ([0x7b] ++ w ++ [0x7d]) = 0 := by
    rw [depth_append, depth_open, mode_open, h.depth, h.mode]
    rfl
  refine ⟨?_, hclosed, ?_⟩
  · rw [mode_append, mode_open, h.mode]
    rfl
  · intro p hp
    by_cases hne : p = []
    · rw [hne]
      exact Int.le_refl 0
    by_cases hproper : p = [0x7b] ++ w ++ [0x7d]
    · exact Int.le_of_eq (hproper ▸ hclosed).symm
    · exact Int.le_of_lt (h.depth_pos hp hne hproper)

theorem Ws.plain {w : List UInt8} (h : Ws w) : ∀ b ∈ w, IsPlain b := by
  intro b hb
  rcases h b hb with rfl | rfl | rfl | rfl <;> decide

theorem Digits.plain {w : List UInt8} (h : Digits w) : ∀ b ∈ w, IsPlain b :=
  fun b hb => (h.2 b hb).plain

theorem Number.plain {w : List UInt8} (h : Number w) : ∀ b ∈ w, IsPlain b := by
  obtain ⟨minus, int, frac, exp, rfl, hminus, hint, hfrac, hexp⟩ := h.parts
  have hint' : ∀ b ∈ int, IsPlain b := by
    rcases hint with rfl | ⟨hint, -⟩
    · decide +kernel
    · exact hint.plain
  have hminus' : ∀ b ∈ minus, IsPlain b := by
    rcases hminus with rfl | rfl <;> decide +kernel
  have hfrac' : ∀ b ∈ frac, IsPlain b := by
    rcases hfrac with rfl | ⟨digits, rfl, hdigits⟩
    · decide +kernel
    · exact List.forall_mem_cons.mpr ⟨by decide, hdigits.plain⟩
  have hexp' : ∀ b ∈ exp, IsPlain b := by
    rcases hexp with rfl | ⟨e, sign, digits, rfl, he, hsign, hdigits⟩
    · decide +kernel
    refine List.forall_mem_cons.mpr ⟨?_, List.forall_mem_append.mpr ⟨?_, hdigits.plain⟩⟩
    · rcases he with rfl | rfl <;> decide
    · rcases hsign with rfl | rfl | rfl <;> decide +kernel
  simp only [List.forall_mem_append]
  exact ⟨⟨⟨hminus', hint'⟩, hfrac'⟩, hexp'⟩

theorem Text.balanced {rule : Rule} {w : List UInt8} (h : Text rule w) : Balanced w := by
  have hws {w : List UInt8} (h : Ws w) : Balanced w := .plain h.plain
  have hbyte {b : UInt8} (h : IsPlain b) : Balanced [b] := .plain (List.forall_mem_singleton.mpr h)
  induction h with
  | literal h =>
    refine .plain ?_
    rcases h with rfl | rfl | rfl <;> decide +kernel
  | number h => exact .plain h.plain
  | string h => exact .string h
  | emptyObject h => exact (hws h).braces
  | object _ ih => exact ih.braces
  | emptyArray h => exact ((hbyte (by decide)).append (hws h)).append (hbyte (by decide))
  | array _ ih => exact ((hbyte (by decide)).append ih).append (hbyte (by decide))
  | member ha hname hb _ ih =>
    exact ((((hws ha).append (.string hname)).append (hws hb)).append (hbyte (by decide))).append ih
  | lastMember _ ih => exact ih
  | members _ _ ih ihs => exact (ih.append (hbyte (by decide))).append ihs
  | element ha _ hb ih => exact ((hws ha).append ih).append (hws hb)
  | lastElement _ ih => exact ih
  | elements _ _ ih ihs => exact (ih.append (hbyte (by decide))).append ihs

theorem Object.balanced {w : List UInt8} (h : Object w) : Balanced w :=
  h.value.balanced

/-- An object is open from its first byte to its last one. -/
theorem Object.depth_pos {w p : List UInt8} (h : Object w) (hp : p <+: w) (hne : p ≠ []) (hproper : p ≠ w) :
    0 < depth .outside p := by
  obtain ⟨inner, rfl, hinner⟩ := h.braces
  have hbalanced : Balanced inner := by
    rcases hinner with hws | hmembers
    · exact .plain hws.plain
    · exact hmembers.balanced
  exact hbalanced.depth_pos hp hne hproper

/-- The braces in the strings of an object, if they are counted like the others, do not hide where it
    ends: they are even in the whole, and in no part of its front do they outweigh the open objects. -/
def Harmless (w : List UInt8) : Prop :=
  quoted .outside w = 0 ∧ ∀ n < w.length, 0 < n → 0 < depth .outside (w.take n) + quoted .outside (w.take n)

instance decidableHarmless (w : List UInt8) : Decidable (Harmless w) :=
  inferInstanceAs (Decidable (_ ∧ _))

theorem Object.harmless_iff {w : List UInt8} (h : Object w) :
    Harmless w ↔ raw w = 0 ∧ ∀ n < w.length, 0 < n → 0 < raw (w.take n) := by
  unfold Harmless
  simp only [depth_add_quoted]
  rw [← depth_add_quoted .outside w, h.balanced.depth, Int.zero_add]

/-- The strings contain no braces. -/
def BraceFree : Mode → List UInt8 → Prop
  | _, [] => True
  | m, b :: w => (m = .outside ∨ brace b = 0) ∧ BraceFree (m.next b) w

theorem BraceFree.quoted_eq {m : Mode} {w p : List UInt8} (h : BraceFree m w) (hp : p <+: w) : quoted m p = 0 := by
  induction w generalizing m p with
  | nil =>
    rw [List.prefix_nil.mp hp]
    rfl
  | cons b w ih =>
    obtain rfl | ⟨q, rfl, hq⟩ := List.prefix_cons_iff.mp hp
    · rfl
    · rw [quoted, ih h.2 hq]
      rcases h.1 with rfl | hb
      · rfl
      · rw [hb, ite_self]
        rfl

theorem Object.harmless_of_braceFree {w : List UInt8} (h : Object w) (hfree : BraceFree .outside w) : Harmless w := by
  refine ⟨hfree.quoted_eq (List.prefix_refl w), fun n hn hpos => ?_⟩
  have hlen : (w.take n).length = n := List.length_take_of_le (Nat.le_of_lt hn)
  have hne : w.take n ≠ [] := List.ne_nil_of_length_pos (by omega)
  have hproper : w.take n ≠ w := fun heq => by
    rw [heq] at hlen
    omega
  rw [hfree.quoted_eq (List.take_prefix n w), Int.add_zero]
  exact h.depth_pos (List.take_prefix n w) hne hproper

end Json
