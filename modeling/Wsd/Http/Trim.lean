import Wsd.Http.Token

namespace wsd

def is_blank (c : UInt8) : Bool :=
  c == SPACE || c == TAB

theorem blank_iff (c : UInt8) : c = SPACE ∨ c = TAB ↔ is_blank c = true := by
  simp [is_blank]

/-- The first loop of `trim` along with the places which it reads. -/
def trim_front_traced (data : Memory UInt8) : Nat → Nat → Nat → (Nat × Nat) × List Nat
  | 0, p, _ => ((0, p), [])
  | len + 1, p, i =>
    if data (p + i) = SPACE ∨ data (p + i) = TAB then
      let (stop, reads) := trim_front_traced data len (p + 1) (i + 1)
      (stop, (p + i) :: reads)
    else
      ((len + 1, p), [p + i])

/-- The second loop of `trim` along with the places which it reads. -/
def trim_back_traced (data : Memory UInt8) (p : Nat) : Nat → Nat × List Nat
  | 0 => (0, [])
  | len + 1 =>
    if data (p + len) = SPACE ∨ data (p + len) = TAB then
      let (stop, reads) := trim_back_traced data p len
      (stop, (p + len) :: reads)
    else
      (len + 1, [p + len])

/-- `trim` of a chunk at `p`, wherever its memory ends: the place and the length of what is left, and the
    places which are read. -/
def trim_traced (data : Memory UInt8) (p len : Nat) : (Nat × Nat) × List Nat :=
  let ((len, p), reads) := trim_front_traced data len p 0
  let (len, reads') := trim_back_traced data p len
  ((p, len), reads ++ reads')

/-- The result of a traced computation on an array, behind whose end there is nothing to read. -/
def inArray {α : Type} (r : α × List Nat) : Except Fault α :=
  if ∀ i ∈ r.2, i < SKB_SIZE then .ok r.1 else .error .out_of_bounds

theorem inArray_ok {α : Type} {r : α × List Nat} (h : ∀ i ∈ r.2, i < SKB_SIZE) : inArray r = .ok r.1 :=
  if_pos h

theorem inArray_nil {α : Type} (a : α) : inArray (a, []) = .ok a := by
  simp [inArray]

theorem inArray_cons {α : Type} (a : α) (place : Nat) (reads : List Nat) :
    inArray (a, place :: reads) = if SKB_SIZE ≤ place then .error .out_of_bounds else inArray (a, reads) := by
  unfold inArray
  by_cases hin : SKB_SIZE ≤ place
  · rw [if_pos hin, if_neg fun h => absurd (h place List.mem_cons_self) (Nat.not_lt.mpr hin)]
  · simp only [List.forall_mem_cons, Nat.not_le.mp hin, true_and, if_neg hin]

theorem inArray_bind {α β : Type} (r : α × List Nat) (f : α → β × List Nat) :
    (do inArray (f (← inArray r))) = inArray ((f r.1).1, r.2 ++ (f r.1).2) := by
  obtain ⟨a, reads⟩ := r
  induction reads with
  | nil => rw [inArray_nil, Except.ok_bind, List.nil_append]
  | cons place reads ih =>
    simp only [inArray_cons, List.cons_append]
    by_cases hin : SKB_SIZE ≤ place
    · rw [if_pos hin, if_pos hin]
      rfl
    · rw [if_neg hin, if_neg hin]
      exact ih

section Traced

variable (data : Memory UInt8)

theorem trim_front_eq (len p i : Nat) : trim_front data len p i = inArray (trim_front_traced data len p i) := by
  induction len generalizing p i with
  | zero => rw [trim_front, trim_front_traced, inArray_nil]
  | succ len ih =>
    unfold trim_front trim_front_traced
    by_cases hblank : data (p + i) = SPACE ∨ data (p + i) = TAB
    · simp only [if_pos hblank, inArray_cons, ih]
    · simp only [if_neg hblank, inArray_cons, inArray_nil]

theorem trim_back_eq (p len : Nat) : trim_back data p len = inArray (trim_back_traced data p len) := by
  induction len with
  | zero => rw [trim_back, trim_back_traced, inArray_nil]
  | succ len ih =>
    unfold trim_back trim_back_traced
    by_cases hblank : data (p + len) = SPACE ∨ data (p + len) = TAB
    · simp only [if_pos hblank, inArray_cons, ih]
    · simp only [if_neg hblank, inArray_cons, inArray_nil]

/-- In an array `trim` returns what the traced loops leave, unless they read behind it. -/
theorem trim_eq (p len : Nat) :
    trim data { p := some p, len } =
      (inArray (trim_traced data p len)).map fun chk => { p := some chk.1, len := chk.2 } := by
  have hloops : inArray (trim_traced data p len) = (do
      let stop ← trim_front data len p 0
      let len ← trim_back data stop.2 stop.1
      return (stop.2, len)) := by
    have hbind := inArray_bind (trim_front_traced data len p 0)
      fun stop => ((stop.2, (trim_back_traced data stop.2 stop.1).1), (trim_back_traced data stop.2 stop.1).2)
    unfold trim_traced
    rw [trim_front_eq, ← hbind]
    congr
    funext stop
    rw [trim_back_eq]
    unfold inArray
    split <;> rfl
  rw [hloops]
  unfold trim
  by_cases hlen : len = 0
  · subst hlen
    rfl
  · rw [if_neg hlen]
    simp only
    cases trim_front data len p 0 with
    | error fault => rfl
    | ok stop =>
      simp only [Except.ok_bind]
      cases trim_back data stop.2 stop.1 with
      | error fault => rfl
      | ok len' => rfl

/-- The first loop looks at every other character: it takes as many characters from the front as there
    are blanks at these. -/
theorem trim_front_traced_stops (len p i : Nat) :
    ∃ k reads, k ≤ len ∧ trim_front_traced data len p i = ((len - k, p + k), reads) ∧
      (∀ j, j < k → is_blank (data (p + i + 2 * j)) = true) ∧ (k < len → is_blank (data (p + i + 2 * k)) = false) ∧
      ∀ x, x ∈ reads ↔ ∃ j, j ≤ k ∧ j < len ∧ x = p + i + 2 * j := by
  induction len generalizing p i with
  | zero => exact ⟨0, [], Nat.le_refl _, rfl, fun j hj => by omega, fun hk => by omega, by simp⟩
  | succ len ih =>
    unfold trim_front_traced
    cases hblank : is_blank (data (p + i)) with
    | false =>
      have hnot : ¬ (data (p + i) = SPACE ∨ data (p + i) = TAB) := by
        rw [blank_iff, hblank]
        decide
      rw [if_neg hnot]
      refine ⟨0, [p + i], Nat.zero_le _, rfl, fun j hj => by omega, fun _ => hblank, fun x => ?_⟩
      rw [List.mem_singleton]
      constructor
      · rintro rfl
        exact ⟨0, Nat.le_refl _, Nat.succ_pos _, rfl⟩
      · rintro ⟨j, hj, -, rfl⟩
        omega
    | true =>
      rw [if_pos ((blank_iff _).2 hblank)]
      obtain ⟨k, reads, hk, htrim, hbefore, hat, hreads⟩ := ih (p + 1) (i + 1)
      have hplace (j : Nat) : p + 1 + (i + 1) + 2 * j = p + i + 2 * (j + 1) := by omega
      simp only [hplace] at hbefore hat hreads
      refine ⟨k + 1, (p + i) :: reads, by omega, ?_, fun j hj => ?_, fun hlen => hat (by omega), fun x => ?_⟩
      · simp only [htrim]
        congr 2 <;> omega
      · cases j with
        | zero => exact hblank
        | succ j => exact hbefore j (by omega)
      · rw [List.mem_cons, hreads]
        constructor
        · rintro (rfl | ⟨j, hj, hlt, rfl⟩)
          · exact ⟨0, Nat.zero_le _, Nat.succ_pos _, rfl⟩
          · exact ⟨j + 1, by omega, by omega, rfl⟩
        · rintro ⟨j, hj, hlt, rfl⟩
          cases j with
          | zero => exact .inl rfl
          | succ j => exact .inr ⟨j, by omega, by omega, rfl⟩

/-- The second loop takes the blanks from the end, and reads within the chunk. -/
theorem trim_back_traced_stops (p len : Nat) :
    ∃ len' reads, trim_back_traced data p len = (len', reads) ∧ len' ≤ len ∧
      (∀ j, len' ≤ j → j < len → is_blank (data (p + j)) = true) ∧
      (0 < len' → is_blank (data (p + len' - 1)) = false) ∧ ∀ x ∈ reads, p ≤ x ∧ x < p + len := by
  induction len with
  | zero => exact ⟨0, [], rfl, Nat.le_refl _, fun j _ hj => by omega, fun h => by omega, by simp⟩
  | succ len ih =>
    unfold trim_back_traced
    cases hblank : is_blank (data (p + len)) with
    | false =>
      have hnot : ¬ (data (p + len) = SPACE ∨ data (p + len) = TAB) := by
        rw [blank_iff, hblank]
        decide
      rw [if_neg hnot]
      refine ⟨len + 1, [p + len], rfl, Nat.le_refl _, fun j _ _ => by omega, fun _ => hblank, ?_⟩
      rw [List.forall_mem_singleton]
      omega
    | true =>
      rw [if_pos ((blank_iff _).2 hblank)]
      obtain ⟨len', reads, htrim, hle, hblanks, hlast, hreads⟩ := ih
      rw [htrim]
      refine ⟨len', (p + len) :: reads, rfl, by omega, fun j hj hlt => ?_, hlast, ?_⟩
      · by_cases hj' : j = len
        · rw [hj']
          exact hblank
        · exact hblanks j hj (by omega)
      · rw [List.forall_mem_cons]
        refine ⟨by omega, fun x hx => ?_⟩
        have hbound := hreads x hx
        omega

end Traced

theorem trim_traced_eq {data : Memory UInt8} {p len p' rest len' : Nat} {reads reads' : List Nat}
    (hfront : trim_front_traced data len p 0 = ((rest, p'), reads))
    (hback : trim_back_traced data p' rest = (len', reads')) :
    trim_traced data p len = ((p', len'), reads ++ reads') := by
  unfold trim_traced
  simp only [hfront, hback]

section Line

variable {data : Memory UInt8} {p e : Nat}

/-- The first loop does not look behind the line end, neither of whose characters is a blank. -/
theorem front_reads_le {k j : Nat} (hcr : data e = CR) (hlf : data (e + 1) = LF) (hle : p ≤ e)
    (hbefore : ∀ j, j < k → is_blank (data (p + 2 * j)) = true) (hj : j ≤ k) : p + 2 * j ≤ e + 1 := by
  induction j with
  | zero => omega
  | succ j ih =>
    have hprev := ih (by omega)
    have hblank := hbefore j (by omega)
    have hne : p + 2 * j ≠ e := fun heq => by
      rw [heq, hcr] at hblank
      exact absurd hblank (by decide)
    have hne' : p + 2 * j ≠ e + 1 := fun heq => by
      rw [heq, hlf] at hblank
      exact absurd hblank (by decide)
    omega

/-- `trim` finishes for every chunk with a line end ahead. -/
theorem trim_line {n : Nat} (hle : p + n ≤ e) (hlt : e + 1 < SKB_SIZE) (hcr : data e = CR) (hlf : data (e + 1) = LF) :
    ∃ k len, k ≤ n ∧ len ≤ n - k ∧ trim data { p := some p, len := n } = .ok { p := some (p + k), len } ∧
      (∀ j, j < k → is_blank (data (p + 2 * j)) = true) ∧ (k < n → is_blank (data (p + 2 * k)) = false) := by
  obtain ⟨k, reads, hk, hfront, hbefore, hat, hreads⟩ := trim_front_traced_stops data n p 0
  obtain ⟨len, reads', hback, hlen, -, -, hreads'⟩ := trim_back_traced_stops data (p + k) (n - k)
  refine ⟨k, len, hk, hlen, ?_, hbefore, hat⟩
  rw [trim_eq, trim_traced_eq hfront hback, inArray_ok]
  · rfl
  · intro i hi
    obtain hi | hi := List.mem_append.mp hi
    · obtain ⟨j, hj, -, rfl⟩ := (hreads i).mp hi
      have hbound := front_reads_le hcr hlf (by omega) hbefore hj
      simp only [Nat.add_zero]
      omega
    · have hbound := hreads' i hi
      omega

end Line

/-- What is left of a chunk starts and ends with characters which are no blanks, and no other such
    sub-chunk is longer. Only blanks are gone. -/
structure Stripped (data : Memory UInt8) (p len p' len' : Nat) : Prop where
  inside : p ≤ p' ∧ p' + len' ≤ p + len
  first : 0 < len' → is_blank (data p') = false
  last : 0 < len' → is_blank (data (p' + len' - 1)) = false
  maximal : ∀ q n, p ≤ q → q + n ≤ p + len → 0 < n → is_blank (data q) = false → is_blank (data (q + n - 1)) = false →
    p' ≤ q ∧ q + n ≤ p' + len'
  removed : ∀ i, p ≤ i → i < p + len → i < p' ∨ p' + len' ≤ i → is_blank (data i) = true

/-- `trim` leaves what is stripped of the blanks, and reads the chunk only. -/
def StripsPadding (data : Memory UInt8) (p len : Nat) : Prop :=
  Stripped data p len (trim_traced data p len).1.1 (trim_traced data p len).1.2 ∧
    ∀ i ∈ (trim_traced data p len).2, p ≤ i ∧ i < p + len

/-- The number of blanks at the front of a chunk. -/
structure LeadingBlanks (data : Memory UInt8) (p len lead : Nat) : Prop where
  le : lead ≤ len
  blank : ∀ j, j < lead → is_blank (data (p + j)) = true
  stops : lead < len → is_blank (data (p + lead)) = false

/-- The characters which the first loop looks at show the number of blanks at the front: as many of them
    are blanks, and the next one is in the chunk and is none. -/
def ShowsLead (data : Memory UInt8) (p len lead : Nat) : Prop :=
  2 * lead < len ∧ (∀ j, j < lead → is_blank (data (p + 2 * j)) = true) ∧ is_blank (data (p + 2 * lead)) = false

section Strip

variable {data : Memory UInt8} {p len p' len' : Nat}

/-- A character which is no blank is kept, and with it all between two of them. -/
theorem Stripped.of_removed (hinside : p ≤ p' ∧ p' + len' ≤ p + len) (hfirst : 0 < len' → is_blank (data p') = false)
    (hlast : 0 < len' → is_blank (data (p' + len' - 1)) = false)
    (hremoved : ∀ i, p ≤ i → i < p + len → i < p' ∨ p' + len' ≤ i → is_blank (data i) = true) :
    Stripped data p len p' len' := by
  have hkept (i : Nat) (hlow : p ≤ i) (hhigh : i < p + len) (hi : is_blank (data i) = false) :
      p' ≤ i ∧ i < p' + len' := by
    by_contra hnot
    rw [hremoved i hlow hhigh (by omega)] at hi
    cases hi
  refine ⟨hinside, hfirst, hlast, fun q n hq hn hpos hblank hblank' => ?_, hremoved⟩
  have hfrom := hkept q hq (by omega) hblank
  have hto := hkept (q + n - 1) (by omega) (by omega) hblank'
  omega

/-- The padding is stripped if and only if the first loop takes the blanks at the front, and looks at
    places in the chunk only. -/
theorem strips_iff {k : Nat} {reads : List Nat} (hk : k ≤ len)
    (hfront : trim_front_traced data len p 0 = ((len - k, p + k), reads))
    (hat : k < len → is_blank (data (p + 2 * k)) = false)
    (hreads : ∀ x, x ∈ reads ↔ ∃ j, j ≤ k ∧ j < len ∧ x = p + 2 * j) :
    StripsPadding data p len ↔ LeadingBlanks data p len k ∧ ∀ j, j ≤ k → j < len → 2 * j < len := by
  obtain ⟨len', reads', hback, hle, hblanks, hlast, hreads'⟩ := trim_back_traced_stops data (p + k) (len - k)
  have hstrips : StripsPadding data p len ↔
      Stripped data p len (p + k) len' ∧ ∀ i ∈ reads ++ reads', p ≤ i ∧ i < p + len := by
    unfold StripsPadding
    rw [trim_traced_eq hfront hback]
  rw [hstrips]
  constructor
  · rintro ⟨hstripped, hin⟩
    have hlooks (j : Nat) (hj : j ≤ k) (hlt : j < len) : 2 * j < len := by
      have hbound := hin _ (List.mem_append_left _ ((hreads _).mpr ⟨j, hj, hlt, rfl⟩))
      omega
    refine ⟨⟨hk, fun j hj => hstripped.removed (p + j) (by omega) (by omega) (.inl (by omega)), fun hlt => ?_⟩, hlooks⟩
    -- The character which stops the loop is in the chunk, so that something is left.
    have hbound := hlooks k (Nat.le_refl _) hlt
    have hkept := hstripped.maximal (p + 2 * k) 1 (by omega) (by omega) (by omega) (hat hlt) (hat hlt)
    exact hstripped.first (by omega)
  · rintro ⟨hlead, hlooks⟩
    constructor
    · apply Stripped.of_removed (by omega) _ hlast
      · intro i hlow hhigh hout
        obtain ⟨j, rfl⟩ := Nat.exists_eq_add_of_le hlow
        obtain hbefore | hafter : j < k ∨ k + len' ≤ j := by omega
        · exact hlead.blank j hbefore
        · have hblank := hblanks (j - k) (by omega) (by omega)
          rwa [show p + k + (j - k) = p + j by omega] at hblank
      · intro hpos
        exact hlead.stops (by omega)
    · intro i hi
      obtain hi | hi := List.mem_append.mp hi
      · obtain ⟨j, hj, hlt, rfl⟩ := (hreads i).mp hi
        have hbound := hlooks j hj hlt
        omega
      · have hbound := hreads' i hi
        omega

/-- The loop takes the blanks at the front for what they are if there are none, if the chunk has one
    character, or if the places which it looks at show them. -/
theorem leads_iff {k : Nat} (hk : k ≤ len) (hbefore : ∀ j, j < k → is_blank (data (p + 2 * j)) = true)
    (hat : k < len → is_blank (data (p + 2 * k)) = false) :
    (LeadingBlanks data p len k ∧ ∀ j, j ≤ k → j < len → 2 * j < len) ↔
      ∃ lead, LeadingBlanks data p len lead ∧ (lead = 0 ∨ len = 1 ∨ ShowsLead data p len lead) := by
  constructor
  · rintro ⟨hlead, hlooks⟩
    refine ⟨k, hlead, ?_⟩
    by_cases hlt : k < len
    · exact .inr (.inr ⟨hlooks k (Nat.le_refl _) hlt, hbefore, hat hlt⟩)
    · have hprev := hlooks (len - 1) (by omega)
      omega
  · rintro ⟨lead, hlead, rfl | rfl | ⟨hlt, hshows, hstops⟩⟩
    · obtain rfl : k = 0 := by
        by_contra hne
        have hblank := hlead.stops (by omega)
        rw [hbefore 0 (by omega)] at hblank
        cases hblank
      exact ⟨hlead, fun j hj hlt => by omega⟩
    · refine ⟨⟨hk, fun j hj => ?_, fun hlt => ?_⟩, fun j _ hlt => by omega⟩
      · obtain rfl : j = 0 := by omega
        exact hbefore 0 hj
      · obtain rfl : k = 0 := by omega
        exact hat hlt
    · obtain rfl : k = lead := by
        obtain hless | heq | hmore := Nat.lt_trichotomy k lead
        · have hblank := hat (by omega)
          rw [hshows k hless] at hblank
          cases hblank
        · exact heq
        · rw [hbefore lead hmore] at hstops
          cases hstops
      exact ⟨hlead, fun j hj _ => by omega⟩

end Strip

/-- `trim` strips the padding if and only if the chunk has no blank at the front, is a single character,
    or every other character from the first on shows how many blanks there are. -/
theorem trim_strips_iff (data : Memory UInt8) (p len : Nat) :
    (StripsPadding data p len ↔
      ∃ lead, LeadingBlanks data p len lead ∧ (lead = 0 ∨ len = 1 ∨ ShowsLead data p len lead)) ∧
    trim data { p := some p, len } =
      (inArray (trim_traced data p len)).map fun chk => { p := some chk.1, len := chk.2 } := by
  obtain ⟨k, reads, hk, hfront, hbefore, hat, hreads⟩ := trim_front_traced_stops data len p 0
  exact ⟨(strips_iff hk hfront hat hreads).trans (leads_iff hk hbefore hat), trim_eq data p len⟩

namespace Sample

/-- A version behind two blanks. -/
def twoBlanks : Memory UInt8 :=
  Memory.store (fun _ => CR) 0 (ascii "  13")

end Sample

/-- Of two blanks in front of a value one is left. -/
theorem second_blank_left : ¬ ∀ (data : Memory UInt8) (p len : Nat), StripsPadding data p len := by
  intro h
  have htrim : trim_traced Sample.twoBlanks 0 4 = ((1, 3), [0, 2, 3]) := by decide
  have hfirst := (h Sample.twoBlanks 0 4).1.first
  rw [htrim] at hfirst
  exact absurd (hfirst (by decide)) (by decide)

end wsd
