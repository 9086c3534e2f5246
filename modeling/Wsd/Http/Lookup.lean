import Wsd.Http.Progress

namespace wsd

/-- The lines of a text up to the first empty one, each of which ends in CRLF; the first argument is what
    has been read of the first line. -/
def headLines : List UInt8 → List UInt8 → List (List UInt8)
  | line, c :: d :: rest =>
    if c = CR ∧ d = LF then
      if line = [] then [] else line :: headLines [] rest
    else
      headLines (line ++ [c]) (d :: rest)
  | _, _ => []

/-- The name of a header line, in front of its first colon. -/
def nameOf (line : List UInt8) : List UInt8 :=
  line.takeWhile (· ≠ COLON)

/-- The value of a header line, behind its first colon. -/
def valueOf (line : List UInt8) : Option (List UInt8) :=
  (line.dropWhile (· ≠ COLON)).tail?

/-- The value of a field: that of the last line which has the field's name, ignoring case. -/
def lookup (F : Field) (lines : List (List UInt8)) : Option (List UInt8) :=
  lines.findSomeRev? fun line => if SameName (nameOf line) F then valueOf line else none

/-- The request line of the received text, and its header lines. -/
def Skb.head (b : Skb) : List (List UInt8) :=
  headLines [] b.readable

def Skb.header (b : Skb) (F : Field) : Option (List UInt8) :=
  lookup F b.head.tail

/-- The characters which `http_header_tok` lets pass in a header line. -/
def is_header_line (line : List UInt8) : Bool :=
  (nameOf line).all is_rfc7230_header_field && (line.dropWhile (· ≠ COLON)).tail.all is_rfc7230_field_value

/-- The line whose value the parser stores in the field's slot: of the lines in front of the first which the
    tokeniser refuses, the last one whose name starts with the field's. -/
def taken (F : Field) (lines : List (List UInt8)) : Option (List UInt8) :=
  (lines.takeWhile is_header_line).findRev? fun line => decide (StartsName (nameOf line) F)

/-- The value in the field's slot: none of a line without a colon, and nothing where no line is taken. -/
def found (F : Field) (lines : List (List UInt8)) : Option (List UInt8) :=
  (taken F lines).elim (some []) valueOf

/-- What a slot holds of a header line's value: a wrapped length behind a name without a colon. -/
inductive Slot (data : Memory UInt8) : Option (List UInt8) → Chunk → Prop where
  | value {chk : Chunk} (hvalue : FieldValue data chk) : Slot data (some (chk.bytes data)) chk
  | wrapped {p len : Nat} (hlong : SKB_SIZE < len) : Slot data none { p := some p, len }

/-- Every other character, from the first on. -/
def everyOther : List UInt8 → List UInt8
  | c :: _ :: rest => c :: everyOther rest
  | rest => rest

/-- How many characters `trim` takes from the front of a value in front of a line end. -/
def rounds (value : List UInt8) : Nat :=
  ((everyOther (value ++ [CR, LF])).takeWhile is_blank).length

/-- What `trim` leaves of a value in front of a line end. -/
def trimmed (value : List UInt8) : List UInt8 :=
  (value.drop (rounds value)).rdropWhile is_blank

/-- The value which the handshake works with is the field's own, without its padding. -/
def Checked (F : Field) (lines : List (List UInt8)) (value : List UInt8) : Prop :=
  ∃ slot, found F lines = some slot ∧ trimmed slot = strip value

section Strip

variable {value : List UInt8}

theorem drop_length_takeWhile (p : UInt8 → Bool) (value : List UInt8) :
    value.drop (value.takeWhile p).length = value.dropWhile p := by
  have hsplit := @List.takeWhile_append_dropWhile _ p value
  calc value.drop (value.takeWhile p).length
      = (value.takeWhile p ++ value.dropWhile p).drop (value.takeWhile p).length := by rw [hsplit]
    _ = value.dropWhile p := List.drop_left ..

/-- Characters are taken from the front and from the end independently of each other. -/
theorem rdropWhile_drop (p : UInt8 → Bool) (n : Nat) (value : List UInt8) :
    (value.drop n).rdropWhile p = (value.rdropWhile p).drop n := by
  induction value using List.reverseRecOn with
  | nil => rw [List.drop_nil, List.rdropWhile_nil, List.drop_nil]
  | append_singleton value c ih =>
    rw [List.rdropWhile_concat]
    obtain hlt | hle := Nat.lt_or_ge value.length n
    · have hall : (value ++ [c]).drop n = [] := List.drop_of_length_le (by simpa using Nat.succ_le_of_lt hlt)
      rw [hall, List.rdropWhile_nil]
      split
      · exact (List.drop_of_length_le ((List.rdropWhile_prefix p value).length_le.trans hlt.le)).symm
      · exact hall.symm
    · rw [List.drop_append_of_le_length hle, List.rdropWhile_concat, ih]
      split
      · rfl
      · rw [List.drop_append_of_le_length hle]

theorem trimmed_eq (value : List UInt8) : trimmed value = (value.rdropWhile is_blank).drop (rounds value) :=
  rdropWhile_drop ..

theorem strip_eq (value : List UInt8) :
    strip value = (value.rdropWhile is_blank).drop (value.takeWhile is_blank).length := by
  rw [← rdropWhile_drop, drop_length_takeWhile]
  rfl

/-- `trim` strips a value if there are as many blanks at every other place from the first on as at the
    front, or nothing but blanks. -/
theorem trimmed_eq_strip_iff :
    trimmed value = strip value ↔
      rounds value = (value.takeWhile is_blank).length ∨ ∀ c ∈ value, is_blank c = true := by
  rw [trimmed_eq, strip_eq]
  constructor
  · intro hsame
    by_contra hnot
    rw [not_or, ← List.rdropWhile_eq_nil_iff] at hnot
    have hlead : (value.takeWhile is_blank).length < (value.rdropWhile is_blank).length := by
      by_contra hle
      have hstrip := strip_eq value
      rw [List.drop_of_length_le (Nat.not_lt.mp hle), strip, List.rdropWhile_eq_nil_iff] at hstrip
      have hall : ∀ c ∈ value, is_blank c = true := by
        rw [← @List.takeWhile_append_dropWhile _ is_blank value]
        intro c hc
        obtain hfront | hrest := List.mem_append.mp hc
        · exact List.mem_takeWhile_imp hfront
        · exact hstrip c hrest
      exact hnot.2 (List.rdropWhile_eq_nil_iff.mpr hall)
    have hlen := congrArg List.length hsame
    rw [List.length_drop, List.length_drop] at hlen
    exact hnot.1 (by omega)
  · rintro (hrounds | hall)
    · rw [hrounds]
    · rw [List.rdropWhile_eq_nil_iff.mpr hall, List.drop_nil, List.drop_nil]

end Strip

section Trim

variable {data : Memory UInt8} {p n : Nat}

theorem everyOther_window (data : Memory UInt8) (p n : Nat) :
    everyOther (data.window p n) = Memory.window (fun j => data (p + 2 * j)) 0 ((n + 1) / 2) := by
  induction n using Nat.twoStepInduction generalizing p with
  | zero => rfl
  | one => simp [Memory.window, everyOther]
  | more n ih =>
    have hhalf : (n + 2 + 1) / 2 = (n + 1) / 2 + 1 := by omega
    rw [hhalf, Memory.window_succ, Memory.window_succ, Memory.window_succ, everyOther, ih]
    congr 1
    refine Memory.window_congr fun k hk => ?_
    congr 1
    omega

theorem length_takeWhile_window {pred : UInt8 → Bool} {k : Nat} (hk : k < n)
    (hbefore : ∀ j, j < k → pred (data (p + j)) = true) (hat : pred (data (p + k)) = false) :
    ((data.window p n).takeWhile pred).length = k := by
  obtain ⟨rest, rfl⟩ := Nat.exists_eq_add_of_lt hk
  have hfront : ∀ c ∈ data.window p k, pred c = true := by
    intro c hc
    obtain ⟨i, hi, rfl⟩ := List.mem_iff_getElem.mp hc
    rw [Memory.getElem_window]
    exact hbefore i (by rwa [Memory.length_window] at hi)
  rw [Nat.add_assoc, Memory.window_add, Memory.window_succ, List.takeWhile_append_of_pos hfront,
    List.takeWhile_cons_of_neg (by simp [hat]), List.append_nil, Memory.length_window]

theorem window_trim_back (data : Memory UInt8) (p n : Nat) :
    data.window p (trim_back_traced data p n).1 = (data.window p n).rdropWhile is_blank := by
  induction n with
  | zero => rfl
  | succ n ih =>
    unfold trim_back_traced
    rw [Memory.window_add]
    simp only [Memory.window_succ, Memory.window_zero, blank_iff]
    split
    · rename_i hblank
      rw [List.rdropWhile_concat_pos _ _ _ hblank]
      exact ih
    · rename_i hblank
      rw [List.rdropWhile_concat_neg _ _ _ hblank, Memory.window_add, Memory.window_succ, Memory.window_zero]

/-- What `trim` leaves of a field value. -/
theorem FieldValue.trim {chk : Chunk} (h : FieldValue data chk) :
    ∃ chk', trim data chk = .ok chk' ∧ chk'.bytes data = trimmed (chk.bytes data) := by
  cases h with
  | absent => exact ⟨.null, rfl, rfl⟩
  | @line p n hlt hcr hlf =>
    obtain ⟨k, reads, hk, hfront, hbefore, hat, hreads⟩ := trim_front_traced_stops data n p 0
    obtain ⟨len, reads', hback, -, -, -, hreads'⟩ := trim_back_traced_stops data (p + k) (n - k)
    have hbound (j : Nat) (hj : j ≤ k) : p + 2 * j ≤ p + n + 1 := front_reads_le hcr hlf (by omega) hbefore hj
    have hrounds : rounds (data.window p n) = k := by
      have hline : data.window p n ++ [CR, LF] = data.window p (n + 2) := by
        rw [Memory.window_add, Memory.window_succ, Memory.window_succ, hcr, hlf, Memory.window_zero]
      have hlast := hbound k (Nat.le_refl _)
      rw [rounds, hline, everyOther_window]
      refine length_takeWhile_window (by omega) (fun j hj => ?_) ?_
      · rw [Nat.zero_add]
        exact hbefore j hj
      · rw [Nat.zero_add]
        obtain hless | rfl := Nat.lt_or_eq_of_le hk
        · exact hat hless
        · obtain rfl | rfl : k = 0 ∨ k = 1 := by omega
          · exact congrArg is_blank hcr
          · exact congrArg is_blank hlf
    refine ⟨{ p := some (p + k), len }, ?_, ?_⟩
    · rw [trim_eq, trim_traced_eq hfront hback, inArray_ok]
      · rfl
      · intro i hi
        obtain hi | hi := List.mem_append.mp hi
        · obtain ⟨j, hj, -, rfl⟩ := (hreads i).mp hi
          have hin := hbound j hj
          rw [Nat.add_zero]
          omega
        · have hin := hreads' i hi
          omega
    · have hleft := window_trim_back data (p + k) (n - k)
      rw [hback] at hleft
      rw [Chunk.bytes, Chunk.bytes, Option.getD_some, Option.getD_some, trimmed, hrounds, Memory.drop_window _ hk]
      exact hleft

theorem trim_front_place {len p i len' p' : Nat} (h : trim_front data len p i = .ok (len', p')) :
    p' = p ∨ p' ≤ SKB_SIZE := by
  induction len generalizing p i with
  | zero =>
    cases h
    exact .inl rfl
  | succ len ih =>
    unfold trim_front at h
    split at h
    · cases h
    split at h
    · obtain rfl | hle := ih h
      · exact .inr (by omega)
      · exact .inr hle
    · cases h
      exact .inl rfl

/-- A slot which can be trimmed holds a value, of which the characters in question are left. -/
theorem Slot.trim_inv {value : Option (List UInt8)} {chk chk' : Chunk} (h : Slot data value chk)
    (htrim : trim data chk = .ok chk') : ∃ text, value = some text ∧ chk'.bytes data = trimmed text := by
  cases h with
  | value hvalue =>
    obtain ⟨chk'', htrim', hbytes⟩ := hvalue.trim
    rw [htrim] at htrim'
    cases htrim'
    exact ⟨_, rfl, hbytes⟩
  | @wrapped p len hlong =>
    exfalso
    rw [trim, if_neg (by simp only; omega)] at htrim
    obtain ⟨⟨len0, p0⟩, hfront, htrim⟩ := Except.bind_eq_ok_iff.mp htrim
    obtain ⟨len', hback, -⟩ := Except.bind_eq_ok_iff.mp htrim
    have hsum : p0 + len0 = p + len := (trim_front_inv hfront).2
    obtain rfl | hin := trim_back_in hback
    · obtain rfl | hle := trim_front_place hfront
      · omega
      · omega
    · omega

end Trim

section Lines

variable {line text rest : List UInt8} {lines : List (List UInt8)}

/-- A line without a carriage return is cut off at its end. -/
theorem headLines_append (htext : CR ∉ text) :
    headLines line (text ++ CR :: LF :: rest) = if line ++ text = [] then [] else (line ++ text) :: headLines [] rest := by
  induction text generalizing line with
  | nil => simp [headLines]
  | cons c text ih =>
    rw [List.mem_cons, not_or] at htext
    have hstep : headLines line (c :: text ++ CR :: LF :: rest) =
        headLines (line ++ [c]) (text ++ CR :: LF :: rest) := by
      cases text with
      | nil => simp [headLines, Ne.symm htext.1]
      | cons d text => simp [headLines, Ne.symm htext.1]
    rw [hstep, ih htext.2]
    simp

/-- The first line of a text stands in front of a line end. -/
theorem headLines_cons_inv {first : List UInt8} (h : headLines line text = first :: lines) :
    first ≠ [] ∧ ∃ more rest, first = line ++ more ∧ text = more ++ CR :: LF :: rest := by
  induction text generalizing line with
  | nil => simp [headLines] at h
  | cons c text ih =>
    cases text with
    | nil => simp [headLines] at h
    | cons d rest =>
      rw [headLines] at h
      split at h
      · rename_i hend
        obtain ⟨rfl, rfl⟩ := hend
        split at h
        · cases h
        · rename_i hline
          cases h
          exact ⟨hline, [], rest, (List.append_nil _).symm, rfl⟩
      · obtain ⟨hne, more, after, rfl, htext⟩ := ih h
        exact ⟨hne, c :: more, after, by simp, by rw [htext, List.cons_append]⟩

theorem nameOf_append (h : COLON ∉ line) : nameOf (line ++ COLON :: rest) = line := by
  rw [nameOf, List.takeWhile_append_of_pos (by grind), List.takeWhile_cons_of_neg (by simp), List.append_nil]

theorem valueOf_append (h : COLON ∉ line) : valueOf (line ++ COLON :: rest) = some rest := by
  rw [valueOf, List.dropWhile_append_of_pos (by grind), List.dropWhile_cons_of_neg (by simp)]
  rfl

theorem nameOf_name (h : COLON ∉ line) : nameOf line = line :=
  List.takeWhile_eq_self_iff.mpr (by grind)

theorem valueOf_name (h : COLON ∉ line) : valueOf line = none := by
  rw [valueOf, List.dropWhile_eq_nil_iff.mpr (by grind)]
  rfl

/-- A line is a name alone, or has a value behind the first colon. -/
theorem line_cases (line : List UInt8) :
    COLON ∉ line ∨ ∃ name value, line = name ++ COLON :: value ∧ COLON ∉ name := by
  by_cases hcolon : COLON ∈ line
  · obtain ⟨name, value, hline, hname⟩ := List.eq_append_cons_of_mem hcolon
    exact .inr ⟨name, value, hline, hname⟩
  · exact .inl hcolon

theorem taken_refused {F : Field} (h : is_header_line line = false) : taken F (line :: lines) = none := by
  rw [taken, List.takeWhile_cons_of_neg (by simp [h])]
  rfl

/-- The first line is taken if no later one is. -/
theorem taken_cons {F : Field} (h : is_header_line line = true) :
    taken F (line :: lines) = (taken F lines).or (if StartsName (nameOf line) F then some line else none) := by
  unfold taken
  rw [List.takeWhile_cons_of_pos h, List.findRev?]
  cases List.findRev? _ _ with
  | none => simp
  | some later => rfl

end Lines

section Plain

variable {F : Field} {lines : List (List UInt8)} {value : List UInt8}

theorem lookup_cons (line : List UInt8) (lines : List (List UInt8)) :
    lookup F (line :: lines) = (lookup F lines).or (if SameName (nameOf line) F then valueOf line else none) := by
  unfold lookup
  rw [List.findSomeRev?]
  cases List.findSomeRev? _ _ <;> rfl

theorem exists_valueOf {line : List UInt8} (hcolon : COLON ∈ line) : ∃ value, valueOf line = some value := by
  obtain hno | ⟨name, value, rfl, hnot⟩ := line_cases line
  · exact absurd hcolon hno
  · exact ⟨value, valueOf_append hnot⟩

/-- In a header block which is tokenised as a whole, and in which the lines whose names start with the field's
    are the field's own, the parser takes the line which is looked up. -/
theorem lookup_eq_taken (hlines : ∀ line ∈ lines, is_header_line line = true ∧
      (StartsName (nameOf line) F → SameName (nameOf line) F ∧ COLON ∈ line)) :
    lookup F lines = (taken F lines).bind valueOf ∧ ∀ line, taken F lines = some line → (valueOf line).isSome = true := by
  induction lines with
  | nil => exact ⟨rfl, fun line hline => by cases hline⟩
  | cons line lines ih =>
    obtain ⟨hlookup, hsome⟩ := ih fun line hmem => hlines line (List.mem_cons_of_mem _ hmem)
    obtain ⟨hheader, hown⟩ := hlines line List.mem_cons_self
    rw [taken_cons hheader, lookup_cons, hlookup]
    cases htaken : taken F lines with
    | some later =>
      obtain ⟨value, hvalue⟩ := Option.isSome_iff_exists.mp (hsome later htaken)
      simp [hvalue]
    | none =>
      by_cases hstarts : StartsName (nameOf line) F
      · obtain ⟨hname, hcolon⟩ := hown hstarts
        obtain ⟨value, hvalue⟩ := exists_valueOf hcolon
        simp [hstarts, hname, hvalue]
      · have hname : ¬ SameName (nameOf line) F := fun hsame => hstarts hsame.starts
        simp [hstarts, hname]

/-- In such a block the handshake works with the field's own value if `trim` takes the blanks at its front. -/
theorem Checked.of_plain (hlines : ∀ line ∈ lines, is_header_line line = true ∧
      (StartsName (nameOf line) F → SameName (nameOf line) F ∧ COLON ∈ line))
    (hlookup : lookup F lines = some value) (hrounds : rounds value = (value.takeWhile is_blank).length) :
    Checked F lines value := by
  obtain ⟨heq, -⟩ := lookup_eq_taken hlines
  rw [hlookup] at heq
  refine ⟨value, ?_, trimmed_eq_strip_iff.mpr (.inl hrounds)⟩
  unfold found
  cases htaken : taken F lines with
  | none =>
    rw [htaken] at heq
    cases heq
  | some line =>
    rw [htaken] at heq
    exact heq.symm

end Plain

section Step

variable {data : Memory UInt8} {p len : Nat} {line : List UInt8} {req req' : HttpReq} {rv : Int} {F : Field}

/-- The tokeniser cuts off a name without a colon as well. -/
theorem http_header_tok_name (hname : data.window p line.length = line)
    (hclass : ∀ c ∈ line, is_rfc7230_header_field c = true) (hcr : data (p + line.length) = CR)
    (hlf : data (p + line.length + 1) = LF) (hlt : p + line.length < SKB_SIZE) :
    http_header_tok data none (some p) =
      .ok (line.length, { p := some p, len := line.length }, some (p + line.length + 2), .WSD_CHECKERRNO) := by
  have hscan := scan_window hname hclass (by rw [hcr]; decide) hlt
  have hlen : p + line.length + 1 - p - 1 = line.length := by omega
  have hint : i32 line.length = line.length := i32_of_lt (by unfold SKB_SIZE at hlt; omega)
  have hcolon : CR ≠ COLON := by decide
  unfold http_header_tok
  simp only [Option.isNone_none, if_true, Option.isNone_some, Bool.false_eq_true, if_false, hscan, Except.ok_bind,
    Nat.add_sub_cancel, hcr, hlf, ne_eq, hcolon, not_false_eq_true, Except.pure_eq_ok, and_self, hlen, hint]

/-- A header line is cut off as a whole. -/
theorem http_header_tok_header_line (hline : is_header_line line = true) (hbytes : data.window p line.length = line)
    (hcr : data (p + line.length) = CR) (hlf : data (p + line.length + 1) = LF) (hlt : p + line.length < SKB_SIZE) :
    ∃ tok prev e, http_header_tok data none (some p) = .ok (line.length, tok, prev, e) := by
  rw [is_header_line, Bool.and_eq_true, List.all_eq_true, List.all_eq_true] at hline
  obtain ⟨hname, hvalue⟩ := hline
  obtain hcolon | ⟨name, value, rfl, hcolon⟩ := line_cases line
  · rw [nameOf_name hcolon] at hname
    exact ⟨_, _, _, http_header_tok_name hbytes hname hcr hlf hlt⟩
  · rw [nameOf_append hcolon] at hname
    have htail : (name ++ COLON :: value).dropWhile (· ≠ COLON) = COLON :: value := by
      rw [List.dropWhile_append_of_pos (by grind), List.dropWhile_cons_of_neg (by simp)]
    rw [htail] at hvalue
    have hlen : (name ++ COLON :: value).length = name.length + (value.length + 1) := by
      rw [List.length_append, List.length_cons]
    rw [hlen] at hbytes hcr hlf hlt ⊢
    exact ⟨_, _, _, http_header_tok_line ⟨hname, hbytes, hlt⟩ hvalue hcr hlf⟩

/-- A tokenised line is a name, or a header line of a name, a colon and a value. -/
theorem Tokenised.cases (h : Tokenised data p len) :
    (∀ c ∈ data.window p len, is_rfc7230_header_field c = true) ∨
      ∃ name value, FieldLine data p name value ∧ len = name.length + (value.length + 1) ∧
        ∀ c ∈ value, is_rfc7230_field_value c = true := by
  have hmem (q n : Nat) (c : UInt8) (hc : c ∈ data.window q n) : ∃ i, i < n ∧ c = data (q + i) := by
    obtain ⟨i, hi, rfl⟩ := List.mem_iff_getElem.mp hc
    exact ⟨i, by rwa [Memory.length_window] at hi, Memory.getElem_window ..⟩
  have hlt := h.lt
  cases h.line with
  | name hname =>
    refine .inl fun c hc => ?_
    obtain ⟨i, hi, rfl⟩ := hmem p len c hc
    exact hname i hi
  | field colon hcolon hname hat hvalue =>
    have hsum : len = colon + ((len - (colon + 1)) + 1) := by omega
    refine .inr ⟨data.window p colon, data.window (p + (colon + 1)) (len - (colon + 1)), ⟨fun c hc => ?_, ?_, ?_⟩, ?_,
      fun c hc => ?_⟩
    · obtain ⟨i, hi, rfl⟩ := hmem p colon c hc
      exact hname i hi
    · rw [Memory.length_window, Memory.length_window, Memory.window_add, Memory.window_succ, hat]
      rfl
    · rw [Memory.length_window, Memory.length_window]
      omega
    · rw [Memory.length_window, Memory.length_window]
      exact hsum
    · obtain ⟨i, hi, rfl⟩ := hmem _ _ c hc
      rw [Nat.add_assoc]
      exact hvalue (colon + 1 + i) (by omega) (by omega)

theorem colon_not_mem_name (h : ∀ c ∈ line, is_rfc7230_header_field c = true) : COLON ∉ line :=
  fun hcolon => absurd (h _ hcolon) (by decide)

theorem Tokenised.is_header_line (h : Tokenised data p len) : is_header_line (data.window p len) = true := by
  rw [wsd.is_header_line, Bool.and_eq_true, List.all_eq_true, List.all_eq_true]
  obtain hname | ⟨name, value, hline, rfl, hvalue⟩ := h.cases
  · have hcolon := colon_not_mem_name hname
    rw [nameOf_name hcolon, List.dropWhile_eq_nil_iff.mpr (by grind)]
    exact ⟨hname, by simp⟩
  · have hcolon := colon_not_mem_name hline.name_class
    rw [hline.bytes, nameOf_append hcolon, List.dropWhile_append_of_pos (by grind),
      List.dropWhile_cons_of_neg (by simp)]
    exact ⟨hline.name_class, hvalue⟩

/-- The parser stores a value in the slot of the field with whose name the line's name starts. -/
theorem parse_header_field_slot {name : List UInt8} {cur : Nat} (hname : data.window p name.length = name)
    (hstop : data (p + name.length) = COLON ∨ data (p + name.length) = CR)
    (hscan : skip_while (fun c => c != COLON) data (SKB_SIZE - p) p = .ok cur) (hF : F ≠ .connection)
    (hparse : parse_header_field data { p := some p, len } req = .ok (rv, req')) :
    if StartsName name F then F.slot req' = { p := some (p + (cur - p)), len := u32 (len + 4294967296 - (cur - p)) }
    else F.slot req' = F.slot req := by
  rw [parse_header_field_eq req rfl hscan] at hparse
  split
  · rename_i hstarts
    rw [(field_at_eq_some_iff hname hstop).mpr hstarts] at hparse
    cases hparse
    exact F.slot_assign_self hF _ req
  · rename_i hstarts
    cases hfield : field_at data p with
    | none =>
      rw [hfield] at hparse
      cases hparse
      rfl
    | some G =>
      rw [hfield] at hparse
      cases hparse
      refine Field.slot_assign_of_ne hF (fun hsame => ?_) _ req
      exact hstarts ((field_at_eq_some_iff hname hstop).mp (hsame ▸ hfield))

/-- What the parser stores of a tokenised line is the line's value. -/
theorem Tokenised.slot (h : Tokenised data p len) (hend : p + len + 1 < SKB_SIZE) (hF : F ≠ .connection)
    (hparse : parse_header_field data { p := some p, len } req = .ok (rv, req')) :
    if StartsName (nameOf (data.window p len)) F then Slot data (valueOf (data.window p len)) (F.slot req')
    else F.slot req' = F.slot req := by
  have hsize : 2 * SKB_SIZE < 4294967296 := by decide
  obtain hname | ⟨name, value, hline, rfl, -⟩ := h.cases
  · have hcolon := colon_not_mem_name hname
    have hscan : ∃ cur, skip_while (fun c => c != COLON) data (SKB_SIZE - p) p = .ok cur := by
      unfold parse_header_field at hparse
      obtain ⟨cur, hcur, -⟩ := Except.bind_eq_ok_iff.mp hparse
      exact ⟨cur, hcur⟩
    obtain ⟨cur, hscan⟩ := hscan
    have hlen := Memory.length_window data p len
    have hslot := @parse_header_field_slot data p len req req' rv F (data.window p len) cur (by rw [hlen])
      (by rw [hlen]; exact .inr h.cr) hscan hF hparse
    rw [nameOf_name hcolon, valueOf_name hcolon]
    split
    · rename_i hstarts
      rw [if_pos hstarts] at hslot
      rw [hslot]
      -- The colon which is found stands behind the line's end.
      obtain ⟨n, hn, rfl, hbefore, hat⟩ := skip_while_inv hscan
      have hbehind : len ≤ n := by
        by_contra hin
        have hmem : data (p + n) ∈ data.window p len :=
          List.mem_iff_getElem.mpr ⟨n, by rw [hlen]; omega, Memory.getElem_window ..⟩
        rw [colon_not_name (hname _ hmem)] at hat
        cases hat
      refine .wrapped ?_
      unfold u32
      omega
    · rename_i hstarts
      rwa [if_neg hstarts] at hslot
  · have hcolon := colon_not_mem_name hline.name_class
    have hslot := parse_header_field_slot hline.name_eq (.inl hline.rest_eq.1) hline.scan hF hparse
    have hused : p + name.length + 1 - p = name.length + 1 := by omega
    have hleft : u32 (name.length + (value.length + 1) + 4294967296 - (name.length + 1)) = value.length := by
      unfold u32
      omega
    rw [hused, hleft] at hslot
    rw [hline.bytes, nameOf_append hcolon, valueOf_append hcolon]
    split
    · rename_i hstarts
      rw [if_pos hstarts] at hslot
      have hsum : p + (name.length + 1) + value.length = p + (name.length + (value.length + 1)) := by omega
      have hfield : FieldValue data (F.slot req') := by
        rw [hslot]
        exact .line (by omega) (hsum ▸ h.cr) (hsum ▸ h.lf)
      have hvalue : (F.slot req').bytes data = value := by
        rw [hslot]
        exact hline.value_bytes
      exact hvalue ▸ .value hfield
    · rename_i hstarts
      rwa [if_neg hstarts] at hslot

end Step

section Walk

variable {data : Memory UInt8} {p n r : Nat} {req : HttpReq} {e : WalkEnd} {F : Field}

/-- The tokeniser does not stop at a header line which has at least one character. -/
theorem stops_at {prev : Option Nat} {rv : Int} {tok : Chunk} {wsd_errno : Errno} {line : List UInt8}
    {lines : List (List UInt8)} (hsize : p + n ≤ SKB_SIZE) (hlines : headLines [] (data.window p n) = line :: lines)
    (htok : http_header_tok data none (some p) = .ok (rv, tok, prev, wsd_errno)) (hrv : ¬ 0 < rv) :
    is_header_line line = false := by
  rw [← Bool.not_eq_true]
  intro hline
  obtain ⟨hne, more, rest, rfl, htext⟩ := headLines_cons_inv hlines
  obtain ⟨hlen, hbytes, hcr, hrest⟩ := window_split htext
  rw [List.length_cons] at hlen
  rw [List.length_cons, Memory.window_succ] at hrest
  obtain ⟨tok', prev', e', htok'⟩ :=
    http_header_tok_header_line hline hbytes hcr (List.cons.inj hrest).1 (by omega)
  rw [htok'] at htok
  cases htok
  have hpos := List.length_pos_iff.mpr hne
  omega

section Ends

variable {len : Nat} (hpos : 0 < len) (hne : ∀ i, i < len → data (p + i) ≠ CR) (hlf : data (p + len + 1) = LF)

include hpos hne hlf

/-- A line which ends in CRLF is the first of the text's lines. -/
theorem headLines_window (hcr : data (p + len) = CR) (hn : len + 2 ≤ n) :
    headLines [] (data.window p n) = data.window p len :: headLines [] (data.window (p + len + 2) (n - (len + 2))) := by
  have hmem : CR ∉ data.window p len := by
    intro hmem
    obtain ⟨i, hi, hat⟩ := List.mem_iff_getElem.mp hmem
    rw [Memory.length_window] at hi
    rw [Memory.getElem_window] at hat
    exact hne i hi hat
  have hsplit : data.window p n =
      data.window p len ++ CR :: LF :: data.window (p + len + 2) (n - (len + 2)) := by
    have hsum : n = len + ((n - (len + 2)) + 1 + 1) := by omega
    calc data.window p n
        = data.window p (len + ((n - (len + 2)) + 1 + 1)) := by rw [← hsum]
      _ = _ := by rw [Memory.window_add, Memory.window_succ, Memory.window_succ, hcr, hlf]
  have hnil : [] ++ data.window p len ≠ [] := by
    rw [List.nil_append]
    exact mt window_eq_nil.mp (Nat.ne_of_gt hpos)
  rw [hsplit, headLines_append hmem, if_neg hnil, List.nil_append]

/-- The next line starts in front of the end of the header block. -/
theorem LineStart.behind (h : LineStart r p) (hrnrn : Rnrn data r) :
    LineStart r (p + len + 2) ∧ p + len + 2 ≤ r + 2 := by
  have hnext := h.next hrnrn (Nat.ne_of_gt hpos) (fun e hle hcr => ?_) hlf
  · refine ⟨hnext, ?_⟩
    obtain hle | heq := hnext
    · omega
    · omega
  · by_contra hbefore
    obtain ⟨i, rfl⟩ := Nat.exists_eq_add_of_le hle
    exact hne i (by omega) hcr

end Ends

/-- The walk over the header block leaves in a field's slot the value of the line which is taken. -/
theorem HeaderWalk.slot (h : HeaderWalk data req (some p) e) (hrnrn : Rnrn data r) (hstart : LineStart r p)
    (hn : r + 4 ≤ p + n) (hsize : p + n ≤ SKB_SIZE) (hF : F ≠ .connection) :
    (taken F (headLines [] (data.window p n))).elim (F.slot e.hreq = F.slot req)
      fun line => Slot data (valueOf line) (F.slot e.hreq) := by
  generalize hprev : some p = prev at h
  induction h generalizing p n with
  | stop htok hrv =>
    subst hprev
    cases hlines : headLines [] (data.window p n) with
    | nil => rfl
    | cons line lines =>
      rw [taken_refused (stops_at hsize hlines htok hrv)]
      rfl
  | @field req req' prev prev' rv rv' tok wsd_errno e htok hrv hparse hrv' hrest ih =>
    subst hprev
    obtain ⟨hneg, -⟩ | ⟨len, rfl, rfl, rfl, hline⟩ := http_header_tok_inv htok
    · omega
    have hpos : 0 < len := by omega
    have hlt := hrnrn.lt
    obtain ⟨hnext, hend⟩ := LineStart.behind hpos (fun i hi => hline.ne_cr hi) hline.lf hstart hrnrn
    have hlater := @ih (p + len + 2) (n - (len + 2)) hnext (by omega) (by omega) rfl
    have hslot := hline.slot (by omega) hF hparse
    rw [headLines_window hpos (fun i hi => hline.ne_cr hi) hline.lf hline.cr (by omega), taken_cons hline.is_header_line]
    cases htaken : taken F (headLines [] (data.window (p + len + 2) (n - (len + 2)))) with
    | some line =>
      rw [htaken] at hlater
      exact hlater
    | none =>
      rw [htaken] at hlater
      rw [Option.elim_none] at hlater
      rw [Option.none_or, hlater]
      split
      · rename_i hstarts
        rwa [if_pos hstarts] at hslot
      · rename_i hstarts
        rwa [if_neg hstarts] at hslot

end Walk

section Request

variable {sk : Sk} {st : Statics} {tok : Chunk} {line hreq : HttpReq} {prev : Option Nat}

/-- The request line is the first line of the received text, and the header block is what follows. -/
theorem RequestLine.head (h : RequestLine sk st tok line prev) (hok : sk.recvbuf.Ok)
    (hrnrn : has_rnrn_termination sk.recvbuf = true) :
    ∃ p n r, prev = some p ∧ Rnrn sk.recvbuf.data r ∧ LineStart r p ∧ r + 4 ≤ p + n ∧ p + n ≤ SKB_SIZE ∧
      sk.recvbuf.head = tok.bytes sk.recvbuf.data :: headLines [] (sk.recvbuf.data.window p n) := by
  obtain ⟨rv, e1, rv', line', e2, htok, hrv, hparse, hrv', -⟩ := h
  obtain ⟨len, rfl, rfl, hlt, hclass, hcr, hlf⟩ := http_header_tok_start_inv htok hrv
  obtain ⟨r, hle, hend, hterminated⟩ := has_rnrn_inv hok hrnrn
  have hpos : 0 < len := by
    apply Nat.pos_of_ne_zero
    rintro rfl
    cases hparse
    exact hrv' (by decide)
  have hne (i : Nat) (hi : i < len) : sk.recvbuf.data (sk.recvbuf.rdpos + i) ≠ CR := fun hat => by
    have hstart := hclass i hi
    rw [hat] at hstart
    exact absurd hstart (by decide)
  obtain ⟨hnext, hstop⟩ := LineStart.behind hpos hne hlf (.inl hle) hterminated
  have hsize := hok.wrpos_le
  refine ⟨_, sk.recvbuf.wrpos - sk.recvbuf.rdpos - (len + 2), r, rfl, hterminated, hnext, by omega, by omega, ?_⟩
  have hfit : len + 2 ≤ sk.recvbuf.wrpos - sk.recvbuf.rdpos := by omega
  exact headLines_window hpos hne hlf hcr hfit

/-- The request line sets no header field. -/
theorem RequestLine.slot (h : RequestLine sk st tok line prev) (F : Field) : F.slot line = .null := by
  obtain ⟨rv, e1, rv', line', e2, -, -, hparse, -, hvalid⟩ := h
  have hvalues : line.values = ({} : HttpReq).values := by
    rw [(is_valid_req_line_inv hvalid).1, ← parse_request_line_values hparse]
    rfl
  simp only [HttpReq.values, List.cons.injEq] at hvalues
  obtain ⟨hhost, hupgrade, hconn, -, hkey, hver, hproto, hext, horigin, hagent, -⟩ := hvalues
  cases F <;> assumption

/-- The slots of a parsed request hold the values of the lines which are taken. -/
theorem Parsed.slot (h : Parsed sk st tok line hreq) (hok : sk.recvbuf.Ok)
    (hrnrn : has_rnrn_termination sk.recvbuf = true) {F : Field} (hF : F ≠ .connection) :
    Slot sk.recvbuf.data (found F sk.recvbuf.head.tail) (F.slot hreq) := by
  obtain ⟨prev, e, hline, hwalk, rfl⟩ := h
  obtain ⟨p, n, r, rfl, hterminated, hstart, hn, hsize, hhead⟩ := hline.head hok hrnrn
  have hslot := hwalk.slot hterminated hstart hn hsize hF
  rw [hhead, List.tail_cons, found]
  cases htaken : taken F (headLines [] (sk.recvbuf.data.window p n)) with
  | none =>
    rw [htaken] at hslot
    rw [Option.elim_none] at hslot ⊢
    rw [hslot, hline.slot F]
    exact .value .absent
  | some line =>
    rw [htaken] at hslot
    exact hslot

end Request

end wsd
