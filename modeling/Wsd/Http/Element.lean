import Mathlib.Data.List.DropRight
import Wsd.Http.Name
import Wsd.Http.Trim

namespace wsd

/-- The elements of a field value. -/
def elements (value : List UInt8) : List (List UInt8) :=
  value.splitOn COMMA

/-- The elements of a field value in front of the first empty one. -/
def scanned (value : List UInt8) : List (List UInt8) :=
  (elements value).takeWhile fun element => !element.isEmpty

/-- An element without the blanks around it. -/
def strip (element : List UInt8) : List UInt8 :=
  (element.dropWhile is_blank).rdropWhile is_blank

/-- The stripped element is the word, ignoring case. -/
def IsWord (word element : List UInt8) : Prop :=
  (strip element).map tolower = word.map tolower

/-- The element starts with the word, ignoring case, behind at most one blank. -/
def StartsWord (word element : List UInt8) : Prop :=
  word.map tolower <+: element.map tolower ∨
    ∃ c rest, element = c :: rest ∧ is_blank c = true ∧ word.map tolower <+: rest.map tolower

/-- A word which is looked for: neither blanks nor separators are in it. -/
structure Word (word : List UInt8) : Prop where
  two_le : 2 ≤ word.length
  plain : ∀ c ∈ word, tolower c ∉ [SPACE, TAB, COMMA, CR]

/-- A field value as the header tokeniser leaves it: none, or one in front of a line end inside
    the array. -/
inductive FieldValue (data : Memory UInt8) : Chunk → Prop where
  | absent : FieldValue data .null
  | line {p len : Nat} (hlt : p + len + 1 < SKB_SIZE) (hcr : data (p + len) = CR) (hlf : data (p + len + 1) = LF) :
      FieldValue data { p := some p, len }

/-- An element which the value's tokeniser has cut off. -/
structure Element (data : Memory UInt8) (p n : Nat) : Prop where
  ne_zero : n ≠ 0
  ends : data (p + n) = COMMA ∨ data (p + n) = CR
  within : ∃ e, p + n ≤ e ∧ e + 1 < SKB_SIZE ∧ data e = CR ∧ data (e + 1) = LF

instance (word element : List UInt8) : Decidable (IsWord word element) :=
  inferInstanceAs (Decidable ((strip element).map tolower = word.map tolower))

instance (word element : List UInt8) : Decidable (StartsWord word element) :=
  decidable_of_iff (word.map tolower <+: element.map tolower ∨
    element.head?.any is_blank = true ∧ word.map tolower <+: element.tail.map tolower)
    (by cases element <;> simp [StartsWord])

section Trim

variable {data : Memory UInt8} {p n : Nat}

/-- `trim` finishes for every element. -/
theorem Element.trim (h : Element data p n) :
    ∃ k len, k ≤ n ∧ trim data { p := some p, len := n } = .ok { p := some (p + k), len } ∧
      (∀ j, j < k → is_blank (data (p + 2 * j)) = true) ∧ (k < n → is_blank (data (p + 2 * k)) = false) := by
  obtain ⟨e, hle, hlt, hcr, hlf⟩ := h.within
  obtain ⟨k, len, hk, -, htrim, hbefore, hat⟩ := trim_line hle hlt hcr hlf
  exact ⟨k, len, hk, htrim, hbefore, hat⟩

end Trim

section Compare

variable {data : Memory UInt8} {p n q : Nat} {word : List UInt8}

/-- Where the word is found, there is neither a blank nor a separator. -/
theorem Word.at (hword : Word word) (h : (data.window q word.length).map tolower = word.map tolower) {j : Nat}
    (hj : j < word.length) : is_blank (data (q + j)) = false ∧ data (q + j) ≠ COMMA ∧ data (q + j) ≠ CR := by
  have hchar : tolower (data (q + j)) = tolower word[j] := by
    have hget := congrArg (fun bytes => bytes[j]?) h
    simpa [List.getElem?_eq_getElem, hj] using hget
  have hplain := hword.plain word[j] (List.getElem_mem hj)
  rw [← hchar] at hplain
  refine ⟨?_, ?_, ?_⟩
  · cases hblank : is_blank (data (q + j)) with
    | false => rfl
    | true =>
      obtain heq | heq := (blank_iff _).2 hblank
      · rw [heq] at hplain
        exact absurd hplain (by decide)
      · rw [heq] at hplain
        exact absurd hplain (by decide)
  · intro heq
    rw [heq] at hplain
    exact absurd hplain (by decide)
  · intro heq
    rw [heq] at hplain
    exact absurd hplain (by decide)

theorem prefix_window_iff :
    word.map tolower <+: (data.window p n).map tolower ↔
      word.length ≤ n ∧ (data.window p word.length).map tolower = word.map tolower := by
  constructor
  · intro h
    have hle := h.length_le
    rw [List.length_map, List.length_map, Memory.length_window] at hle
    have htake := List.prefix_iff_eq_take.1 h
    rw [List.length_map, ← List.map_take, Memory.take_window _ hle] at htake
    exact ⟨hle, htake.symm⟩
  · rintro ⟨hle, hsame⟩
    rw [List.prefix_iff_eq_take, List.length_map, ← List.map_take, Memory.take_window _ hle, hsame]

/-- The comparison behind what the first loop of `trim` takes: had it taken two characters, a blank
    would stand inside the word. -/
theorem Element.word_iff (h : Element data p n) (hword : Word word) {k : Nat} (hk : k ≤ n)
    (hbefore : ∀ j, j < k → is_blank (data (p + 2 * j)) = true)
    (hat : k < n → is_blank (data (p + 2 * k)) = false) :
    (data.window (p + k) word.length).map tolower = word.map tolower ↔ StartsWord word (data.window p n) := by
  have htwo := hword.two_le
  constructor
  · intro hsame
    have hfit : k + word.length ≤ n := by
      by_contra hnot
      obtain ⟨-, hcomma, hcr⟩ := @Word.at _ _ _ hword hsame (n - k) (by omega)
      rw [show p + k + (n - k) = p + n by omega] at hcomma hcr
      obtain hend | hend := h.ends
      · exact hcomma hend
      · exact hcr hend
    have hone : k ≤ 1 := by
      by_contra hnot
      obtain ⟨m, heven | hodd⟩ : ∃ m, k = 2 * m ∨ k = 2 * m + 1 := ⟨k / 2, by omega⟩
      · obtain ⟨hblank, -⟩ := @Word.at _ _ _ hword hsame 0 (by omega)
        have hearlier := hbefore m (by omega)
        rw [show p + 2 * m = p + k + 0 by omega, hblank] at hearlier
        cases hearlier
      · obtain ⟨hblank, -⟩ := @Word.at _ _ _ hword hsame 1 (by omega)
        have hearlier := hbefore (m + 1) (by omega)
        rw [show p + 2 * (m + 1) = p + k + 1 by omega, hblank] at hearlier
        cases hearlier
    obtain rfl | rfl : k = 0 ∨ k = 1 := by omega
    · exact .inl (prefix_window_iff.2 ⟨by omega, hsame⟩)
    · obtain ⟨n, rfl⟩ : ∃ m, n = m + 1 := ⟨n - 1, by omega⟩
      exact .inr ⟨data p, data.window (p + 1) n, Memory.window_succ .., hbefore 0 (by omega),
        prefix_window_iff.2 ⟨by omega, hsame⟩⟩
  · rintro (hstart | ⟨c, rest, hbytes, hblank, hstart⟩)
    · obtain ⟨hle, hsame⟩ := prefix_window_iff.1 hstart
      obtain ⟨hblank, -⟩ := @Word.at _ _ _ hword hsame 0 (by omega)
      have hzero : k = 0 := by
        by_contra hpos
        have hfirst := hbefore 0 (by omega)
        rw [show p + 2 * 0 = p + 0 from rfl, hblank] at hfirst
        cases hfirst
      rw [hzero]
      exact hsame
    · obtain ⟨n, rfl⟩ : ∃ m, n = m + 1 := Nat.exists_eq_succ_of_ne_zero h.ne_zero
      rw [Memory.window_succ, List.cons.injEq] at hbytes
      obtain ⟨rfl, rfl⟩ := hbytes
      obtain ⟨hle, hsame⟩ := prefix_window_iff.1 hstart
      obtain ⟨hsecond, -⟩ := @Word.at _ _ _ hword hsame 1 (by omega)
      have hone : k = 1 := by
        by_contra hnot
        obtain rfl | hmore : k = 0 ∨ 2 ≤ k := by omega
        · have hfirst := hat (by omega)
          rw [show p + 2 * 0 = p from rfl, hblank] at hfirst
          cases hfirst
        · have hthird := hbefore 1 (by omega)
          rw [show p + 2 * 1 = p + 1 + 1 by omega, hsecond] at hthird
          cases hthird
      rw [hone]
      exact hsame

/-- The comparison with a trimmed element. -/
theorem Element.compare (h : Element data p n) (hword : Word word) :
    ∃ chk found, wsd.trim data { p := some p, len := n } = .ok chk ∧
      compare_at (strncasecmp_eq data) chk.p word word.length = .ok found ∧
      (found = true ↔ StartsWord word (data.window p n)) := by
  obtain ⟨k, len, hk, htrim, hbefore, hat⟩ := h.trim
  refine ⟨_, strncasecmp_eq data (p + k) word word.length, htrim, ?_, ?_⟩
  · have htwo := hword.two_le
    unfold compare_at
    rw [if_neg (by omega)]
  · rw [strncasecmp_eq_iff, h.word_iff hword hk hbefore hat]

end Compare

section Tokenise

variable {data : Memory UInt8} {p n len : Nat}

/-- The search for a comma stops behind the first one, or has used up the chunk. -/
theorem comma_loop_cases {fuel : Nat} (h : len ≤ fuel) :
    (∃ n, n < len ∧ comma_loop data fuel len p = .ok (true, { p := some (p + n + 1), len := len - n - 1 }) ∧
      data (p + n) = COMMA ∧ ∀ i, i < n → data (p + i) ≠ COMMA) ∨
    comma_loop data fuel len p = .ok (false, { p := some (p + len), len := 0 }) ∧
      ∀ i, i < len → data (p + i) ≠ COMMA := by
  induction fuel generalizing len p with
  | zero =>
    obtain rfl : len = 0 := by omega
    exact .inr ⟨rfl, fun i hi => by omega⟩
  | succ fuel ih =>
    cases len with
    | zero => exact .inr ⟨rfl, fun i hi => by omega⟩
    | succ len =>
      unfold comma_loop
      by_cases hcomma : data p = COMMA
      · rw [if_pos hcomma]
        exact .inl ⟨0, Nat.succ_pos len, rfl, hcomma, fun i hi => by omega⟩
      · rw [if_neg hcomma]
        have hfirst (m : Nat) (hrest : ∀ i, i < m → data (p + 1 + i) ≠ COMMA) (i : Nat) (hi : i < m + 1) :
            data (p + i) ≠ COMMA := by
          cases i with
          | zero => exact hcomma
          | succ i =>
            have hnext := hrest i (by omega)
            rwa [show p + 1 + i = p + (i + 1) by omega] at hnext
        obtain ⟨n, hn, hloop, hat, hbefore⟩ | ⟨hloop, hbefore⟩ := @ih (p + 1) len (by omega)
        · refine .inl ⟨n + 1, by omega, ?_, ?_, hfirst n hbefore⟩
          · rw [hloop]
            congr 4 <;> omega
          · rwa [show p + 1 + n = p + (n + 1) by omega] at hat
        · refine .inr ⟨?_, hfirst len hbefore⟩
          rw [hloop]
          congr 4
          omega

theorem comma_not_mem (h : ∀ i, i < n → data (p + i) ≠ COMMA) : COMMA ∉ data.window p n := by
  intro hmem
  obtain ⟨i, hi, hat⟩ := List.mem_iff_getElem.1 hmem
  rw [Memory.getElem_window] at hat
  rw [Memory.length_window] at hi
  exact h i hi hat

theorem scanned_nil : scanned [] = [] := rfl

/-- An element and the rest of the value behind its comma. -/
theorem scanned_comma {element value : List UInt8} (h : COMMA ∉ element) :
    scanned (element ++ COMMA :: value) = if element = [] then [] else element :: scanned value := by
  unfold scanned elements
  rw [List.splitOn_append_cons_self_of_not_mem h, List.takeWhile_cons]
  cases element <;> rfl

theorem scanned_last {element : List UInt8} (h : COMMA ∉ element) :
    scanned element = if element = [] then [] else [element] := by
  unfold scanned elements
  rw [List.splitOn_eq_singleton h, List.takeWhile_cons]
  cases element <;> rfl

theorem window_eq_nil : data.window p n = [] ↔ n = 0 := by
  rw [← List.length_eq_zero_iff, Memory.length_window]

theorem i32_pos {n : Nat} (h : n < SKB_SIZE) : 0 < i32 n ↔ n ≠ 0 := by
  rw [i32_of_lt (by unfold SKB_SIZE at h; omega)]
  omega

/-- One call of the tokeniser: it cuts off the first element, unless this is empty. -/
theorem field_value_tok_cases {s prev : Option Chunk} {cur : Chunk} (hvalue : FieldValue data cur)
    (hcur : (if s.isNone then prev else s) = some cur) (wsd_errno : Errno) :
    (∃ rv chk prev' errno', http_field_value_tok data s prev wsd_errno = .ok (rv, chk, prev', errno') ∧ ¬ 0 < rv ∧
      scanned (cur.bytes data) = []) ∨
    ∃ rv p n rest, http_field_value_tok data s prev wsd_errno =
        .ok (rv, { p := some p, len := n }, some rest, wsd_errno) ∧ 0 < rv ∧
      Element data p n ∧ FieldValue data rest ∧ rest.len < cur.len ∧
      scanned (cur.bytes data) = data.window p n :: scanned (rest.bytes data) := by
  unfold http_field_value_tok
  rw [hcur]
  simp only
  cases hvalue with
  | absent => exact .inl ⟨_, _, _, _, rfl, by decide, rfl⟩
  | @line p len hlt hcr hlf =>
    by_cases hzero : len = 0
    · subst hzero
      exact .inl ⟨_, _, _, _, rfl, by decide, rfl⟩
    rw [if_neg hzero]
    simp only [Chunk.bytes, Option.getD_some]
    obtain ⟨n, hn, hloop, hat, hbefore⟩ | ⟨hloop, hbefore⟩ := @comma_loop_cases data p len (SKB_SIZE - p) (by omega)
    · have hbytes : data.window p len = data.window p n ++ COMMA :: data.window (p + n + 1) (len - n - 1) := by
        rw [← hat, ← Memory.window_succ, ← Memory.window_add]
        congr 1
        omega
      have hlen : p + n + 1 - p - 1 = n := by omega
      simp only [hloop, Except.ok_bind, Except.pure_eq_ok, if_true, Option.getD_some, hlen]
      rw [hbytes, scanned_comma (comma_not_mem hbefore)]
      by_cases hempty : n = 0
      · exact .inl ⟨_, _, _, _, rfl, fun hpos => (i32_pos (by omega)).1 hpos hempty, if_pos (window_eq_nil.2 hempty)⟩
      · refine .inr ⟨_, p, n, _, rfl, (i32_pos (by omega)).2 hempty, ⟨hempty, .inl hat, p + len, by omega, hlt, hcr, hlf⟩,
          .line ?_ ?_ ?_, ?_, if_neg (mt window_eq_nil.1 hempty)⟩
        · omega
        · rwa [show p + n + 1 + (len - n - 1) = p + len by omega]
        · rwa [show p + n + 1 + (len - n - 1) = p + len by omega]
        · simp only
          omega
    · simp only [hloop, Except.ok_bind, Except.pure_eq_ok, Bool.false_eq_true, if_false]
      rw [scanned_last (comma_not_mem hbefore), if_neg (mt window_eq_nil.1 hzero)]
      exact .inr ⟨_, p, len, _, rfl, (i32_pos (by omega)).2 hzero, ⟨hzero, .inr hcr, p + len, Nat.le_refl _, hlt, hcr, hlf⟩,
        .line hlt hcr hlf, Nat.pos_of_ne_zero hzero, rfl⟩

end Tokenise

section Loops

variable {data : Memory UInt8} {cur : Chunk}

/-- A word is found in a value if one of the elements in front of the first empty one starts with it. -/
def Found (word value : List UInt8) : Prop :=
  ∃ element ∈ scanned value, StartsWord word element

theorem found_nil {word value : List UInt8} (h : scanned value = []) : ¬ Found word value := by
  rintro ⟨element, hmem, -⟩
  rw [h] at hmem
  cases hmem

theorem found_cons {word value rest element : List UInt8} (h : scanned value = element :: scanned rest) :
    Found word value ↔ StartsWord word element ∨ Found word rest := by
  unfold Found
  rw [h]
  simp only [List.mem_cons, exists_eq_or_imp]

/-- What a call over the elements of a field value answers. -/
def Answers (r : Except Fault (Bool × FieldTok)) (P : Prop) : Prop :=
  ∃ found st, r = .ok (found, st) ∧ (found = true ↔ P)

theorem word_websocket : Word (ascii "websocket") :=
  ⟨by decide, by decide +kernel⟩

theorem word_upgrade : Word (ascii "Upgrade") :=
  ⟨by decide, by decide +kernel⟩

theorem upgrade_loop_found {fuel : Nat} (hvalue : FieldValue data cur) (hfuel : cur.len < fuel) (st : FieldTok) :
    Answers (upgrade_loop data fuel cur st) (Found (ascii "websocket") (cur.bytes data)) := by
  induction fuel generalizing cur st with
  | zero => omega
  | succ fuel ih =>
    unfold upgrade_loop
    obtain ⟨rv, chk, prev', errno', htok, hrv, hnil⟩ | ⟨rv, p, n, rest, htok, hrv, helement, hrest, hless, hcons⟩ :=
      @field_value_tok_cases data (some cur) st.prev cur hvalue rfl st.wsd_errno
    · rw [htok]
      simp only [Except.ok_bind, if_neg hrv, Except.pure_eq_ok]
      exact ⟨false, _, rfl, iff_of_false (by decide) (found_nil hnil)⟩
    · obtain ⟨chk, found, htrim, hcompare, hfound⟩ := helement.compare word_websocket
      have hcompare' : compare_at (strncasecmp_eq data) chk.p (ascii "websocket") 9 = .ok found := hcompare
      rw [htok]
      simp only [Except.ok_bind, if_pos hrv, htrim, hcompare']
      cases found with
      | true => exact ⟨true, _, rfl, iff_of_true rfl ((found_cons hcons).2 (.inl (hfound.1 rfl)))⟩
      | false =>
        obtain ⟨found', st', hloop, hiff⟩ := ih hrest (by omega) { prev := some rest, wsd_errno := st.wsd_errno }
        refine ⟨found', st', hloop, hiff.trans ((found_cons hcons).trans ?_).symm⟩
        exact or_iff_right fun hstarts => Bool.false_ne_true (hfound.2 hstarts)

theorem Element.has_upgrade {p n : Nat} (h : Element data p n) :
    ∃ found, has_upgrade data { p := some p, len := n } = .ok found ∧
      (found = true ↔ StartsWord (ascii "Upgrade") (data.window p n)) := by
  obtain ⟨chk, found, htrim, hcompare, hfound⟩ := h.compare word_upgrade
  refine ⟨found, ?_, hfound⟩
  unfold wsd.has_upgrade
  rw [htrim]
  exact hcompare

theorem connection_loop_found {fuel : Nat} (hvalue : FieldValue data cur) (hfuel : cur.len < fuel) {st : FieldTok}
    (hprev : st.prev = some cur) :
    Answers (connection_loop data fuel st) (Found (ascii "Upgrade") (cur.bytes data)) := by
  induction fuel generalizing cur st with
  | zero => omega
  | succ fuel ih =>
    unfold connection_loop
    obtain ⟨rv, chk, prev', errno', htok, hrv, hnil⟩ | ⟨rv, p, n, rest, htok, hrv, helement, hrest, hless, hcons⟩ :=
      @field_value_tok_cases data none st.prev cur hvalue hprev st.wsd_errno
    · rw [htok]
      simp only [Except.ok_bind, if_neg hrv, Except.pure_eq_ok]
      exact ⟨false, _, rfl, iff_of_false (by decide) (found_nil hnil)⟩
    · obtain ⟨found, hhas, hfound⟩ := helement.has_upgrade
      rw [htok]
      simp only [Except.ok_bind, if_pos hrv, hhas]
      cases found with
      | true => exact ⟨true, _, rfl, iff_of_true rfl ((found_cons hcons).2 (.inl (hfound.1 rfl)))⟩
      | false =>
        obtain ⟨found', st', hloop, hiff⟩ := @ih rest hrest (by omega) { prev := some rest, wsd_errno := st.wsd_errno } rfl
        refine ⟨found', st', hloop, hiff.trans ((found_cons hcons).trans ?_).symm⟩
        exact or_iff_right fun hstarts => Bool.false_ne_true (hfound.2 hstarts)

theorem FieldValue.len_lt (h : FieldValue data cur) : cur.len < SKB_SIZE := by
  cases h with
  | absent => decide
  | line hlt hcr hlf =>
    simp only
    omega

theorem tokenise_connection_found (hvalue : FieldValue data cur) (st : FieldTok) :
    Answers (tokenise_connection data cur st) (Found (ascii "Upgrade") (cur.bytes data)) := by
  have hlt := hvalue.len_lt
  unfold tokenise_connection
  obtain ⟨rv, chk, prev', errno', htok, hrv, hnil⟩ | ⟨rv, p, n, rest, htok, hrv, helement, hrest, hless, hcons⟩ :=
    @field_value_tok_cases data (some cur) st.prev cur hvalue rfl st.wsd_errno
  · rw [htok]
    simp only [Except.ok_bind, if_neg hrv, Except.pure_eq_ok]
    exact ⟨false, _, rfl, iff_of_false (by decide) (found_nil hnil)⟩
  · obtain ⟨found, hhas, hfound⟩ := helement.has_upgrade
    rw [htok]
    simp only [Except.ok_bind, if_pos hrv, hhas]
    cases found with
    | true => exact ⟨true, _, rfl, iff_of_true rfl ((found_cons hcons).2 (.inl (hfound.1 rfl)))⟩
    | false =>
      obtain ⟨found', st', hloop, hiff⟩ := @connection_loop_found data rest (SKB_SIZE + 1) hrest (by omega)
        { prev := some rest, wsd_errno := st.wsd_errno } rfl
      refine ⟨found', st', hloop, hiff.trans ((found_cons hcons).trans ?_).symm⟩
      exact or_iff_right fun hstarts => Bool.false_ne_true (hfound.2 hstarts)

end Loops

section Listed

variable {word : List UInt8} {values : List (List UInt8)}

/-- Some element of the values is the word. -/
def Listed (word : List UInt8) (values : List (List UInt8)) : Prop :=
  ∃ value ∈ values, ∃ element ∈ elements value, IsWord word element

instance : Decidable (Listed word values) :=
  inferInstanceAs (Decidable (∃ value ∈ values, ∃ element ∈ elements value, IsWord word element))

/-- Neither an element which only starts with the word, nor one which stands behind an empty
    element or behind several blanks, makes a difference. -/
structure Unmistaken (word : List UInt8) (values : List (List UInt8)) : Prop where
  sound : (∃ value ∈ values, ∃ element ∈ scanned value, StartsWord word element ∧ ¬ IsWord word element) →
    Listed word values
  complete : Listed word values → ∃ value ∈ values, Found word value

theorem mem_of_mem_scanned {value element : List UInt8} (h : element ∈ scanned value) : element ∈ elements value :=
  (List.takeWhile_prefix _).subset h

theorem found_iff_listed : ((∃ value ∈ values, Found word value) ↔ Listed word values) ↔ Unmistaken word values := by
  constructor
  · intro h
    refine ⟨?_, h.2⟩
    rintro ⟨value, hvalue, element, hmem, hstarts, -⟩
    exact h.1 ⟨value, hvalue, element, hmem, hstarts⟩
  · intro h
    refine ⟨?_, h.complete⟩
    rintro ⟨value, hvalue, element, hmem, hstarts⟩
    by_cases hword : IsWord word element
    · exact ⟨value, hvalue, element, mem_of_mem_scanned hmem, hword⟩
    · exact h.sound ⟨value, hvalue, element, hmem, hstarts, hword⟩

/-- An element which is the word starts with it if at most one blank is in front of the word. -/
theorem IsWord.starts {element : List UInt8} (h : IsWord word element)
    (hblanks : (element.takeWhile is_blank).length ≤ 1) : StartsWord word element := by
  have hstart : word.map tolower <+: (element.dropWhile is_blank).map tolower := by
    rw [← h]
    exact (List.rdropWhile_prefix is_blank _).map tolower
  have hsplit := @List.takeWhile_append_dropWhile _ is_blank element
  cases hfront : element.takeWhile is_blank with
  | nil =>
    rw [hfront, List.nil_append] at hsplit
    rw [hsplit] at hstart
    exact .inl hstart
  | cons c front =>
    rw [hfront, List.length_cons] at hblanks
    obtain rfl : front = [] := List.eq_nil_of_length_eq_zero (by omega)
    rw [hfront, List.singleton_append] at hsplit
    refine .inr ⟨c, _, hsplit.symm, ?_, hstart⟩
    have hmem : c ∈ element.takeWhile is_blank := by simp [hfront]
    exact List.mem_takeWhile_imp hmem

/-- Values without empty elements, with at most one blank in front of each element and no element
    which continues the word. -/
theorem Unmistaken.of_plain (hne : word ≠ [])
    (h : ∀ value ∈ values, value = [] ∨ ∀ element ∈ elements value, element ≠ [] ∧
      (element.takeWhile is_blank).length ≤ 1 ∧ (StartsWord word element → IsWord word element)) :
    Unmistaken word values := by
  constructor
  · rintro ⟨value, hvalue, element, hmem, hstarts, hnot⟩
    obtain rfl | hplain := h value hvalue
    · rw [scanned_nil] at hmem
      cases hmem
    · exact absurd ((hplain element (mem_of_mem_scanned hmem)).2.2 hstarts) hnot
  · rintro ⟨value, hvalue, element, hmem, hword⟩
    obtain rfl | hplain := h value hvalue
    · have hnil : element = [] := by simpa [elements] using hmem
      rw [hnil] at hword
      exact absurd (List.map_eq_nil_iff.1 hword.symm) hne
    · have hall : scanned value = elements value := by
        refine List.takeWhile_eq_self_iff.2 fun e he => ?_
        simpa using (hplain e he).1
      exact ⟨value, hvalue, element, hall ▸ hmem, hword.starts (hplain element hmem).2.1⟩

end Listed

section Valid

variable {data : Memory UInt8} {hreq : HttpReq}

theorem Answers.iff {r : Except Fault (Bool × FieldTok)} {P Q : Prop} (h : Answers r P) : Answers r Q ↔ (P ↔ Q) := by
  obtain ⟨found, st, rfl, hP⟩ := h
  constructor
  · rintro ⟨found', st', hr, hQ⟩
    cases hr
    exact hP.symm.trans hQ
  · exact fun hPQ => ⟨found, st, rfl, hP.trans hPQ⟩

theorem is_valid_upgrade_found (hupgrade : FieldValue data hreq.upgrade) (st : FieldTok) :
    Answers (is_valid_upgrade_header_field data hreq st)
      (∃ value ∈ [hreq.upgrade.bytes data], Found (ascii "websocket") value) := by
  have hlt := hupgrade.len_lt
  obtain ⟨found, st', hloop, hfound⟩ := @upgrade_loop_found data hreq.upgrade (SKB_SIZE + 1) hupgrade (by omega) st
  refine ⟨found, st', hloop, hfound.trans ?_⟩
  simp only [List.mem_singleton, exists_eq_left]

theorem is_valid_connection_found (hconn : FieldValue data hreq.conn) (hconn2 : FieldValue data hreq.conn2)
    (st : FieldTok) :
    Answers (is_valid_connection_header_field data hreq st)
      (∃ value ∈ [hreq.conn.bytes data, hreq.conn2.bytes data], Found (ascii "Upgrade") value) := by
  have hpair : (∃ value ∈ [hreq.conn.bytes data, hreq.conn2.bytes data], Found (ascii "Upgrade") value) ↔
      Found (ascii "Upgrade") (hreq.conn.bytes data) ∨ Found (ascii "Upgrade") (hreq.conn2.bytes data) := by
    simp only [List.mem_cons, List.not_mem_nil, or_false, exists_eq_or_imp, exists_eq_left]
  obtain ⟨found, st1, hfirst, hfound⟩ := tokenise_connection_found hconn st
  unfold is_valid_connection_header_field
  rw [hfirst, hpair]
  simp only [Except.ok_bind]
  cases found with
  | true => exact ⟨true, st1, rfl, iff_of_true rfl (.inl (hfound.1 rfl))⟩
  | false =>
    obtain ⟨found2, st2, hsecond, hfound2⟩ := tokenise_connection_found hconn2 st1
    refine ⟨found2, st2, hsecond, hfound2.trans (or_iff_right fun hfirst => ?_).symm⟩
    exact Bool.false_ne_true (hfound.2 hfirst)

/-- The value of a tokenised line is a field value. -/
theorem Tokenised.field_value {start len colon : Nat} (h : Tokenised data start len) (hcolon : colon < len)
    (hend : start + len + 1 < SKB_SIZE) :
    FieldValue data { p := some (start + colon + 1), len := len - (colon + 1) } := by
  have hsum : start + colon + 1 + (len - (colon + 1)) = start + len := by omega
  refine .line ?_ ?_ ?_
  · rwa [hsum]
  · rw [hsum]
    exact h.cr
  · rw [hsum]
    exact h.lf

/-- Upgrade and Connection are matched as lists except for elements which only start with the word,
    and for those which stand behind an empty element or behind several blanks. -/
theorem field_lists_matched_iff (hupgrade : FieldValue data hreq.upgrade) (hconn : FieldValue data hreq.conn)
    (hconn2 : FieldValue data hreq.conn2) (st : FieldTok) :
    (Answers (is_valid_upgrade_header_field data hreq st) (Listed (ascii "websocket") [hreq.upgrade.bytes data]) ↔
      Unmistaken (ascii "websocket") [hreq.upgrade.bytes data]) ∧
    (Answers (is_valid_connection_header_field data hreq st)
        (Listed (ascii "Upgrade") [hreq.conn.bytes data, hreq.conn2.bytes data]) ↔
      Unmistaken (ascii "Upgrade") [hreq.conn.bytes data, hreq.conn2.bytes data]) :=
  ⟨(is_valid_upgrade_found hupgrade st).iff.trans found_iff_listed,
    (is_valid_connection_found hconn hconn2 st).iff.trans found_iff_listed⟩

end Valid

namespace Sample

def listing : Memory UInt8 :=
  (Skb.ofBytes (ascii "h2c, WebSocket\r\nkeep-alive, Upgrade\r\nwebsockets\r\n")).data

def listed : HttpReq :=
  { upgrade := { p := some 0, len := 14 }, conn := { p := some 16, len := 19 } }

def continued : HttpReq :=
  { upgrade := { p := some 37, len := 10 } }

theorem listed_upgrade : FieldValue listing listed.upgrade :=
  .line (by decide) (by decide +kernel) (by decide +kernel)

theorem listed_conn : FieldValue listing listed.conn :=
  .line (by decide) (by decide +kernel) (by decide +kernel)

theorem continued_upgrade : FieldValue listing continued.upgrade :=
  .line (by decide) (by decide +kernel) (by decide +kernel)

end Sample

/-- Two elements each, the second of which is the word. -/
theorem field_lists_matched_listed :
    Answers (is_valid_upgrade_header_field Sample.listing Sample.listed { prev := none, wsd_errno := .WSD_CHECKERRNO })
        (Listed (ascii "websocket") [Sample.listed.upgrade.bytes Sample.listing]) ∧
      Answers
        (is_valid_connection_header_field Sample.listing Sample.listed { prev := none, wsd_errno := .WSD_CHECKERRNO })
        (Listed (ascii "Upgrade") [Sample.listed.conn.bytes Sample.listing, Sample.listed.conn2.bytes Sample.listing]) := by
  obtain ⟨hupgrade, hconnection⟩ := field_lists_matched_iff Sample.listed_upgrade Sample.listed_conn .absent
    { prev := none, wsd_errno := .WSD_CHECKERRNO }
  exact ⟨hupgrade.2 (.of_plain (by decide) (by decide +kernel)),
    hconnection.2 (.of_plain (by decide) (by decide +kernel))⟩

/-- An element which continues the word is taken for it. -/
theorem websockets_matched :
    ¬ ∀ (data : Memory UInt8) (hreq : HttpReq) (st : FieldTok), FieldValue data hreq.upgrade →
      Answers (is_valid_upgrade_header_field data hreq st) (Listed (ascii "websocket") [hreq.upgrade.bytes data]) := by
  intro h
  have hfound := (is_valid_upgrade_found Sample.continued_upgrade { prev := none, wsd_errno := .WSD_CHECKERRNO }).iff.1
    (h _ _ _ Sample.continued_upgrade)
  have hlisted := hfound.1 ⟨_, List.mem_cons_self, ascii "websockets", by decide +kernel, by decide +kernel⟩
  exact absurd hlisted (by decide +kernel)

end wsd
