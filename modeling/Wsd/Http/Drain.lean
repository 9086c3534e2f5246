import Wsd.Http.Element

namespace wsd

/-- The chunks which a call with `s` and then calls with NULL return, up to the first negative result,
    behind which every further call with NULL fails in the same way. -/
inductive FieldValueDrains (data : Memory UInt8) : Option Chunk → Option Chunk → Errno → List Chunk → Prop
  | nil {s prev prev' : Option Chunk} {wsd_errno : Errno}
      (htok : http_field_value_tok data s prev wsd_errno = .ok (-1, .null, prev', .WSD_EINPUT))
      (hagain : ∀ errno, http_field_value_tok data none prev' errno = .ok (-1, .null, prev', .WSD_EINPUT)) :
      FieldValueDrains data s prev wsd_errno []
  | cons {s prev prev' : Option Chunk} {wsd_errno errno' : Errno} {chk : Chunk} {chks : List Chunk}
      (htok : http_field_value_tok data s prev wsd_errno = .ok (chk.len, chk, prev', errno'))
      (htail : FieldValueDrains data none prev' errno' chks) : FieldValueDrains data s prev wsd_errno (chk :: chks)

/-- The element which a trailing comma leaves behind it. -/
def trailing (value : List UInt8) : List (List UInt8) :=
  if value.getLast? = some COMMA then [[]] else []

section Elements

variable {element value : List UInt8}

theorem trailing_last (h : COMMA ∉ element) : trailing element = [] := by
  unfold trailing
  rw [if_neg]
  intro hlast
  exact h (List.mem_of_getLast? hlast)

theorem trailing_comma (h : value ≠ []) : trailing (element ++ COMMA :: value) = trailing value := by
  unfold trailing
  rw [List.getLast?_append_of_ne_nil _ (List.cons_ne_nil _ _), List.getLast?_cons_of_ne_nil h]

theorem trailing_only : trailing (element ++ [COMMA]) = [[]] := by
  unfold trailing
  rw [List.getLast?_append_of_ne_nil _ (List.cons_ne_nil _ _)]
  rfl

theorem elements_comma (h : COMMA ∉ element) : elements (element ++ COMMA :: value) = element :: elements value :=
  List.splitOn_append_cons_self_of_not_mem h _

theorem elements_last (h : COMMA ∉ element) : elements element = [element] :=
  List.splitOn_eq_singleton h

end Elements

section Drain

variable {data : Memory UInt8} {p len : Nat}

/-- One call which resumes: it fails if nothing is left of the chunk, or cuts off its first element. -/
theorem field_value_tok_resume (hin : p + len ≤ SKB_SIZE) (wsd_errno : Errno) :
    (len = 0 ∧ http_field_value_tok data none (some { p := some p, len }) wsd_errno =
      .ok (-1, .null, some { p := some p, len }, .WSD_EINPUT)) ∨
    (∃ n, n < len ∧ COMMA ∉ data.window p n ∧
      data.window p len = data.window p n ++ COMMA :: data.window (p + n + 1) (len - n - 1) ∧
      http_field_value_tok data none (some { p := some p, len }) wsd_errno =
        .ok (n, { p := some p, len := n }, some { p := some (p + n + 1), len := len - n - 1 }, wsd_errno)) ∨
    (len ≠ 0 ∧ COMMA ∉ data.window p len ∧
      http_field_value_tok data none (some { p := some p, len }) wsd_errno =
        .ok (len, { p := some p, len }, some { p := some (p + len), len := 0 }, wsd_errno)) := by
  by_cases hzero : len = 0
  · subst hzero
    exact .inl ⟨rfl, rfl⟩
  have hsmall {n : Nat} (hn : n ≤ len) : i32 n = n := i32_of_lt (by unfold SKB_SIZE at hin; omega)
  unfold http_field_value_tok
  simp only [Option.isNone_none, if_true, if_neg hzero]
  obtain ⟨n, hn, hloop, hat, hbefore⟩ | ⟨hloop, hbefore⟩ := @comma_loop_cases data p len (SKB_SIZE - p) (by omega)
  · have hbytes : data.window p len = data.window p n ++ COMMA :: data.window (p + n + 1) (len - n - 1) := by
      rw [← hat, ← Memory.window_succ, ← Memory.window_add]
      congr 1
      omega
    have hlen : p + n + 1 - p - 1 = n := by omega
    refine .inr (.inl ⟨n, hn, comma_not_mem hbefore, hbytes, ?_⟩)
    simp only [hloop, Except.ok_bind, Except.pure_eq_ok, if_true, Option.getD_some, hlen, hsmall (Nat.le_of_lt hn)]
  · refine .inr (.inr ⟨hzero, comma_not_mem hbefore, ?_⟩)
    simp only [hloop, Except.ok_bind, Except.pure_eq_ok, Bool.false_eq_true, if_false, hsmall (Nat.le_refl len)]

/-- A call with a chunk that is not empty is one which resumes there. -/
theorem field_value_tok_start {s : Chunk} (hlen : s.len ≠ 0) (prev : Option Chunk) (wsd_errno : Errno) :
    http_field_value_tok data (some s) prev wsd_errno = http_field_value_tok data none (some s) wsd_errno := by
  unfold http_field_value_tok
  simp only [Option.isNone_some, Option.isNone_none, Bool.false_eq_true, if_false, if_true, if_neg hlen]

/-- The calls which resume return the elements of what is left, but for an empty one at the end. -/
theorem drains_resume (n : Nat) (hn : len ≤ n) (hin : p + len ≤ SKB_SIZE) (wsd_errno : Errno) :
    ∃ chks, FieldValueDrains data none (some { p := some p, len }) wsd_errno chks ∧
      (len ≠ 0 → elements (data.window p len) = chks.map (Chunk.bytes data) ++ trailing (data.window p len)) ∧
      (len = 0 → chks = []) ∧ ∀ chk ∈ chks, ∃ q, chk.p = some q ∧ p ≤ q ∧ q + chk.len ≤ p + len := by
  induction n generalizing p len with
  | zero =>
    obtain rfl : len = 0 := by omega
    exact ⟨[], .nil rfl fun _ => rfl, fun h => absurd rfl h, fun _ => rfl, by simp⟩
  | succ n ih =>
    obtain ⟨rfl, htok⟩ | ⟨m, hm, hfree, hbytes, htok⟩ | ⟨hzero, hfree, htok⟩ :=
      @field_value_tok_resume data p len hin wsd_errno
    · exact ⟨[], .nil htok fun _ => rfl, fun h => absurd rfl h, fun _ => rfl, by simp⟩
    · obtain ⟨chks, hdrains, helements, hnone, hinside⟩ := @ih (p + m + 1) (len - m - 1) (by omega) (by omega)
      refine ⟨{ p := some p, len := m } :: chks, .cons htok hdrains, fun _ => ?_, fun h => by omega, ?_⟩
      · rw [hbytes, elements_comma hfree, List.map_cons, List.cons_append]
        congr 1
        by_cases hend : len - m - 1 = 0
        · rw [hnone hend, hend, Memory.window_zero, trailing_only]
          rfl
        · rw [helements hend, trailing_comma (mt window_eq_nil.1 hend)]
      · rintro chk (_ | ⟨_, hchk⟩)
        · exact ⟨p, rfl, Nat.le_refl p, by simp only; omega⟩
        · obtain ⟨q, hq, hle, hend⟩ := hinside chk hchk
          exact ⟨q, hq, by omega, by omega⟩
    · refine ⟨[{ p := some p, len }], .cons htok (.nil rfl fun _ => rfl), fun _ => ?_, fun h => absurd h hzero, ?_⟩
      · rw [elements_last hfree, trailing_last hfree]
        rfl
      · intro chk hchk
        rw [List.mem_singleton] at hchk
        subst hchk
        exact ⟨p, rfl, Nat.le_refl p, Nat.le_refl _⟩

end Drain

theorem intercalate_append_nil {sep : List UInt8} {ys : List (List UInt8)} (h : ys ≠ []) :
    sep.intercalate (ys ++ [[]]) = sep.intercalate ys ++ sep := by
  induction ys with
  | nil => exact absurd rfl h
  | cons y ys ih =>
    cases ys with
    | nil =>
      rw [List.singleton_append, List.intercalate_cons_cons, List.intercalate_singleton, List.intercalate_singleton,
        List.append_nil]
    | cons z zs =>
      rw [List.cons_append, List.cons_append, List.intercalate_cons_cons, ← List.cons_append, ih (List.cons_ne_nil z zs),
        List.intercalate_cons_cons]
      simp only [List.append_assoc]

/-- Joining what is reported gives the value back, but for its trailing comma. -/
theorem intercalate_reported {value : List UInt8} {reported : List (List UInt8)}
    (h : elements value = reported ++ trailing value) :
    [COMMA].intercalate reported ++ (if value.getLast? = some COMMA then [COMMA] else []) = value := by
  have hjoin : [COMMA].intercalate (elements value) = value := List.intercalate_splitOn COMMA
  by_cases hlast : value.getLast? = some COMMA
  · have htrailing : trailing value = [[]] := if_pos hlast
    rw [h, htrailing] at hjoin
    have hne : reported ≠ [] := by
      rintro rfl
      rw [List.nil_append, List.intercalate_singleton] at hjoin
      rw [← hjoin] at hlast
      cases hlast
    rw [if_pos hlast, ← intercalate_append_nil hne, hjoin]
  · have htrailing : trailing value = [] := if_neg hlast
    rw [h, htrailing, List.append_nil] at hjoin
    rw [if_neg hlast, List.append_nil, hjoin]

/-- The calls for a chunk return its elements in their order, but for an empty one behind a trailing
    comma: they lie inside the chunk, and joined they are the chunk. -/
theorem http_field_value_tok_drains {data : Memory UInt8} {s : Chunk} {p : Nat} (hp : s.p = some p) (hlen : s.len ≠ 0)
    (hin : p + s.len ≤ SKB_SIZE) (prev : Option Chunk) (wsd_errno : Errno) :
    ∃ chks, FieldValueDrains data (some s) prev wsd_errno chks ∧
      elements (s.bytes data) = chks.map (Chunk.bytes data) ++ trailing (s.bytes data) ∧
      [COMMA].intercalate (chks.map (Chunk.bytes data)) ++
        (if (s.bytes data).getLast? = some COMMA then [COMMA] else []) = s.bytes data ∧
      ∀ chk ∈ chks, ∃ q, chk.p = some q ∧ p ≤ q ∧ q + chk.len ≤ p + s.len := by
  obtain ⟨_, len⟩ := s
  cases hp
  have hstart := @field_value_tok_start data _ hlen prev wsd_errno
  obtain ⟨chks, hdrains, helements, -, hinside⟩ := @drains_resume data p len len (Nat.le_refl _) hin wsd_errno
  have hfirst : FieldValueDrains data (some { p := some p, len }) prev wsd_errno chks := by
    cases hdrains with
    | nil htok hagain => exact .nil (hstart.trans htok) hagain
    | cons htok htail => exact .cons (hstart.trans htok) htail
  exact ⟨chks, hfirst, helements hlen, intercalate_reported (helements hlen), hinside⟩

namespace Sample

def commas : Memory UInt8 := (Skb.ofBytes (ascii "one,two,,four,")).data

end Sample

theorem http_field_value_tok_drains_sample :
    ∃ chks, FieldValueDrains Sample.commas (some { p := some 0, len := 14 }) none .WSD_CHECKERRNO chks ∧
      chks.map (Chunk.bytes Sample.commas) ++ [[]] = [ascii "one", ascii "two", [], ascii "four", []] := by
  obtain ⟨chks, hdrains, helements, -⟩ := @http_field_value_tok_drains Sample.commas { p := some 0, len := 14 } 0 rfl
    (by decide) (by decide) none .WSD_CHECKERRNO
  have hbytes : Chunk.bytes Sample.commas { p := some 0, len := 14 } = ascii "one,two,,four," := by decide +kernel
  have htrailing : trailing (ascii "one,two,,four,") = [[]] := by decide
  rw [hbytes, htrailing] at helements
  refine ⟨chks, hdrains, helements.symm.trans ?_⟩
  decide +kernel

end wsd
