import Mathlib.Data.Nat.Find
import Wsd.Http.Element
import Wsd.Http.Key

namespace wsd

/-- The two line ends in a row which end a header block. -/
structure Rnrn (data : Memory UInt8) (r : Nat) : Prop where
  cr : data r = CR
  lf : data (r + 1) = LF
  cr_next : data (r + 2) = CR
  lf_next : data (r + 3) = LF
  lt : r + 3 < SKB_SIZE

/-- Where a line may start: not behind the first of the two line ends, or at the second. -/
def LineStart (r start : Nat) : Prop :=
  start ≤ r ∨ start = r + 2

section Scan

variable {data : Memory UInt8} {r start : Nat}

theorem rnrn_loop_inv {len s : Nat} (h : rnrn_loop data len s = true) (hlt : s + len ≤ SKB_SIZE) :
    ∃ r, s ≤ r ∧ r + 4 ≤ s + len ∧ Rnrn data r := by
  induction len generalizing s with
  | zero => cases h
  | succ len ih =>
    unfold rnrn_loop at h
    by_cases hfound : data s = CR ∧ 3 ≤ len ∧ data (s + 1) = LF ∧ data (s + 2) = CR ∧ data (s + 3) = LF
    · obtain ⟨hcr, hlen, hlf, hcr', hlf'⟩ := hfound
      exact ⟨s, Nat.le_refl _, by omega, hcr, hlf, hcr', hlf', by omega⟩
    · rw [if_neg hfound] at h
      obtain ⟨r, hle, hlt, hrnrn⟩ := ih h (by omega)
      exact ⟨r, by omega, by omega, hrnrn⟩

theorem has_rnrn_inv {b : Skb} (hok : b.Ok) (h : has_rnrn_termination b = true) :
    ∃ r, b.rdpos ≤ r ∧ r + 4 ≤ b.wrpos ∧ Rnrn b.data r := by
  have hle := hok.rdpos_le
  have hsize := hok.wrpos_le
  unfold has_rnrn_termination at h
  rw [hok.rdsz_eq] at h
  obtain ⟨r, hstart, hend, hrnrn⟩ := rnrn_loop_inv h (by omega)
  exact ⟨r, hstart, by omega, hrnrn⟩

theorem LineStart.exists_cr (h : LineStart r start) (hrnrn : Rnrn data r) :
    ∃ e, start ≤ e ∧ e ≤ r + 2 ∧ data e = CR := by
  obtain hle | rfl := h
  · exact ⟨r, hle, by omega, hrnrn.cr⟩
  · exact ⟨r + 2, Nat.le_refl _, Nat.le_refl _, hrnrn.cr_next⟩

/-- A line which ends does so in front of the next line's start. -/
theorem LineStart.next {len : Nat} (h : LineStart r start) (hrnrn : Rnrn data r) (hlen : len ≠ 0)
    (hle : ∀ e, start ≤ e → data e = CR → start + len ≤ e) (hlf : data (start + len + 1) = LF) :
    LineStart r (start + len + 2) := by
  obtain hbefore | rfl := h
  · have hend := hle r hbefore hrnrn.cr
    by_cases hlast : start + len = r
    · exact .inr (by omega)
    · have hne : start + len + 1 ≠ r := fun heq => by
        rw [heq, hrnrn.cr] at hlf
        exact absurd hlf (by decide)
      exact .inl (by omega)
  · have hend := hle (r + 2) (Nat.le_refl _) hrnrn.cr_next
    omega

/-- The loop stops at a carriage return at the latest. -/
theorem skip_while_stops {pred : UInt8 → Bool} {e : Nat} (hpred : pred CR = false) (hle : start ≤ e)
    (hlt : e < SKB_SIZE) (hcr : data e = CR) :
    ∃ n, skip_while pred data (SKB_SIZE - start) start = .ok (start + n + 1) ∧
      ∀ e, start ≤ e → data e = CR → start + n ≤ e := by
  have hstop : ∃ n, pred (data (start + n)) = false :=
    ⟨e - start, by rwa [Nat.add_sub_cancel' hle, hcr]⟩
  have hfirst (n : Nat) (hn : pred (data (start + n)) = false) : Nat.find hstop ≤ n := Nat.find_min' hstop hn
  have hat (e : Nat) (hle : start ≤ e) (hcr : data e = CR) : start + Nat.find hstop ≤ e := by
    have hmin := hfirst (e - start) (by rwa [Nat.add_sub_cancel' hle, hcr])
    omega
  refine ⟨Nat.find hstop, skip_while_ok ?_ (fun i hi => ?_) (Nat.find_spec hstop), hat⟩
  · have hend := hat e hle hcr
    omega
  · have hbefore := Nat.find_min hstop hi
    simpa using hbefore

/-- What the tokeniser does where a line end is ahead. -/
theorem http_header_tok_cases {s prev : Option Nat} (hcur : (if s.isNone then prev else s) = some start)
    (hstart : LineStart r start) (hrnrn : Rnrn data r) :
    (∃ prev' e, http_header_tok data s prev = .ok (-1, .null, prev', e)) ∨
      ∃ len : Nat, http_header_tok data s prev =
          .ok (len, { p := some start, len }, some (start + len + 2), .WSD_CHECKERRNO) ∧
        (len ≠ 0 → LineStart r (start + len + 2)) := by
  obtain ⟨e, hle, hend, hcr⟩ := hstart.exists_cr hrnrn
  have hlt := hrnrn.lt
  have hscan : ∃ n, http_header_tok data s prev = (if data (start + n) = CR ∧ data (start + n + 1) = LF then
        .ok (i32 n, { p := some start, len := n }, some (start + n + 2), .WSD_CHECKERRNO)
      else .ok (-1, .null, if s.isNone then prev else none, .WSD_ECHAR)) ∧
      ∀ e, start ≤ e → data e = CR → start + n ≤ e := by
    unfold http_header_tok
    rw [hcur]
    simp only
    by_cases hfirst : (if s.isNone then prev else none).isNone = true
    · obtain ⟨n, hline, hafter⟩ := @skip_while_stops data start is_rfc7230_start_line e (by decide) hle (by omega) hcr
      have hlen : start + n + 1 - start - 1 = n := by omega
      rw [if_pos hfirst, hline]
      simp only [Except.ok_bind, Nat.add_sub_cancel, hlen]
      exact ⟨n, rfl, hafter⟩
    · obtain ⟨n, hname, hafter⟩ := @skip_while_stops data start is_rfc7230_header_field e (by decide) hle (by omega) hcr
      rw [if_neg hfirst, hname]
      simp only [Except.ok_bind, Nat.add_sub_cancel]
      by_cases hcolon : data (start + n) = COLON
      · rw [if_neg (not_not.mpr hcolon)]
        have hne (e : Nat) (hcr : data e = CR) : start + n ≠ e := fun heq => by
          rw [← heq, hcolon] at hcr
          exact absurd hcr (by decide)
        have hin := hafter e hle hcr
        have hne' := hne e hcr
        obtain ⟨m, hvalue, hafter'⟩ := @skip_while_stops data (start + n + 1) is_rfc7230_field_value e (by decide)
          (by omega) (by omega) hcr
        have hend : start + n + 1 + m = start + (n + 1 + m) := by omega
        have hlen : start + (n + 1 + m) + 1 - start - 1 = n + 1 + m := by omega
        rw [hvalue, hend]
        simp only [Except.ok_bind, Nat.add_sub_cancel, hlen]
        refine ⟨n + 1 + m, rfl, fun e hle hcr => ?_⟩
        have hbefore := hafter e hle hcr
        have hne'' := hne e hcr
        have hlast := hafter' e (by omega) hcr
        omega
      · have hlen : start + n + 1 - start - 1 = n := by omega
        rw [if_pos hcolon]
        simp only [Except.pure_eq_ok, Except.ok_bind, Nat.add_sub_cancel, hlen]
        exact ⟨n, rfl, hafter⟩
  obtain ⟨n, hscan, hafter⟩ := hscan
  have hin := hafter e hle hcr
  have hsmall : i32 n = n := i32_of_lt (by unfold SKB_SIZE at hlt; omega)
  rw [hscan, hsmall]
  by_cases hline : data (start + n) = CR ∧ data (start + n + 1) = LF
  · rw [if_pos hline]
    exact .inr ⟨n, rfl, fun hn => hstart.next hrnrn hn hafter hline.2⟩
  · rw [if_neg hline]
    exact .inl ⟨_, _, rfl⟩

end Scan

section Walk

variable {data : Memory UInt8} {r : Nat}

/-- A line with a colon is parsed, and what it assigns is a field value. -/
theorem parse_header_field_value {start len : Nat} (hline : Tokenised data start len) (hend : start + len + 1 < SKB_SIZE)
    (hcolon : ¬ Chunk.NameOnly data { p := some start, len }) (hreq : HttpReq) :
    ∃ rv hreq', parse_header_field data { p := some start, len } hreq = .ok (rv, hreq') ∧ ¬ rv < 0 ∧
      ((∀ chk ∈ hreq.values, FieldValue data chk) → ∀ chk ∈ hreq'.values, FieldValue data chk) := by
  obtain ⟨⟨p, cur, hp, hscan, hcur⟩, -⟩ := (staysInside_iff hline).2 hcolon
  cases hp
  obtain ⟨n, -, rfl, -, -⟩ := skip_while_inv hscan
  have hparse : ∃ rv hreq', parse_header_field data { p := some start, len } hreq = .ok (rv, hreq') := by
    rw [parse_header_field_eq hreq rfl hscan]
    split
    · exact ⟨_, _, rfl⟩
    · exact ⟨_, _, rfl⟩
  obtain ⟨rv, hreq', hparse⟩ := hparse
  obtain ⟨hpos, hvalues⟩ := parse_header_field_inv rfl hscan hparse
  refine ⟨rv, hreq', hparse, by omega, fun hall => mem_of_forall₂ hvalues fun old hold new hnew => ?_⟩
  obtain rfl | rfl := hnew
  · exact hall _ hold
  · have hused : start + n + 1 - start = n + 1 := by omega
    have hleft : u32 (len + 4294967296 - (n + 1)) = len - (n + 1) := by
      simp only at hcur
      unfold SKB_SIZE at hend
      unfold u32
      omega
    have hin : n < len := by
      simp only at hcur
      omega
    simp only [hused, hleft]
    exact hline.field_value hin hend

/-- The walk over a header block each of whose lines contains a colon. -/
theorem exists_headerWalk (hrnrn : Rnrn data r) {n : Nat} {prev : Option Nat} {hreq : HttpReq}
    (hstart : ∀ start, prev = some start → LineStart r start ∧ r + 3 ≤ start + n)
    (hcolon : ∀ tok, HeaderToken data prev tok → ¬ tok.NameOnly data) :
    ∃ e, HeaderWalk data hreq prev e ∧
      ((∀ chk ∈ hreq.values, FieldValue data chk) → ∀ chk ∈ e.hreq.values, FieldValue data chk) := by
  have hlt := hrnrn.lt
  -- Every line takes the walk nearer to the end of the block.
  induction n generalizing prev hreq with
  | zero =>
    cases prev with
    | none => exact ⟨_, .stop rfl (by decide), id⟩
    | some start =>
      obtain ⟨hle | heq, hfuel⟩ := hstart start rfl
      · omega
      · omega
  | succ n ih =>
    cases prev with
    | none => exact ⟨_, .stop rfl (by decide), id⟩
    | some start =>
      obtain ⟨hline, hfuel⟩ := hstart start rfl
      obtain ⟨prev', e, htok⟩ | ⟨len, htok, hnext⟩ := @http_header_tok_cases data r start none (some start) rfl hline hrnrn
      · exact ⟨_, .stop htok (by decide), id⟩
      · by_cases hzero : len = 0
        · exact ⟨_, .stop htok (by omega), id⟩
        have hrv : 0 < (len : Int) := by omega
        have htoken : HeaderToken data (some start) { p := some start, len } := .next htok hrv
        have hnext := hnext hzero
        have hend : start + len + 2 ≤ r + 2 := by
          obtain hle | heq := hnext
          · omega
          · omega
        obtain ⟨start', len', htok', htokenised⟩ := htoken.tokenised
        cases htok'
        obtain ⟨rv, hreq', hparse, hrv', hvalues⟩ :=
          parse_header_field_value htokenised (by omega) (hcolon _ htoken) hreq
        obtain ⟨e, hwalk, hrest⟩ := @ih (some (start + len + 2)) hreq'
          (fun start' hstart' => by cases hstart'; exact ⟨hnext, by omega⟩)
          (fun tok hlater => hcolon tok (.later htok hrv hlater))
        exact ⟨e, .field htok hrv hparse hrv' hwalk, fun hall => hrest (hvalues hall)⟩

end Walk

section RequestLine

variable {data : Memory UInt8} {tok : Chunk} {p : Nat} {req : HttpReq} {wsd_errno : Errno}

/-- A request line is parsed or refused, and the pointers of a parsed one are set. -/
theorem parse_request_line_cases (hp : tok.p = some p) :
    ∃ rv line e, parse_request_line data tok req wsd_errno = .ok (rv, line, e) ∧
      (¬ rv < 0 → (∃ q, line.method.p = some q) ∧ ∃ q, line.req_target.p = some q) := by
  unfold parse_request_line
  split
  · exact ⟨_, _, _, rfl, fun h => absurd (by decide) h⟩
  rw [hp]
  simp only
  split
  · exact ⟨_, _, _, rfl, fun h => absurd (by decide) h⟩
  split
  · exact ⟨_, _, _, rfl, fun h => absurd (by decide) h⟩
  split
  · exact ⟨_, _, _, rfl, fun h => absurd (by decide) h⟩
  · exact ⟨_, _, _, rfl, fun _ => ⟨⟨_, rfl⟩, _, rfl⟩⟩

theorem compare_at_ok {cmp : Nat → List UInt8 → Nat → Bool} {chk : Chunk} {lit : List UInt8} {n : Nat}
    (h : n = 0 ∨ ∃ p, chk.p = some p) : ∃ same, compare_at cmp chk.p lit n = .ok same := by
  unfold compare_at
  split
  · exact ⟨_, rfl⟩
  · rename_i hn
    obtain hzero | ⟨p, hp⟩ := h
    · exact absurd hzero hn
    · rw [hp]
      exact ⟨_, rfl⟩

theorem is_valid_req_line_ok (hmethod : ∃ q, req.method.p = some q) (htarget : ∃ q, req.req_target.p = some q) :
    ∃ valid line, is_valid_req_line data req = .ok (valid, line) := by
  obtain ⟨is_get, hget⟩ := @compare_at_ok (strncmp_eq data) req.method (ascii "GET") 3 (.inr hmethod)
  obtain ⟨any, hany⟩ := @compare_at_ok (strncmp_eq data) req.req_target (ascii "*") req.req_target.len (.inr htarget)
  obtain ⟨abs, habs⟩ := @compare_at_ok (strncasecmp_eq data) req.req_target (ascii "http://") 7 (.inr htarget)
  have hrest (is_get : Bool) : ∃ valid line, (if (!is_get) = true then .ok (false, req) else do
      if ← compare_at (strncmp_eq data) req.req_target.p (ascii "*") req.req_target.len then
        return (false, req)
      else if ← compare_at (strncasecmp_eq data) req.req_target.p (ascii "http://") 7 then
        return (true, { req with is_uri_abs := true })
      else
        return (true, req) : Except Fault (Bool × HttpReq)) = .ok (valid, line) := by
    simp only [hany, habs, Except.ok_bind]
    cases is_get with
    | false => exact ⟨_, _, rfl⟩
    | true =>
      cases any with
      | true => exact ⟨_, _, rfl⟩
      | false =>
        cases abs with
        | true => exact ⟨_, _, rfl⟩
        | false => exact ⟨_, _, rfl⟩
  unfold is_valid_req_line
  by_cases hlen : req.method.len = 3
  · rw [if_pos hlen, hget]
    exact hrest is_get
  · rw [if_neg hlen]
    exact hrest true

end RequestLine

/-- A chunk which `trim` may be called with: it is empty, or a line end is ahead of its end. -/
def Trimmable (data : Memory UInt8) (chk : Chunk) : Prop :=
  chk.len = 0 ∨ ∃ p e, chk.p = some p ∧ p + chk.len ≤ e ∧ e + 1 < SKB_SIZE ∧ data e = CR ∧ data (e + 1) = LF

section Trim

variable {data : Memory UInt8} {chk chk' : Chunk}

theorem FieldValue.trimmable (h : FieldValue data chk) : Trimmable data chk := by
  cases h with
  | absent => exact .inl rfl
  | @line p len hlt hcr hlf => exact .inr ⟨p, p + len, rfl, Nat.le_refl _, hlt, hcr, hlf⟩

/-- What is left after `trim` may be trimmed again. -/
theorem Trimmable.trim (h : Trimmable data chk) : ∃ chk', trim data chk = .ok chk' ∧ Trimmable data chk' := by
  by_cases hlen : chk.len = 0
  · exact ⟨chk, if_pos hlen, h⟩
  · obtain hzero | ⟨p, e, hp, hle, hlt, hcr, hlf⟩ := h
    · exact absurd hzero hlen
    · obtain ⟨k, len, hk, hless, htrim, -, -⟩ := trim_line hle hlt hcr hlf
      rw [← hp] at htrim
      exact ⟨_, htrim, .inr ⟨p + k, e, rfl, by simp only; omega, hlt, hcr, hlf⟩⟩

theorem Trimmable.compare (h : Trimmable data chk) (cmp : Nat → List UInt8 → Nat → Bool) (lit : List UInt8) :
    ∃ same, compare_at cmp chk.p lit chk.len = .ok same := by
  obtain hzero | ⟨p, -, hp, -⟩ := h
  · exact compare_at_ok (.inl hzero)
  · exact compare_at_ok (.inr ⟨p, hp⟩)

/-- A trimmed value is collected as well. -/
theorem Collected.trim (h : Collected data chk) (htrim : wsd.trim data chk = .ok chk') : Collected data chk' := by
  obtain hzero | ⟨p, q, hp, hq, hle, hend, hin⟩ := trim_inv htrim
  · exact .inl hzero
  · obtain hzero | ⟨p', hp', hlong⟩ | ⟨p', hp', hclass⟩ := h
    · exact .inl (by omega)
    · rw [hp] at hp'
      cases hp'
      omega
    · rw [hp] at hp'
      cases hp'
      refine .inr (.inr ⟨q, hq, fun i hi => ?_⟩)
      have hchar := hclass (q - p + i) (by omega)
      rwa [show p + (q - p + i) = q + i by omega] at hchar

end Trim

end wsd
