import Wsd.Common.Sk
import Wsd.Http.Field

namespace wsd

section Scan

variable {pred : UInt8 → Bool} {data : Memory UInt8}

/-- The loop stops behind the first character for which the predicate fails. -/
theorem skip_while_inv {fuel cur cur' : Nat} (h : skip_while pred data fuel cur = .ok cur') :
    ∃ n, n < fuel ∧ cur' = cur + n + 1 ∧ (∀ i, i < n → pred (data (cur + i)) = true) ∧
      pred (data (cur + n)) = false := by
  induction fuel generalizing cur with
  | zero => cases h
  | succ fuel ih =>
    unfold skip_while at h
    by_cases hfirst : pred (data cur) = true
    · rw [if_pos hfirst] at h
      obtain ⟨n, hn, hcur, hbefore, hat⟩ := ih h
      refine ⟨n + 1, by omega, by omega, fun i hi => ?_, ?_⟩
      · cases i with
        | zero => exact hfirst
        | succ i =>
          have hi' := hbefore i (by omega)
          rwa [Nat.add_assoc, Nat.add_comm 1] at hi'
      · rwa [Nat.add_assoc, Nat.add_comm 1] at hat
    · rw [if_neg hfirst] at h
      cases h
      exact ⟨0, Nat.succ_pos _, rfl, by simp, by simpa using hfirst⟩

theorem skip_while_ok {fuel cur n : Nat} (hn : n < fuel) (hbefore : ∀ i, i < n → pred (data (cur + i)) = true)
    (hat : pred (data (cur + n)) = false) : skip_while pred data fuel cur = .ok (cur + n + 1) := by
  induction n generalizing fuel cur with
  | zero =>
    obtain ⟨fuel, rfl⟩ := Nat.exists_eq_succ_of_ne_zero (Nat.ne_of_gt hn)
    rw [Nat.add_zero] at hat
    rw [skip_while, if_neg (by simp [hat])]
  | succ n ih =>
    obtain ⟨fuel, rfl⟩ := Nat.exists_eq_succ_of_ne_zero (Nat.ne_of_gt (Nat.zero_lt_of_lt hn))
    have hfirst := hbefore 0 (Nat.succ_pos n)
    rw [Nat.add_zero] at hfirst
    rw [skip_while, if_pos hfirst]
    have hrest := @ih fuel (cur + 1) (by omega)
      (fun i hi => by
        have hi' := hbefore (i + 1) (by omega)
        rwa [← Nat.add_assoc, Nat.add_right_comm] at hi')
      (by rwa [← Nat.add_assoc, Nat.add_right_comm] at hat)
    rw [hrest]
    congr 1
    omega

end Scan

/-- The `len` bytes of a header line from `start` on: a name alone, or a name, a
    colon and a value. -/
inductive HeaderLine (data : Memory UInt8) (start : Nat) : Nat → Prop
  | name (len : Nat) (hname : ∀ i, i < len → is_rfc7230_header_field (data (start + i)) = true) :
      HeaderLine data start len
  | field (len colon : Nat) (hcolon : colon < len)
      (hname : ∀ i, i < colon → is_rfc7230_header_field (data (start + i)) = true)
      (hat : data (start + colon) = COLON)
      (hvalue : ∀ i, colon < i → i < len → is_rfc7230_field_value (data (start + i)) = true) :
      HeaderLine data start len

/-- A line which the tokeniser accepts ends in CRLF within the array. -/
structure Tokenised (data : Memory UInt8) (start len : Nat) : Prop where
  line : HeaderLine data start len
  cr : data (start + len) = CR
  lf : data (start + len + 1) = LF
  lt : start + len < SKB_SIZE

/-- No character of a line is a carriage return. -/
theorem Tokenised.ne_cr {data : Memory UInt8} {p len : Nat} (h : Tokenised data p len) {i : Nat} (hi : i < len) : data (p + i) ≠ CR := by
  intro hcr
  cases h.line with
  | name hname =>
    have hclass := hname i hi
    rw [hcr] at hclass
    exact absurd hclass (by decide)
  | field colon hcolon hname hat hvalue =>
    rcases Nat.lt_trichotomy i colon with hbefore | rfl | hafter
    · have hclass := hname i hbefore
      rw [hcr] at hclass
      exact absurd hclass (by decide)
    · rw [hat] at hcr
      exact absurd hcr (by decide)
    · have hclass := hvalue i hafter hi
      rw [hcr] at hclass
      exact absurd hclass (by decide)

section Token

variable {data : Memory UInt8} {start : Nat} {rv : Int} {tok : Chunk} {prev : Option Nat} {wsd_errno : Errno}

/-- What the tokeniser does with the next line. -/
theorem http_header_tok_inv (h : http_header_tok data none (some start) = .ok (rv, tok, prev, wsd_errno)) :
    rv = -1 ∧ tok = .null ∨
      ∃ len : Nat, rv = len ∧ tok = { p := some start, len } ∧ prev = some (start + len + 2) ∧
        Tokenised data start len := by
  unfold http_header_tok at h
  simp only [Option.isNone_none, if_true, Option.isNone_some, Bool.false_eq_true, if_false] at h
  have hscan : ∃ len, start + len < SKB_SIZE ∧ HeaderLine data start len ∧
      (if data (start + len) = CR ∧ data (start + len + 1) = LF then
        .ok (i32 len, { p := some start, len }, some (start + len + 2), .WSD_CHECKERRNO)
      else .ok (-1, .null, some start, .WSD_ECHAR) : Except Fault (Int × Chunk × Option Nat × Errno)) =
        .ok (rv, tok, prev, wsd_errno) := by
    obtain ⟨cur, hname, h⟩ := Except.bind_eq_ok_iff.mp h
    obtain ⟨n, hn, rfl, hbefore, -⟩ := skip_while_inv hname
    rw [Nat.add_sub_cancel] at h
    by_cases hcolon : data (start + n) = COLON
    · rw [if_neg (not_not.mpr hcolon)] at h
      obtain ⟨cur, hscan, h⟩ := Except.bind_eq_ok_iff.mp h
      obtain ⟨m, hm, rfl, hvalue, -⟩ := skip_while_inv hscan
      refine ⟨n + 1 + m, by omega, .field _ n (by omega) hbefore hcolon fun i hi hlt => ?_, ?_⟩
      · have hi' := hvalue (i - (n + 1)) (by omega)
        rwa [show start + n + 1 + (i - (n + 1)) = start + i by omega] at hi'
      · have hlen : start + n + 1 + m + 1 - start - 1 = n + 1 + m := by omega
        have hend : start + n + 1 + m = start + (n + 1 + m) := by omega
        rw [hlen, Nat.add_sub_cancel, hend] at h
        exact h
    · rw [if_pos hcolon] at h
      refine ⟨n, by omega, .name n hbefore, ?_⟩
      have hlen : start + n + 1 - start - 1 = n := by omega
      simp only [Except.pure_eq_ok, Except.ok_bind, Nat.add_sub_cancel, hlen] at h
      exact h
  obtain ⟨len, hlt, hline, h⟩ := hscan
  by_cases hend : data (start + len) = CR ∧ data (start + len + 1) = LF
  · rw [if_pos hend] at h
    cases h
    refine Or.inr ⟨len, i32_of_lt ?_, rfl, rfl, hline, hend.1, hend.2, hlt⟩
    unfold SKB_SIZE at hlt
    omega
  · rw [if_neg hend] at h
    cases h
    exact Or.inl ⟨rfl, rfl⟩

/-- What the tokeniser cuts off as the first line. -/
theorem http_header_tok_start_inv {prev' : Option Nat}
    (h : http_header_tok data (some start) prev = .ok (rv, tok, prev', wsd_errno))
    (hrv : ¬ rv < 0) :
    ∃ len, tok = { p := some start, len } ∧ prev' = some (start + len + 2) ∧ start + len < SKB_SIZE ∧
      (∀ i, i < len → is_rfc7230_start_line (data (start + i)) = true) ∧ data (start + len) = CR ∧
      data (start + len + 1) = LF := by
  unfold http_header_tok at h
  simp only [Option.isNone_some, Bool.false_eq_true, if_false, Option.isNone_none, if_true] at h
  obtain ⟨cur, hscan, h⟩ := Except.bind_eq_ok_iff.mp h
  obtain ⟨n, hn, rfl, hbefore, -⟩ := skip_while_inv hscan
  have hlen : start + n + 1 - start - 1 = n := by omega
  rw [Nat.add_sub_cancel, hlen] at h
  by_cases hend : data (start + n) = CR ∧ data (start + n + 1) = LF
  · rw [if_pos hend] at h
    cases h
    exact ⟨n, rfl, rfl, by omega, hbefore, hend.1, hend.2⟩
  · rw [if_neg hend] at h
    cases h
    exact absurd (by decide) hrv

end Token

/-- The chunk is what a token ends with. -/
def Chunk.SuffixOf (chk tok : Chunk) : Prop :=
  ∃ p q, tok.p = some p ∧ chk.p = some q ∧ chk.len ≤ tok.len ∧ q + chk.len = p + tok.len

/-- The colon search of `parse_header_field` stops inside the token, and so are the
    chunks which are assigned. -/
structure StaysInside (data : Memory UInt8) (tok : Chunk) : Prop where
  search : ∃ p cur, tok.p = some p ∧ skip_while (fun c => c != COLON) data (SKB_SIZE - p) p = .ok cur ∧
    cur ≤ p + tok.len
  suffix : ∀ req rv req', parse_header_field data tok req = .ok (rv, req') →
    List.Forall₂ (fun value value' => value' = value ∨ value'.SuffixOf tok) req.values req'.values

/-- The token is a header field's name without a colon. -/
def Chunk.NameOnly (data : Memory UInt8) (tok : Chunk) : Prop :=
  ∀ p, tok.p = some p → ∀ i, i < tok.len → is_rfc7230_header_field (data (p + i)) = true

theorem colon_not_name {c : UInt8} (h : is_rfc7230_header_field c = true) : (c != COLON) = true := by
  simp only [bne_iff_ne, ne_eq]
  rintro rfl
  exact absurd h (by decide)

/-- The parser stays inside a line which the tokeniser accepts exactly if the line
    is not a name alone. -/
theorem staysInside_iff {data : Memory UInt8} {start len : Nat} (h : Tokenised data start len) :
    StaysInside data { p := some start, len } ↔ ¬ Chunk.NameOnly data { p := some start, len } := by
  constructor
  · rintro ⟨⟨p, cur, hp, hscan, hcur⟩, -⟩ hname
    cases hp
    obtain ⟨n, -, rfl, -, hcolon⟩ := skip_while_inv hscan
    have hlt : n < len := by
      simp only at hcur
      omega
    have hne := colon_not_name (hname start rfl n hlt)
    rw [hne] at hcolon
    cases hcolon
  · intro hname
    cases h.line with
    | name hall =>
      refine absurd (fun p hp i hi => ?_) hname
      cases hp
      exact hall i hi
    | field colon hcolon hbefore hat hvalue =>
      have hlt := h.lt
      have hscan : skip_while (fun c => c != COLON) data (SKB_SIZE - start) start = .ok (start + colon + 1) :=
        skip_while_ok (by omega) (fun i hi => colon_not_name (hbefore i hi)) (by simp [hat])
      refine ⟨⟨start, _, rfl, hscan, by simp only; omega⟩, fun req rv req' hparse => ?_⟩
      obtain ⟨-, hvalues⟩ := parse_header_field_inv rfl hscan hparse
      refine hvalues.imp fun value value' hvalue' => hvalue'.imp id ?_
      rintro rfl
      have hused : start + colon + 1 - start = colon + 1 := by omega
      have hleft : u32 (len + 4294967296 - (colon + 1)) = len - (colon + 1) := by
        unfold SKB_SIZE at hlt
        unfold u32
        omega
      refine ⟨start, _, rfl, rfl, ?_, ?_⟩
      · simp only [hused, hleft]
        omega
      · simp only [hused, hleft]
        omega

/-- The tokens which the loop of `http_recv` gets when the tokeniser has stored `prev`. -/
inductive HeaderToken (data : Memory UInt8) : Option Nat → Chunk → Prop
  | next {prev prev' : Option Nat} {rv : Int} {tok : Chunk} {wsd_errno : Errno}
      (htok : http_header_tok data none prev = .ok (rv, tok, prev', wsd_errno)) (hrv : 0 < rv) :
      HeaderToken data prev tok
  | later {prev prev' : Option Nat} {rv : Int} {first tok : Chunk} {wsd_errno : Errno}
      (hfirst : http_header_tok data none prev = .ok (rv, first, prev', wsd_errno)) (hrv : 0 < rv)
      (hlater : HeaderToken data prev' tok) : HeaderToken data prev tok

theorem http_header_tok_none {data : Memory UInt8} {rv : Int} {tok : Chunk} {prev : Option Nat} {wsd_errno : Errno}
    (h : http_header_tok data none none = .ok (rv, tok, prev, wsd_errno)) : rv = -1 := by
  cases h
  rfl

theorem HeaderToken.tokenised {data : Memory UInt8} {prev : Option Nat} {tok : Chunk} (h : HeaderToken data prev tok) :
    ∃ start len, tok = { p := some start, len } ∧ Tokenised data start len := by
  induction h with
  | @next prev prev' rv tok e htok hrv =>
    cases prev with
    | none =>
      have hneg := http_header_tok_none htok
      omega
    | some start =>
      obtain ⟨hneg, -⟩ | ⟨len, -, rfl, -, hline⟩ := http_header_tok_inv htok
      · omega
      · exact ⟨start, len, rfl, hline⟩
  | later hfirst hrv hlater ih => exact ih

/-- The tokens of the header block in a client's receive buffer: those which the loop
    of `http_recv` gets after the request line. -/
def HeaderTokenOf (sk : Sk) (tok : Chunk) : Prop :=
  ∃ st rv line prev wsd_errno,
    http_header_tok sk.recvbuf.data (some sk.recvbuf.rdpos) st = .ok (rv, line, prev, wsd_errno) ∧ 0 ≤ rv ∧
      HeaderToken sk.recvbuf.data prev tok

/-- The parser of a header field stays inside its token, and so do the values it
    assigns, if and only if the token is not a name without a colon. -/
theorem header_token_inside_iff (sk : Sk) (tok : Chunk) (htok : HeaderTokenOf sk tok) :
    StaysInside sk.recvbuf.data tok ↔ ¬ tok.NameOnly sk.recvbuf.data := by
  obtain ⟨st, rv, line, prev, e, -, -, hheader⟩ := htok
  obtain ⟨start, len, rfl, hline⟩ := hheader.tokenised
  exact staysInside_iff hline

namespace Sample

/-- A client which has sent a request with the given header block. -/
def requesting (headers : String) : Sk :=
  { sk_init 5 7 with recvbuf := Skb.ofBytes (ascii "GET / HTTP/1.1\r\n" ++ ascii headers ++ ascii "\r\n") }

/-- The token of the first header line, which has the given length. -/
theorem first_header (headers : String) (len : Nat)
    (h : ((http_header_tok (requesting headers).recvbuf.data (some 0) none).toOption.any fun a =>
      decide (0 ≤ a.1 ∧ a.2.2.1 = some 16)) = true)
    (htok : ((http_header_tok (requesting headers).recvbuf.data none (some 16)).toOption.any fun a =>
      decide (0 < a.1 ∧ a.2.1 = { p := some 16, len })) = true) :
    HeaderTokenOf (requesting headers) { p := some 16, len } := by
  obtain ⟨⟨rv, line, prev, e⟩, hline, hrv, hprev⟩ := Except.exists_ok h
  obtain ⟨⟨rv1, tok, prev1, e1⟩, hfirst, hrv1, hlen⟩ := Except.exists_ok htok
  simp only at hprev hlen
  subst hprev hlen
  exact ⟨none, rv, line, _, e, hline, hrv, .next hfirst hrv1⟩

end Sample

/-- The line of a host. -/
theorem header_token_inside_host : HeaderTokenOf (Sample.requesting "Host: a\r\n") { p := some 16, len := 7 } ∧
    (StaysInside (Sample.requesting "Host: a\r\n").recvbuf.data { p := some 16, len := 7 } ↔
      ¬ Chunk.NameOnly (Sample.requesting "Host: a\r\n").recvbuf.data { p := some 16, len := 7 }) :=
  ⟨Sample.first_header "Host: a\r\n" 7 (by decide +kernel) (by decide +kernel),
    header_token_inside_iff _ _ (Sample.first_header "Host: a\r\n" 7 (by decide +kernel) (by decide +kernel))⟩

/-- Behind a name without a colon the search runs into the next line. -/
theorem name_line_overrun :
    ¬ ∀ (sk : Sk) (tok : Chunk), has_rnrn_termination sk.recvbuf = true → HeaderTokenOf sk tok →
      StaysInside sk.recvbuf.data tok := by
  intro h
  obtain ⟨⟨p, cur, hp, hscan, hcur⟩, -⟩ := h (Sample.requesting "Host\r\nOrigin: a\r\n") { p := some 16, len := 4 }
    (by decide +kernel) (Sample.first_header _ 4 (by decide +kernel) (by decide +kernel))
  cases hp
  obtain ⟨_, hfound, rfl⟩ := Except.exists_ok
    (x := skip_while (fun c => c != COLON) (Sample.requesting "Host\r\nOrigin: a\r\n").recvbuf.data (SKB_SIZE - 16) 16)
    (P := fun a => a = 29) (by decide +kernel)
  rw [hfound] at hscan
  cases hscan
  exact absurd hcur (by decide)

end wsd
