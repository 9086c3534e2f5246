import Mathlib.Data.List.TakeWhile
import Wsd.Http.Sound

namespace wsd

/-- The values which a walk over a header block collects: none, one of the characters which the
    tokeniser lets pass, or one with the wrapped length which a name without a colon leaves. -/
def Collected (data : Memory UInt8) (chk : Chunk) : Prop :=
  chk.len = 0 ∨ (∃ p, chk.p = some p ∧ SKB_SIZE < p + chk.len) ∨
    ∃ p, chk.p = some p ∧ ∀ i, i < chk.len → is_rfc7230_field_value (data (p + i)) = true

section Collected

variable {data : Memory UInt8} {req req' : HttpReq} {rv : Int}

theorem mem_of_forall₂ {α : Type} {R : α → α → Prop} {P : α → Prop} {xs ys : List α} (h : List.Forall₂ R xs ys)
    (hP : ∀ x ∈ xs, ∀ y, R x y → P y) : ∀ y ∈ ys, P y := by
  induction h with
  | nil => simp
  | cons hxy _ ih =>
    refine List.forall_mem_cons.2 ⟨hP _ List.mem_cons_self _ hxy, ih fun x hx => hP x (List.mem_cons_of_mem _ hx)⟩

/-- A parsed line leaves collected values. -/
theorem parse_header_field_collected {start len : Nat} (hline : Tokenised data start len)
    (hreq : ∀ chk ∈ req.values, Collected data chk)
    (h : parse_header_field data { p := some start, len } req = .ok (rv, req')) :
    ∀ chk ∈ req'.values, Collected data chk := by
  have hlt := hline.lt
  unfold SKB_SIZE at hlt
  have hscan : ∃ cur, skip_while (fun c => c != COLON) data (SKB_SIZE - start) start = .ok cur := by
    unfold parse_header_field at h
    obtain ⟨cur, hcur, -⟩ := Except.bind_eq_ok_iff.mp h
    exact ⟨cur, hcur⟩
  obtain ⟨cur, hscan⟩ := hscan
  obtain ⟨-, hvalues⟩ := parse_header_field_inv rfl hscan h
  refine mem_of_forall₂ hvalues fun old hold new hnew => ?_
  obtain rfl | rfl := hnew
  · exact hreq _ hold
  obtain ⟨n, hn, rfl, hbefore, hat⟩ := skip_while_inv hscan
  have hused : start + n + 1 - start = n + 1 := by omega
  rw [hused]
  unfold SKB_SIZE at hn
  by_cases hcolon : n < len
  · -- The colon is in the line, and the value is the rest of it.
    have hleft : u32 (len + 4294967296 - (n + 1)) = len - (n + 1) := by
      unfold u32
      omega
    refine .inr (.inr ⟨_, rfl, fun i hi => ?_⟩)
    simp only [hleft] at hi
    cases hline.line with
    | name hname =>
      have hclass := colon_not_name (hname n hcolon)
      rw [hclass] at hat
      cases hat
    | field colon hin hname hcol hvalue =>
      have hsame : colon = n := by
        rcases Nat.lt_trichotomy colon n with hless | heq | hmore
        · have hno := hbefore colon hless
          rw [hcol] at hno
          exact absurd hno (by decide)
        · exact heq
        · have hclass := colon_not_name (hname n hmore)
          rw [hclass] at hat
          cases hat
      subst hsame
      have hchar := hvalue (colon + 1 + i) (by omega) (by omega)
      rwa [← Nat.add_assoc] at hchar
  · -- The search has run on: the length is negative as a difference.
    refine .inr (.inl ⟨_, rfl, ?_⟩)
    have hwrap : u32 (len + 4294967296 - (n + 1)) = len + 4294967296 - (n + 1) := by
      unfold u32
      omega
    simp only [hwrap]
    unfold SKB_SIZE
    omega

theorem HeaderWalk.collected {prev : Option Nat} {e : WalkEnd} (h : HeaderWalk data req prev e)
    (hreq : ∀ chk ∈ req.values, Collected data chk) : ∀ chk ∈ e.hreq.values, Collected data chk := by
  induction h with
  | stop htok hrv => exact hreq
  | @field hreq0 hreq' prev prev' rv rv' tok wsd_errno e htok hrv hparse hrv' hrest ih =>
    apply ih
    cases prev with
    | none =>
      have hneg := http_header_tok_none htok
      omega
    | some start =>
      obtain ⟨hneg, -⟩ | ⟨len, -, rfl, -, hline⟩ := http_header_tok_inv htok
      · omega
      · exact parse_header_field_collected hline hreq hparse

/-- The request line collects no header field. -/
theorem parse_request_line_values {tok : Chunk} {wsd_errno errno' : Errno}
    (h : parse_request_line data tok req wsd_errno = .ok (rv, req', errno')) : req'.values = req.values := by
  unfold parse_request_line at h
  split at h
  · cases h
    rfl
  split at h
  · cases h
  simp only at h
  split at h
  · cases h
    rfl
  split at h
  · cases h
    rfl
  split at h
  · cases h
    rfl
  · cases h
    rfl

/-- All values of a parsed request are collected from the header block. -/
theorem Parsed.collected {sk : Sk} {st : Statics} {tok : Chunk} {line hreq : HttpReq} (h : Parsed sk st tok line hreq) :
    ∀ chk ∈ hreq.values, Collected sk.recvbuf.data chk := by
  obtain ⟨prev, e, ⟨rv, e1, rv', line', e2, -, -, hparse, -, hvalid⟩, hwalk, rfl⟩ := h
  refine hwalk.collected fun chk hchk => .inl ?_
  rw [(is_valid_req_line_inv hvalid).1] at hchk
  replace hchk : chk ∈ line'.values := hchk
  rw [parse_request_line_values hparse] at hchk
  simp only [HttpReq.values, List.mem_cons, List.not_mem_nil, or_false, or_self] at hchk
  rw [hchk]
  rfl

end Collected

section Trim

variable {data : Memory UInt8} {chk chk' : Chunk}

/-- The first loop of `trim` moves the start of the chunk, not its end. -/
theorem trim_front_inv {len p i len' p' : Nat} (h : trim_front data len p i = .ok (len', p')) :
    p ≤ p' ∧ p' + len' = p + len := by
  induction len generalizing p i with
  | zero =>
    cases h
    exact ⟨Nat.le_refl _, rfl⟩
  | succ len ih =>
    unfold trim_front at h
    split at h
    · cases h
    split at h
    · obtain ⟨hle, hsum⟩ := ih h
      exact ⟨by omega, by omega⟩
    · cases h
      exact ⟨Nat.le_refl _, rfl⟩

/-- The second loop of `trim` first looks at the last character. -/
theorem trim_back_in {p len len' : Nat} (h : trim_back data p len = .ok len') : len = 0 ∨ p + len ≤ SKB_SIZE := by
  cases len with
  | zero => exact .inl rfl
  | succ len =>
    unfold trim_back at h
    split at h
    · cases h
    · exact .inr (by omega)

theorem trim_back_len_le {p len len' : Nat} (h : trim_back data p len = .ok len') : len' ≤ len := by
  induction len with
  | zero =>
    cases h
    exact Nat.le_refl _
  | succ len ih =>
    unfold trim_back at h
    split at h
    · cases h
    split at h
    · exact Nat.le_succ_of_le (ih h)
    · cases h
      exact Nat.le_refl _

/-- What is left of a chunk lies inside it, and the chunk lies inside the array. -/
theorem trim_inv (h : trim data chk = .ok chk') :
    chk'.len = 0 ∨ ∃ p q, chk.p = some p ∧ chk'.p = some q ∧ p ≤ q ∧ q + chk'.len ≤ p + chk.len ∧
      p + chk.len ≤ SKB_SIZE := by
  unfold trim at h
  split at h
  · rename_i hzero
    cases h
    exact .inl hzero
  cases hp : chk.p with
  | none =>
    rw [hp] at h
    cases h
  | some p =>
    rw [hp] at h
    obtain ⟨⟨len, q⟩, hfront, h⟩ := Except.bind_eq_ok_iff.mp h
    obtain ⟨len', hback, h⟩ := Except.bind_eq_ok_iff.mp h
    cases h
    obtain ⟨hle, hsum⟩ := trim_front_inv hfront
    have hle' := trim_back_len_le hback
    obtain hzero | hin := trim_back_in hback
    · exact .inl (Nat.le_zero.1 (hzero ▸ hle'))
    · exact .inr ⟨p, q, rfl, rfl, hle, by simp only; omega, by omega⟩

/-- The characters of a trimmed value are those which the tokeniser lets pass. -/
theorem Collected.trim_class (h : Collected data chk) (htrim : trim data chk = .ok chk') :
    ∀ c ∈ chk'.bytes data, is_rfc7230_field_value c = true := by
  intro c hc
  obtain ⟨i, hi, rfl⟩ := List.mem_iff_getElem.1 hc
  simp only [Chunk.bytes, Memory.getElem_window]
  simp only [Chunk.bytes, Memory.length_window] at hi
  obtain hzero | ⟨p, q, hp, hq, hle, hend, hin⟩ := trim_inv htrim
  · omega
  rw [hq, Option.getD_some]
  obtain hzero | ⟨p', hp', hlong⟩ | ⟨p', hp', hclass⟩ := h
  · omega
  · rw [hp] at hp'
    cases hp'
    omega
  · rw [hp] at hp'
    cases hp'
    have hchar := hclass (q - p + i) (by omega)
    rwa [show p + (q - p + i) = q + i by omega] at hchar

/-- A string without terminators is copied as a whole. -/
theorem strncpy_cstr (h : ∀ c ∈ chk.bytes data, c ≠ 0) : strncpy (chk.cstr data) chk.len = chk.bytes data := by
  have hwhole : chk.cstr data = chk.bytes data := by
    refine List.takeWhile_eq_self_iff.2 fun c hc => ?_
    simpa using h c hc
  have hlen : (chk.bytes data).length = chk.len := Memory.length_window ..
  rw [hwhole, strncpy, List.take_of_length_le (Nat.le_of_eq hlen), hlen, Nat.sub_self, List.replicate_zero,
    List.append_nil]

end Trim

theorem field_value_ne_zero {c : UInt8} (h : is_rfc7230_field_value c = true) : c ≠ 0 := by
  rintro rfl
  exact absurd h (by decide)

theorem generate_accept_val_fits {ssl : Openssl} {data : Memory UInt8} {b b' : Skb} {hr hr' : HttpReq} {rv : Int}
    (h : generate_accept_val ssl data b hr = .ok (rv, b', hr')) {key : Chunk}
    (htrim : trim data hr.sec_ws_key = .ok key) : key.len ≤ 27 := by
  unfold generate_accept_val at h
  rw [htrim] at h
  simp only [Except.ok_bind] at h
  by_cases hlong : SCRATCH_SIZE < key.len + WS_GUID.length + 1
  · rw [if_pos hlong] at h
    cases h
  · have hguid : WS_GUID.length = 36 := rfl
    unfold SCRATCH_SIZE at hlong
    omega

theorem generate_accept_val_eq {data : Memory UInt8} {hr : HttpReq} {key : Chunk} (ssl : Openssl) (b : Skb)
    (hcollected : Collected data hr.sec_ws_key) (htrim : trim data hr.sec_ws_key = .ok key) (hfits : key.len ≤ 27) :
    generate_accept_val ssl data b hr = .ok (1, skb_put (skb_put (skb_put b
      (ssl.base64_sha1 (key.bytes data ++ WS_GUID))) [CR]) [LF], { hr with sec_ws_key := key }) := by
  have hguid : WS_GUID.length = 36 := rfl
  have hshort : ¬ SCRATCH_SIZE < key.len + WS_GUID.length + 1 := by
    unfold SCRATCH_SIZE
    omega
  have hkey (c : UInt8) (hc : c ∈ key.bytes data) : c ≠ 0 := field_value_ne_zero (hcollected.trim_class htrim c hc)
  have hwhole : (key.bytes data ++ WS_GUID).takeWhile (· ≠ 0) = key.bytes data ++ WS_GUID := by
    rw [List.takeWhile_eq_self_iff]
    intro c hc
    obtain hc | hc := List.mem_append.1 hc
    · simpa using hkey c hc
    · exact List.all_eq_true.1 (by decide : WS_GUID.all (· ≠ 0) = true) c hc
  unfold generate_accept_val
  rw [htrim]
  simp only [Except.ok_bind, if_neg hshort, strncpy_cstr hkey, hwhole, Except.pure_eq_ok]

/-- The key of a request, trimmed: what `generate_accept_val` finds. -/
def trimmed_key (sk : Sk) : Except Fault Chunk := do
  let tok ← http_header_tok sk.recvbuf.data (some sk.recvbuf.rdpos) none
  let line ← parse_request_line sk.recvbuf.data tok.2.1 {} tok.2.2.2
  let valid ← is_valid_req_line sk.recvbuf.data line.2.1
  let block ← header_loop sk.recvbuf.data (SKB_SIZE + 1) valid.2 tok.2.2.1
  trim sk.recvbuf.data block.2.1.sec_ws_key

theorem Parsed.trimmed_key {sk : Sk} {st : Statics} {tok : Chunk} {line hreq : HttpReq}
    (h : Parsed sk st tok line hreq) : trimmed_key sk = trim sk.recvbuf.data hreq.sec_ws_key := by
  obtain ⟨prev, e, ⟨rv, e1, rv', line', e2, htok, -, hparse, -, hvalid⟩, hwalk, rfl⟩ := h
  have hloop := @HeaderWalk.header_loop _ _ _ _ (SKB_SIZE + 1) hwalk (by decide) (fun p _ => by omega)
  have htok' : http_header_tok sk.recvbuf.data (some sk.recvbuf.rdpos) none = .ok (rv, tok, prev, e1) := htok
  unfold wsd.trimmed_key
  rw [htok']
  simp only [hparse, hvalid, hloop, Except.ok_bind]

end wsd
