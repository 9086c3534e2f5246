import Wsd.Http.Accept
import Wsd.Http.StartLine

namespace wsd

section Compare

variable {data : Memory UInt8}

theorem strncmp_eq_window {p : Nat} {lit : List UInt8} (h : strncmp_eq data p lit lit.length = true) :
    data.window p lit.length = lit := by
  induction lit generalizing p with
  | nil => rfl
  | cons c lit ih =>
    simp only [List.length_cons, strncmp_eq, Bool.and_eq_true, beq_iff_eq] at h
    rw [List.length_cons, Memory.window_succ, h.1, ih h.2]

/-- A comparison of as many characters as the literal has finds the literal. -/
theorem compare_at_bytes {chk : Chunk} {lit : List UInt8} (hlen : chk.len = lit.length)
    (h : compare_at (strncmp_eq data) chk.p lit chk.len = .ok true) : chk.bytes data = lit := by
  unfold compare_at at h
  by_cases hzero : chk.len = 0
  · have hlit : lit = [] := List.eq_nil_of_length_eq_zero (hlen ▸ hzero)
    rw [Chunk.bytes, hzero, hlit]
    rfl
  · rw [if_neg hzero] at h
    cases hp : chk.p with
    | none =>
      rw [hp] at h
      cases h
    | some p =>
      rw [hp, hlen] at h
      simp only [Except.ok.injEq] at h
      rw [Chunk.bytes, hp, Option.getD_some, hlen, strncmp_eq_window h]

end Compare

/-- A call through a condition which is computed takes one of the branches. -/
theorem branch_eq_ok {α : Type} {cond : Except Fault Bool} {x y : Except Fault α} {a : α}
    (h : (cond >>= fun b => if b = true then x else y) = .ok a) : x = .ok a ∨ y = .ok a := by
  obtain ⟨b, -, h⟩ := Except.bind_eq_ok_iff.mp h
  cases b with
  | false => exact Or.inr h
  | true => exact Or.inl h

section RequestLine

variable {data : Memory UInt8}

theorem is_valid_req_line_inv {hreq hreq' : HttpReq} (h : is_valid_req_line data hreq = .ok (true, hreq')) :
    hreq' = { hreq with is_uri_abs := hreq'.is_uri_abs } ∧
      (hreq.method.len = 3 → hreq.method.bytes data = ascii "GET") := by
  have hrest {is_get : Bool} (hr : (if (!is_get) = true then .ok (false, hreq) else do
      if ← compare_at (strncmp_eq data) hreq.req_target.p (ascii "*") hreq.req_target.len then
        return (false, hreq)
      else if ← compare_at (strncasecmp_eq data) hreq.req_target.p (ascii "http://") 7 then
        return (true, { hreq with is_uri_abs := true })
      else
        return (true, hreq) : Except Fault (Bool × HttpReq)) = .ok (true, hreq')) :
      is_get = true ∧ hreq' = { hreq with is_uri_abs := hreq'.is_uri_abs } := by
    cases is_get with
    | false => cases hr
    | true =>
      refine ⟨rfl, ?_⟩
      rw [if_neg (by decide)] at hr
      obtain hr | hr := branch_eq_ok hr
      · cases hr
      obtain hr | hr := branch_eq_ok hr
      · cases hr
        rfl
      · cases hr
        rfl
  unfold is_valid_req_line at h
  by_cases hlen : hreq.method.len = 3
  · simp only [if_pos hlen] at h
    obtain ⟨is_get, hget, h⟩ := Except.bind_eq_ok_iff.mp h
    obtain ⟨rfl, hsame⟩ := hrest h
    refine ⟨hsame, fun _ => compare_at_bytes hlen ?_⟩
    rw [hlen]
    exact hget
  · simp only [if_neg hlen] at h
    obtain ⟨-, hmethod⟩ := @hrest true h
    exact ⟨hmethod, fun h3 => absurd h3 hlen⟩

end RequestLine

/-- The request line, and the request with its header fields, which `http_recv` has
    parsed. -/
def Parsed (sk : Sk) (st : Statics) (tok : Chunk) (line hreq : HttpReq) : Prop :=
  ∃ prev e, RequestLine sk st tok line prev ∧ HeaderWalk sk.recvbuf.data line prev e ∧ e.hreq = hreq

section Handshake

variable {cfg : Config} {ssl : Openssl} {data : Memory UInt8} {hreq hreq' : HttpReq}

theorem is_valid_ver_inv (h : is_valid_ver data hreq = .ok (true, hreq')) :
    hreq'.sec_ws_proto = hreq.sec_ws_proto ∧ ∃ chk, trim data hreq.sec_ws_ver = .ok chk ∧
      compare_at (strncmp_eq data) chk.p FLD_SEC_WS_VER_VAL chk.len = .ok true := by
  unfold is_valid_ver at h
  obtain ⟨chk, htrim, h⟩ := Except.bind_eq_ok_iff.mp h
  obtain ⟨valid, hcompare, h⟩ := Except.bind_eq_ok_iff.mp h
  cases h
  exact ⟨rfl, chk, htrim, hcompare⟩

theorem check_proto_inv (h : check_proto cfg data hreq = .ok (true, hreq')) {proto : List UInt8}
    (hproto : cfg.sec_ws_proto = some proto) : ∃ chk, trim data hreq.sec_ws_proto = .ok chk ∧
      compare_at (strncmp_eq data) chk.p proto chk.len = .ok true := by
  unfold check_proto at h
  rw [hproto] at h
  obtain ⟨chk, htrim, h⟩ := Except.bind_eq_ok_iff.mp h
  obtain ⟨valid, hcompare, h⟩ := Except.bind_eq_ok_iff.mp h
  cases h
  exact ⟨chk, htrim, hcompare⟩

/-- A successful handshake has checked version and protocol. -/
theorem ws_decode_handshake_inv {sk sk' : Sk} {wsd_errno errno' : Errno}
    (h : ws_decode_handshake cfg ssl sk hreq wsd_errno = .ok (0, sk', errno')) :
    ∃ hreq1 hreq2, is_valid_ver sk.recvbuf.data hreq = .ok (true, hreq1) ∧
      check_proto cfg sk.recvbuf.data hreq1 = .ok (true, hreq2) := by
  have hfailed {sk1 : Sk} (hbad : (pure (handshake_error sk1) : Except Fault (Int × Sk × Errno)) =
      .ok (0, sk', errno')) : False := by
    have hzero := congrArg Prod.fst (Except.ok.inj hbad)
    rw [handshake_error_rv] at hzero
    cases hzero
  unfold ws_decode_handshake at h
  obtain ⟨⟨valid, hreq1⟩, hver, h⟩ := Except.bind_eq_ok_iff.mp h
  cases valid with
  | false => exact (hfailed h).elim
  | true =>
    simp only [Bool.not_true, Bool.false_eq_true, if_false] at h
    obtain ⟨⟨valid, hreq2⟩, hproto, h⟩ := Except.bind_eq_ok_iff.mp h
    cases valid with
    | false => exact (hfailed h).elim
    | true => exact ⟨hreq1, hreq2, hver, hproto⟩

/-- What a successful handshake has checked of the parsed request. -/
theorem http_recv_checked {sk sk' : Sk} {st st' : Statics} {wsd_errno : Errno} {tok : Chunk} {line : HttpReq}
    (h : http_recv cfg ssl sk st = .ok (0, sk', st', wsd_errno)) (hparsed : Parsed sk st tok line hreq) :
    hreq.host.len ≠ 0 ∧ ∃ hreq1 hreq2, is_valid_ver sk.recvbuf.data hreq = .ok (true, hreq1) ∧
      check_proto cfg sk.recvbuf.data hreq1 = .ok (true, hreq2) := by
  obtain ⟨prev, e, hline, hwalk, rfl⟩ := hparsed
  obtain ⟨hrdsz, hrnrn, -⟩ := http_recv_walk fun hrefused : Refused (http_recv cfg ssl sk st) => by
    have hrv := hrefused.1 _ h
    cases hrv
  rw [http_recv_walked cfg ssl hrdsz hrnrn hline hwalk] at h
  obtain ⟨⟨valid, field⟩, hfields, h⟩ := Except.bind_eq_ok_iff.mp h
  cases valid with
  | false =>
    have hrv := bad_request_rv (put_response sk http.HTTP_400)
      { http_header_tok := e.prev, http_field_value_tok := field.prev }
    have hzero := congrArg Prod.fst (Except.ok.inj h)
    rw [hrv] at hzero
    cases hzero
  | true =>
    simp only [Bool.not_true, Bool.false_eq_true, if_false] at h
    obtain ⟨⟨rv, sk1, e1⟩, hdecode, h⟩ := Except.bind_eq_ok_iff.mp h
    cases h
    refine ⟨fun hzero => ?_, ?_⟩
    · unfold valid_fields is_valid_host_header_field at hfields
      simp only [hzero, ne_eq, not_true_eq_false, decide_false, Bool.not_false, if_true, Except.pure_eq_ok,
        Except.ok.injEq, Prod.mk.injEq] at hfields
      exact absurd hfields.1 (by decide)
    · cases hproto : sk.proto.decode_handshake with
      | none =>
        rw [hproto] at hdecode
        cases hdecode
      | some handler =>
        rw [hproto] at hdecode
        cases handler
        exact @ws_decode_handshake_inv _ _ _ { sk with recvbuf := skb_reset sk.recvbuf } _ _ _ hdecode

end Handshake

namespace Sample

/-- A client which has sent a request line and the given header block. -/
def handshaking (line headers : String) : Sk :=
  { sk_init 5 7 with
    recvbuf := Skb.ofBytes (ascii line ++ ascii headers ++ ascii "\r\n")
    proto := { decode_handshake := some .ws_decode_handshake } }

def key : String :=
  "Sec-WebSocket-Key: dGhlIHNhbXBsZSBub25jZQ==\r\n"

def chatting : Sk :=
  handshaking "GET / HTTP/1.1\r\n"
    (checked ++ key ++ "Sec-WebSocket-Version: 13\r\nSec-WebSocket-Protocol: chat\r\n")

theorem chatting_accepted : ∃ r, http_recv cfg digest chatting {} = .ok (0, r) :=
  Except.exists_ok_fst (by decide +kernel)

end Sample

end wsd
