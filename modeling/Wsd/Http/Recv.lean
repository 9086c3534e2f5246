import Wsd.Http.Handshake

namespace wsd

/-- The macro `HTTP_400` of `http.c`. -/
def http.HTTP_400 : List UInt8 :=
  ascii "HTTP/1.1 400 Bad Request\r\nContent-Length: 0\r\n\r\n"

/-- The static variables `prev` of the two tokenisers. -/
structure Statics where
  http_header_tok : Option Nat := none
  http_field_value_tok : Option Chunk := none
  deriving DecidableEq, Repr

/-- The loop over the header fields: whether all were parsed, the request, and
    the tokeniser's state. -/
def header_loop (data : Memory UInt8) : Nat → HttpReq → Option Nat →
    Except Fault (Bool × HttpReq × Option Nat × Errno)
  | 0, _, _ => .error .unfinished
  | fuel + 1, hreq, prev => do
    let (rv, tok, prev, wsd_errno) ← http_header_tok data none prev
    if 0 < rv then
      let (rv, hreq) ← parse_header_field data tok hreq
      if rv < 0 then
        return (false, hreq, prev, wsd_errno)
      else
        header_loop data fuel hreq prev
    else
      return (true, hreq, prev, wsd_errno)

/-- The indirect call through a protocol's `decode_handshake`. -/
def decode_handshake : Option DecodeHandshake → Config → Openssl → Sk → HttpReq → Errno →
    Except Fault (Int × Sk × Errno)
  | none, _, _, _, _, _ => .error .null_function
  | some .ws_decode_handshake, cfg, ssl, sk, req, wsd_errno => ws_decode_handshake cfg ssl sk req wsd_errno

/-- The failing path of `http_recv`. -/
def bad_request (sk : Sk) (st : Statics) : Int × Sk × Statics × Errno :=
  ((handshake_error sk).1, (handshake_error sk).2.1, st, (handshake_error sk).2.2)

def http_recv (cfg : Config) (ssl : Openssl) (sk : Sk) (st : Statics) :
    Except Fault (Int × Sk × Statics × Errno) := do
  assert .http_recv_rdsz (skb_rdsz sk.recvbuf ≠ 0)
  if !has_rnrn_termination sk.recvbuf then
    return (-1, sk, st, .WSD_EINPUT)
  else
    let data := sk.recvbuf.data
    let (rv, tok, prev, wsd_errno) ← http_header_tok data (some sk.recvbuf.rdpos) st.http_header_tok
    let st := { st with http_header_tok := prev }
    if rv < 0 then
      return bad_request sk st
    else
      let (rv, hreq, _) ← parse_request_line data tok {} wsd_errno
      if rv < 0 then
        return bad_request (put_response sk http.HTTP_400) st
      else
        let (valid, hreq) ← is_valid_req_line data hreq
        if !valid then
          return bad_request (put_response sk http.HTTP_400) st
        else
          let (parsed, hreq, prev, wsd_errno) ← header_loop data (SKB_SIZE + 1) hreq prev
          let st := { st with http_header_tok := prev }
          if !parsed then
            return bad_request (put_response sk http.HTTP_400) st
          else if !is_valid_host_header_field hreq then
            return bad_request (put_response sk http.HTTP_400) st
          else
            let (valid, tok) ←
              is_valid_upgrade_header_field data hreq { prev := st.http_field_value_tok, wsd_errno }
            let st := { st with http_field_value_tok := tok.prev }
            if !valid then
              return bad_request (put_response sk http.HTTP_400) st
            else
              let (valid, tok) ← is_valid_connection_header_field data hreq tok
              let st := { st with http_field_value_tok := tok.prev }
              if !valid then
                return bad_request (put_response sk http.HTTP_400) st
              else
                let sk := { sk with recvbuf := skb_reset sk.recvbuf }
                let (rv, sk, wsd_errno) ←
                  decode_handshake sk.proto.decode_handshake cfg ssl sk hreq tok.wsd_errno
                return (rv, sk, st, wsd_errno)

theorem bad_request_failed {sk sk' : Sk} {st st' : Statics} {rv : Int} {wsd_errno : Errno}
    (h : bad_request (put_response sk http.HTTP_400) st = (rv, sk', st', wsd_errno)) :
    HandshakeFailed sk sk' rv wsd_errno := by
  simp only [bad_request, Prod.mk.injEq] at h
  obtain ⟨rfl, rfl, -, rfl⟩ := h
  exact handshake_error_put_response id rfl

/-- The header block is incomplete and nothing changes, or the handshake fails
    or succeeds as a whole. -/
theorem http_recv_cases {cfg : Config} {ssl : Openssl} {sk sk' : Sk} {st st' : Statics} {rv : Int} {wsd_errno : Errno}
    (h : http_recv cfg ssl sk st = .ok (rv, sk', st', wsd_errno)) :
    (rv = -1 ∧ wsd_errno = .WSD_EINPUT ∧ sk' = sk) ∨ HandshakeFailed sk sk' rv wsd_errno ∨
      HandshakeDone sk sk' rv := by
  unfold http_recv at h
  obtain ⟨-, -, h⟩ := Except.bind_eq_ok_iff.mp h
  by_cases hrnrn : (!has_rnrn_termination sk.recvbuf) = true
  · rw [if_pos hrnrn] at h
    cases h
    exact Or.inl ⟨rfl, rfl, rfl⟩
  rw [if_neg hrnrn] at h
  right
  have hbad {st1 st2 : Statics} {sk2 : Sk} {rv2 : Int} {e2 : Errno}
      (hbad : pure (bad_request (put_response sk http.HTTP_400) st1) =
        (.ok (rv2, sk2, st2, e2) : Except Fault (Int × Sk × Statics × Errno))) : HandshakeFailed sk sk2 rv2 e2 :=
    bad_request_failed (Except.ok.inj hbad)
  obtain ⟨⟨rv1, tok, prev, e1⟩, -, h⟩ := Except.bind_eq_ok_iff.mp h
  by_cases htok : rv1 < 0
  · simp only [if_pos htok] at h
    simp only [bad_request, Except.pure_eq_ok, Except.ok.injEq, Prod.mk.injEq] at h
    obtain ⟨rfl, rfl, -, rfl⟩ := h
    exact Or.inl (handshake_error_failed sk.close_on_write id)
  simp only [if_neg htok] at h
  obtain ⟨⟨rv2, hreq, e2⟩, -, h⟩ := Except.bind_eq_ok_iff.mp h
  by_cases hline : rv2 < 0
  · simp only [if_pos hline] at h
    exact Or.inl (hbad h)
  simp only [if_neg hline] at h
  obtain ⟨⟨valid, hreq⟩, -, h⟩ := Except.bind_eq_ok_iff.mp h
  cases valid with
  | false => exact Or.inl (hbad h)
  | true =>
    simp only [Bool.not_true, Bool.false_eq_true, if_false] at h
    obtain ⟨⟨parsed, hreq, prev, e3⟩, -, h⟩ := Except.bind_eq_ok_iff.mp h
    cases parsed with
    | false => exact Or.inl (hbad h)
    | true =>
      simp only [Bool.not_true, Bool.false_eq_true, if_false] at h
      by_cases hhost : (!is_valid_host_header_field hreq) = true
      · rw [if_pos hhost] at h
        exact Or.inl (hbad h)
      rw [if_neg hhost] at h
      obtain ⟨⟨valid, tok⟩, -, h⟩ := Except.bind_eq_ok_iff.mp h
      cases valid with
      | false => exact Or.inl (hbad h)
      | true =>
        simp only [Bool.not_true, Bool.false_eq_true, if_false] at h
        obtain ⟨⟨valid, tok⟩, -, h⟩ := Except.bind_eq_ok_iff.mp h
        cases valid with
        | false => exact Or.inl (hbad h)
        | true =>
          simp only [Bool.not_true, Bool.false_eq_true, if_false] at h
          obtain ⟨⟨rv3, sk3, e4⟩, hdecode, h⟩ := Except.bind_eq_ok_iff.mp h
          cases h
          cases hproto : sk.proto.decode_handshake with
          | none =>
            rw [hproto] at hdecode
            cases hdecode
          | some handler =>
            rw [hproto] at hdecode
            cases handler
            obtain hfailed | hdone := @ws_decode_handshake_cases _ _ { sk with recvbuf := skb_reset sk.recvbuf } _ _ _
                _ _ hdecode
            · exact Or.inl ⟨hfailed.rv_eq, hfailed.errno_eq, hfailed.sendbuf_ok, hfailed.events_eq, hfailed.sk_eq⟩
            · exact Or.inr ⟨hdone.rv_eq, hdone.sendbuf_ok, hdone.recvbuf_ok, hdone.rdsz_eq, hdone.wrpos_eq,
                hdone.events_eq, hdone.sk_eq⟩

end wsd
