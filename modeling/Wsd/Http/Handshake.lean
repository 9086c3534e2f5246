import Wsd.Common.Io
import Wsd.Http.Request

namespace wsd

def HTTP_101 : List UInt8 :=
  ascii "HTTP/1.1 101 Switching Protocols\r\nUpgrade: websocket\r\nConnection: Upgrade\r\nSec-WebSocket-Accept: "

/-- The macro `HTTP_400` of `ws_wsd.c`. -/
def ws_wsd.HTTP_400 : List UInt8 :=
  ascii "HTTP/1.1 400 Bad Request\r\nSec-WebSocket-Version: 13\r\nContent-Length: 0\r\n\r\n"

def HTTP_500 : List UInt8 :=
  ascii "HTTP/1.1 500 Internal Server Error\r\nContent-Length: 0\r\n\r\n"

def WS_VER : List UInt8 := ascii "Sec-WebSocket-Version: "
def WS_PROTO : List UInt8 := ascii "Sec-WebSocket-Protocol: "
def WS_GUID : List UInt8 := ascii "258EAFA5-E914-47DA-95CA-C5AB0DC85B11"
def FLD_SEC_WS_VER_VAL : List UInt8 := ascii "13"
def WS_ACCEPT_KEY_LEN : Nat := 28
def SCRATCH_SIZE : Nat := 64

/-- What the cryptographic library computes: the base64 text of a message's
    SHA-1 digest, without the line end behind it. -/
structure Openssl where
  base64_sha1 : List UInt8 → List UInt8
  length : ∀ m, (base64_sha1 m).length = WS_ACCEPT_KEY_LEN

/-- `strcpy` to the write position, which then moves past the string but not past its
    terminator. The callers check that there is room for the string: where there is none left
    behind it, the terminator falls behind the array, at index `SKB_SIZE`, which no access faults. -/
def skb_strcpy (b : Skb) (s : List UInt8) : Skb :=
  { b with data := b.data.store b.wrpos (s ++ [0]), wrpos := u32 (b.wrpos + s.length) }

/-- The string at a chunk's pointer, cut to its length, as `strncpy` reads it. -/
def Chunk.cstr (data : Memory UInt8) (chk : Chunk) : List UInt8 :=
  (data.window (chk.p.getD 0) chk.len).takeWhile (· ≠ 0)

def is_valid_ver (data : Memory UInt8) (hr : HttpReq) : Except Fault (Bool × HttpReq) := do
  let sec_ws_ver ← trim data hr.sec_ws_ver
  let valid ← compare_at (strncmp_eq data) sec_ws_ver.p FLD_SEC_WS_VER_VAL sec_ws_ver.len
  return (valid, { hr with sec_ws_ver })

def is_valid_proto (data : Memory UInt8) (proto : List UInt8) (hr : HttpReq) :
    Except Fault (Bool × HttpReq) := do
  let sec_ws_proto ← trim data hr.sec_ws_proto
  let valid ← compare_at (strncmp_eq data) sec_ws_proto.p proto sec_ws_proto.len
  return (valid, { hr with sec_ws_proto })

/-- The protocol is checked only if one is configured. -/
def check_proto (cfg : Config) (data : Memory UInt8) (hr : HttpReq) : Except Fault (Bool × HttpReq) :=
  match cfg.sec_ws_proto with
  | none => .ok (true, hr)
  | some proto => is_valid_proto data proto hr

/-- The key is concatenated with the GUID in a local array. -/
def generate_accept_val (ssl : Openssl) (data : Memory UInt8) (b : Skb) (hr : HttpReq) :
    Except Fault (Int × Skb × HttpReq) := do
  let sec_ws_key ← trim data hr.sec_ws_key
  if SCRATCH_SIZE < sec_ws_key.len + WS_GUID.length + 1 then
    throw .out_of_bounds
  else
    let scratch := strncpy (sec_ws_key.cstr data) sec_ws_key.len ++ WS_GUID
    let md := ssl.base64_sha1 (scratch.takeWhile (· ≠ 0))
    let b := skb_put b md
    return (1, skb_put (skb_put b [CR]) [LF], { hr with sec_ws_key })

def prepare_handshake (ssl : Openssl) (data : Memory UInt8) (b : Skb) (req : HttpReq) :
    Except Fault (Int × Skb × HttpReq) := do
  if skb_wrsz b < HTTP_101.length then
    return (-1, b, req)
  else
    let old_wrpos := b.wrpos
    let b := skb_strcpy b HTTP_101
    if skb_wrsz b < WS_ACCEPT_KEY_LEN + 2 then
      return (-1, { b with wrpos := old_wrpos }, req)
    else
      let (_, b, req) ← generate_accept_val ssl data b req
      if skb_wrsz b < WS_VER.length + FLD_SEC_WS_VER_VAL.length + 2 then
        return (-1, { b with wrpos := old_wrpos }, req)
      else
        let b := skb_strcpy (skb_strcpy b WS_VER) FLD_SEC_WS_VER_VAL
        let b := skb_put (skb_put b [CR]) [LF]
        let sec_ws_proto ← trim data req.sec_ws_proto
        let req := { req with sec_ws_proto }
        if skb_wrsz b < u32 (WS_PROTO.length + sec_ws_proto.len + 2) then
          return (-1, { b with wrpos := old_wrpos }, req)
        else
          let b := skb_strcpy b WS_PROTO
          let b := skb_put b (strncpy (sec_ws_proto.cstr data) sec_ws_proto.len)
          let b := skb_put (skb_put b [CR]) [LF]
          if skb_wrsz b < 2 then
            return (-1, { b with wrpos := old_wrpos }, req)
          else
            return (0, skb_put (skb_put b [CR]) [LF], req)

/-- Puts an error response, after whose delivery the socket is closed. -/
def put_response (sk : Sk) (response : List UInt8) : Sk :=
  match skb_put_strn sk.sendbuf response response.length with
  | (0, sendbuf) => { sk with sendbuf, close_on_write := true }
  | (_, sendbuf) => { sk with sendbuf }

/-- The common end of the failing paths, at the label `error`. -/
def handshake_error (sk : Sk) : Int × Sk × Errno :=
  let sk := { sk with recvbuf := skb_reset sk.recvbuf }
  if sk.close_on_write then
    let sk := turn_off_events sk EPOLLIN
    (-1, if !sk.events.EPOLLOUT then turn_on_events sk EPOLLOUT else sk, .WSD_EBADREQ)
  else
    (-1, sk, .WSD_EBADREQ)

/-- The handlers of a socket in websocket mode. -/
def upgrade (sk : Sk) : Sk :=
  { sk with
    proto := { sk.proto with
      decode_frame := some .ws_decode_frame
      encode_frame := some .ws_encode_frame
      ping := some .ws_ping
      pong := some .ws_pong
      start_closing_handshake := some .ws_start_closing_handshake }
    ops := { sk.ops with recv := some .ws_recv } }

def ws_decode_handshake (cfg : Config) (ssl : Openssl) (sk : Sk) (req : HttpReq) (wsd_errno : Errno) :
    Except Fault (Int × Sk × Errno) := do
  let data := sk.recvbuf.data
  let (valid, req) ← is_valid_ver data req
  if !valid then
    return handshake_error (put_response sk ws_wsd.HTTP_400)
  else
    let (valid, req) ← check_proto cfg data req
    if !valid then
      return handshake_error (put_response sk ws_wsd.HTTP_400)
    else
      assert .ws_decode_handshake_sendbuf_wrsz (skb_wrsz sk.sendbuf ≠ 0)
      let (rv, sendbuf, _) ← prepare_handshake ssl data sk.sendbuf req
      let sk := { sk with sendbuf }
      if rv < 0 then
        return handshake_error (put_response sk HTTP_500)
      else
        let sk := upgrade sk
        assert .ws_decode_handshake_recvbuf_rdsz (skb_rdsz sk.recvbuf = 0)
        assert .ws_decode_handshake_sendbuf_wrsz (skb_wrsz sk.sendbuf ≠ 0)
        let sk := { sk with recvbuf := skb_compact sk.recvbuf }
        return (0, if !sk.events.EPOLLOUT then turn_on_events sk EPOLLOUT else sk, wsd_errno)

namespace Skb

variable {b b' : Skb}

/-- Whether the positions are in order does not depend on the contents. -/
theorem Ok.of_pos (h : b.Ok) (hrd : b'.rdpos = b.rdpos) (hwr : b'.wrpos = b.wrpos) : b'.Ok := by
  obtain ⟨hle, hsize⟩ := h
  constructor
  · rwa [hrd, hwr]
  · rwa [hwr]

theorem Ok.strcpy (h : b.Ok) {s : List UInt8} (hroom : s.length ≤ skb_wrsz b) : (skb_strcpy b s).Ok :=
  (h.put hroom).of_pos rfl rfl

theorem Ok.wrsz_strcpy (h : b.Ok) {s : List UInt8} (hroom : s.length ≤ skb_wrsz b) :
    skb_wrsz (skb_strcpy b s) = skb_wrsz b - s.length :=
  h.wrsz_put hroom

end Skb

theorem length_strncpy (s : List UInt8) (n : Nat) : (strncpy s n).length = n := by
  simp [strncpy]
  omega

theorem generate_accept_val_ok {ssl : Openssl} {data : Memory UInt8} {b b' : Skb} {hr hr' : HttpReq} {rv : Int}
    (hok : b.Ok) (hroom : WS_ACCEPT_KEY_LEN + 2 ≤ skb_wrsz b)
    (h : generate_accept_val ssl data b hr = .ok (rv, b', hr')) : b'.Ok ∧ b'.rdpos = b.rdpos := by
  have hkey : WS_ACCEPT_KEY_LEN = 28 := rfl
  unfold generate_accept_val at h
  obtain ⟨sec_ws_key, -, h⟩ := Except.bind_eq_ok_iff.mp h
  by_cases hlong : SCRATCH_SIZE < sec_ws_key.len + WS_GUID.length + 1
  · rw [if_pos hlong] at h
    cases h
  · rw [if_neg hlong] at h
    cases h
    have hmd := ssl.length ((strncpy (sec_ws_key.cstr data) sec_ws_key.len ++ WS_GUID).takeWhile (· ≠ 0))
    have hroom : (ssl.base64_sha1 _).length ≤ skb_wrsz b := Nat.le_trans (Nat.le_of_eq hmd) (by omega)
    have hput := hok.put hroom
    have hleft := hok.wrsz_put hroom
    rw [hmd] at hleft
    have hcr := hput.put_byte CR (by omega)
    have hleft' := hput.wrsz_put_byte CR (by omega)
    exact ⟨hcr.put_byte LF (by omega), rfl⟩

/-- Every part of the response is checked against the room before it is put; a
    failure takes the parts back. -/
theorem prepare_handshake_ok {ssl : Openssl} {data : Memory UInt8} {b b' : Skb} {req req' : HttpReq} {rv : Int}
    (hok : b.Ok) (h : prepare_handshake ssl data b req = .ok (rv, b', req')) : b'.Ok := by
  unfold prepare_handshake at h
  by_cases h101 : skb_wrsz b < HTTP_101.length
  · rw [if_pos h101] at h
    cases h
    exact hok
  rw [if_neg h101] at h
  have hok1 := hok.strcpy (Nat.not_lt.mp h101)
  have hback {b1 : Skb} (hpos : b1.rdpos = b.rdpos) : ({ b1 with wrpos := b.wrpos } : Skb).Ok :=
    hok.of_pos hpos rfl
  by_cases hkey : skb_wrsz (skb_strcpy b HTTP_101) < WS_ACCEPT_KEY_LEN + 2
  · simp only [if_pos hkey] at h
    cases h
    exact hback rfl
  simp only [if_neg hkey] at h
  obtain ⟨⟨rv2, b2, req2⟩, hgen, h⟩ := Except.bind_eq_ok_iff.mp h
  obtain ⟨hok2, hrd2⟩ := generate_accept_val_ok hok1 (Nat.not_lt.mp hkey) hgen
  by_cases hver : skb_wrsz b2 < WS_VER.length + FLD_SEC_WS_VER_VAL.length + 2
  · simp only [if_pos hver] at h
    cases h
    exact hback hrd2
  simp only [if_neg hver] at h
  have hok3 := hok2.strcpy (s := WS_VER) (by omega)
  have hleft3 := hok2.wrsz_strcpy (s := WS_VER) (by omega)
  have hok4 := hok3.strcpy (s := FLD_SEC_WS_VER_VAL) (by omega)
  have hleft4 := hok3.wrsz_strcpy (s := FLD_SEC_WS_VER_VAL) (by omega)
  have hok5 := hok4.put_byte CR (by omega)
  have hleft5 := hok4.wrsz_put_byte CR (by omega)
  have hok6 := hok5.put_byte LF (by omega)
  obtain ⟨proto, htrim, h⟩ := Except.bind_eq_ok_iff.mp h
  have hrd6 : (skb_put (skb_put (skb_strcpy (skb_strcpy b2 WS_VER) FLD_SEC_WS_VER_VAL) [CR]) [LF]).rdpos = b.rdpos :=
    hrd2
  generalize skb_put (skb_put (skb_strcpy (skb_strcpy b2 WS_VER) FLD_SEC_WS_VER_VAL) [CR]) [LF] = b6 at h hok6 hrd6
  have hproto : WS_PROTO.length = 24 := rfl
  have hlen : u32 (WS_PROTO.length + proto.len + 2) = WS_PROTO.length + proto.len + 2 := by
    have hle := trim_len_le htrim
    unfold SKB_SIZE at hle
    exact u32_of_lt (by omega)
  by_cases hroom : skb_wrsz b6 < u32 (WS_PROTO.length + proto.len + 2)
  · simp only [if_pos hroom] at h
    cases h
    exact hback hrd6
  simp only [if_neg hroom] at h
  rw [hlen] at hroom
  have hok7 := hok6.strcpy (s := WS_PROTO) (by omega)
  have hleft7 := hok6.wrsz_strcpy (s := WS_PROTO) (by omega)
  have hval := length_strncpy (proto.cstr data) proto.len
  have hroom8 : (strncpy (proto.cstr data) proto.len).length ≤ skb_wrsz (skb_strcpy b6 WS_PROTO) := by omega
  have hok8 := hok7.put hroom8
  have hleft8 := hok7.wrsz_put hroom8
  have hok9 := hok8.put_byte CR (by omega)
  have hleft9 := hok8.wrsz_put_byte CR (by omega)
  have hok10 := hok9.put_byte LF (by omega)
  have hrd10 : (skb_put (skb_put (skb_put (skb_strcpy b6 WS_PROTO) (strncpy (proto.cstr data) proto.len)) [CR])
      [LF]).rdpos = b.rdpos := hrd6
  generalize skb_put (skb_put (skb_put (skb_strcpy b6 WS_PROTO) (strncpy (proto.cstr data) proto.len)) [CR])
      [LF] = b10 at h hok10 hrd10
  by_cases hend : skb_wrsz b10 < 2
  · simp only [if_pos hend] at h
    cases h
    exact hback hrd10
  simp only [if_neg hend] at h
  cases h
  have hok11 := hok10.put_byte CR (by omega)
  have hleft11 := hok10.wrsz_put_byte CR (by omega)
  exact hok11.put_byte LF (by omega)

/-- What an error response may change of a socket. -/
theorem put_response_eq (sk : Sk) (response : List UInt8) :
    ∃ sendbuf close_on_write, put_response sk response = { sk with sendbuf, close_on_write } ∧
      (sk.sendbuf.Ok → sendbuf.Ok) := by
  unfold put_response skb_put_strn
  by_cases hroom : skb_wrsz sk.sendbuf < response.length
  · rw [if_pos hroom]
    exact ⟨sk.sendbuf, sk.close_on_write, rfl, id⟩
  · rw [if_neg hroom]
    exact ⟨_, true, rfl, fun hsend => (hsend.put (Nat.not_lt.mp hroom)).of_pos rfl rfl⟩

/-- A socket after a failed handshake: the request is dropped, and a response
    may have been put. -/
structure HandshakeFailed (sk sk' : Sk) (rv : Int) (wsd_errno : Errno) : Prop where
  rv_eq : rv = -1
  errno_eq : wsd_errno = .WSD_EBADREQ
  sendbuf_ok : sk.sendbuf.Ok → sk'.sendbuf.Ok
  events_eq : sk'.events =
    if sk'.close_on_write then (sk.events.diff EPOLLIN).union EPOLLOUT else sk.events
  sk_eq : sk' = { sk with
    recvbuf := skb_reset sk.recvbuf
    sendbuf := sk'.sendbuf
    close_on_write := sk'.close_on_write
    events := sk'.events }

/-- A socket after a successful handshake: it is in websocket mode. -/
structure HandshakeDone (sk sk' : Sk) (rv : Int) : Prop where
  rv_eq : rv = 0
  sendbuf_ok : sk.sendbuf.Ok → sk'.sendbuf.Ok
  recvbuf_ok : sk'.recvbuf.Ok
  rdsz_eq : skb_rdsz sk'.recvbuf = 0
  wrpos_eq : sk'.recvbuf.wrpos = 0
  events_eq : sk'.events = sk.events.union EPOLLOUT
  sk_eq : sk' = { upgrade sk with recvbuf := sk'.recvbuf, sendbuf := sk'.sendbuf, events := sk'.events }

theorem handshake_error_failed {sk : Sk} {sendbuf : Skb} (close_on_write : Bool)
    (hok : sk.sendbuf.Ok → sendbuf.Ok) :
    HandshakeFailed sk (handshake_error { sk with sendbuf, close_on_write }).2.1
      (handshake_error { sk with sendbuf, close_on_write }).1
      (handshake_error { sk with sendbuf, close_on_write }).2.2 := by
  unfold handshake_error
  cases close_on_write with
  | false => exact ⟨rfl, rfl, hok, rfl, rfl⟩
  | true =>
    simp only [if_true, turn_on_out]
    exact ⟨rfl, rfl, hok, rfl, rfl⟩

theorem handshake_error_put_response {sk sk' : Sk} {sendbuf : Skb} {response : List UInt8} {rv : Int}
    {wsd_errno : Errno} (hok : sk.sendbuf.Ok → sendbuf.Ok)
    (h : handshake_error (put_response { sk with sendbuf } response) = (rv, sk', wsd_errno)) :
    HandshakeFailed sk sk' rv wsd_errno := by
  obtain ⟨sendbuf', close_on_write, hput, hok'⟩ := put_response_eq { sk with sendbuf } response
  have hfailed := @handshake_error_failed sk _ close_on_write (fun hsend => hok' (hok hsend))
  rw [hput] at h
  rw [h] at hfailed
  exact hfailed

/-- A handshake fails or succeeds as a whole. -/
theorem ws_decode_handshake_cases {cfg : Config} {ssl : Openssl} {sk sk' : Sk} {req : HttpReq}
    {wsd_errno errno' : Errno} {rv : Int}
    (h : ws_decode_handshake cfg ssl sk req wsd_errno = .ok (rv, sk', errno')) :
    HandshakeFailed sk sk' rv errno' ∨ HandshakeDone sk sk' rv := by
  unfold ws_decode_handshake at h
  obtain ⟨⟨valid, req1⟩, -, h⟩ := Except.bind_eq_ok_iff.mp h
  cases valid with
  | false =>
    simp only [Bool.not_false, if_true, Except.pure_eq_ok, Except.ok.injEq] at h
    exact Or.inl (handshake_error_put_response id h)
  | true =>
    simp only [Bool.not_true, Bool.false_eq_true, if_false] at h
    obtain ⟨⟨valid, req2⟩, -, h⟩ := Except.bind_eq_ok_iff.mp h
    cases valid with
    | false =>
      simp only [Bool.not_false, if_true, Except.pure_eq_ok, Except.ok.injEq] at h
      exact Or.inl (handshake_error_put_response id h)
    | true =>
      simp only [Bool.not_true, Bool.false_eq_true, if_false] at h
      obtain ⟨-, -, h⟩ := Except.bind_eq_ok_iff.mp h
      obtain ⟨⟨rv', sendbuf, req3⟩, hprepare, h⟩ := Except.bind_eq_ok_iff.mp h
      have hok : sk.sendbuf.Ok → sendbuf.Ok := fun hsend => prepare_handshake_ok hsend hprepare
      by_cases hneg : rv' < 0
      · simp only [if_pos hneg, Except.pure_eq_ok, Except.ok.injEq] at h
        exact Or.inl (handshake_error_put_response hok h)
      · simp only [if_neg hneg] at h
        obtain ⟨_, hrdsz, h⟩ := Except.bind_eq_ok_iff.mp h
        obtain ⟨-, -, h⟩ := Except.bind_eq_ok_iff.mp h
        have hzero : skb_rdsz sk.recvbuf = 0 := of_decide_eq_true (assert_eq_ok_iff.mp hrdsz)
        have hpos : (skb_compact sk.recvbuf).wrpos = 0 := hzero
        have hcompact : (skb_compact sk.recvbuf).Ok := ⟨Nat.zero_le _, by rw [hpos]; exact Nat.zero_le _⟩
        have hrdsz' : skb_rdsz (skb_compact sk.recvbuf) = 0 := by
          rw [hcompact.rdsz_eq, hpos, Nat.zero_sub]
        simp only [Except.pure_eq_ok, Except.ok.injEq, Prod.mk.injEq] at h
        obtain ⟨rfl, hsk, -⟩ := h
        have hout := turn_on_out { upgrade { sk with sendbuf } with recvbuf := skb_compact sk.recvbuf }
        have hsk' := hsk.symm.trans hout
        subst hsk'
        exact Or.inr ⟨rfl, hok, hcompact, hrdsz', hpos, rfl, rfl⟩

end wsd
