import Wsd.Bytes.Framing
import Wsd.Wscat.Decode

namespace wsd

/-- `while (0 == (rv = sk->proto->decode_frame(sk))) frames++;` of `wssk_ws_recv`:
    `wssk_init` installs the handler and nothing replaces it. -/
def wssk_decode_loop (no_handshake : Bool) : Nat → Nat → Wssk → Except Fault (Int × Nat × Wssk)
  | 0, _, _ => .error .unfinished
  | fuel + 1, frames, w => do
    let (rv, w) ← wssk_ws_decode_frame no_handshake w
    if rv = 0 then wssk_decode_loop no_handshake fuel (frames + 1) w else return (rv, frames, w)

/-- The end of `wssk_ws_recv`, after the given number of frames. -/
def wssk_ws_recv_leave (frames : Nat) (sk : Sk) : Sk :=
  let sk :=
    if frames ≠ 0 ∧ 0 < skb_rdsz sk.sendbuf ∧ !sk.events.EPOLLOUT then turn_on_events sk EPOLLOUT else sk
  let sk := if frames ≠ 0 ∧ !sk.events.EPOLLIN ∧ !sk.close_on_write then turn_on_events sk EPOLLIN else sk
  if sk.close ∨ sk.close_on_write then turn_off_events sk EPOLLIN else sk

def wssk_ws_recv (no_handshake : Bool) (w : Wssk) : Except Fault (Int × Wssk) := do
  assert .wssk_ws_recv_rdsz (skb_rdsz w.sk.recvbuf ≠ 0)
  let (rv, frames, w) ← wssk_decode_loop no_handshake (skb_rdsz w.sk.recvbuf + 1) 0 w
  return (rv, { w with sk := wssk_ws_recv_leave frames w.sk })

/-- `post_read` of the websocket socket after its handshake. -/
def wssk_post_read (no_handshake : Bool) (w : Wssk) : Except Fault (Int × Wssk) := do
  if skb_rdsz w.sk.recvbuf = 0 then
    return (0, w)
  else
    wssk_ws_recv no_handshake w

/-- `on_read` of the websocket socket: whether it is open afterwards. No failed read
    is retried, as `fhostname_num` stays 0 in wscat. -/
def wssk_on_read (no_handshake : Bool) (read : ReadResult) (now : Timespec) (w : Wssk) :
    Except Fault (Bool × Wssk) := do
  assert .on_read_close_on_write (!w.sk.close_on_write)
  assert .on_read_close (!w.sk.close)
  let (rv, sk, wsd_errno) ← sk_read read w.sk w.wsd_errno
  let w := { w with sk := { sk with ts_last_io := now }, wsd_errno }
  if rv < 0 ∧ wsd_errno ≠ .WSD_EAGAIN then
    return (false, w)
  else
    let (rv, w) ← wssk_post_read no_handshake w
    if rv < 0 ∧ w.wsd_errno ≠ .WSD_EAGAIN ∧ w.wsd_errno ≠ .WSD_EINPUT then
      return (false, w)
    else
      return (!w.sk.close, w)

/-- Successive reads, each with its time and bytes, as long as the socket is open. -/
def wssk_reads (no_handshake : Bool) : List (Timespec × List UInt8) → Wssk → Except Fault (Bool × Wssk)
  | [], w => .ok (true, w)
  | (now, bytes) :: reads, w => do
    let (is_open, w) ← wssk_on_read no_handshake (.ok bytes) now w
    if is_open then wssk_reads no_handshake reads w else return (false, w)

end wsd
