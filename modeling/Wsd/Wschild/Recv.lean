import Wsd.Ws.Decode
import Wsd.Wschild.World

namespace wsd

/-- The entry of `ws_recv`: the backend's socket is opened unless it is open. -/
def ws_recv_enter (cfg : Config) (opens : List OpenResult) (w : World) (id : Nat) :
    Except Fault (Int × World) := do
  let sk ← w.deref id
  assert .ws_recv_rdsz (skb_rdsz sk.recvbuf ≠ 0)
  if w.pp2sk.isNone then
    return open_loop cfg opens cfg.fhostname_num.toNat w
  else
    return (0, w)

/-- The end of `ws_recv`, after the given number of frames. -/
def ws_recv_leave (frames : Nat) (c : Conn) : Conn :=
  let pp2sk :=
    if frames ≠ 0 ∧ 0 < skb_rdsz c.pp2sk.sendbuf ∧ !c.pp2sk.events.EPOLLOUT then
      turn_on_events c.pp2sk EPOLLOUT
    else c.pp2sk
  let sk :=
    if frames ≠ 0 ∧ !c.sk.events.EPOLLIN ∧ c.sk.close_on_write then turn_on_events c.sk EPOLLIN else c.sk
  let sk := if sk.close ∨ sk.close_on_write then turn_off_events sk EPOLLIN else sk
  let sk := if sk.close_on_write ∧ !sk.events.EPOLLOUT then turn_on_events sk EPOLLOUT else sk
  { c with sk, pp2sk }

def pp2_recv_enter (w : World) (id : Nat) : Except Fault Unit := do
  let sk ← w.deref id
  assert .pp2_recv_rdsz (skb_rdsz sk.recvbuf ≠ 0)
  assert .pp2_recv_pp2sk w.pp2sk.isSome

/-- The end of `pp2_recv`. The condition negates the event mask before it selects
    a bit, so that it holds only for the empty mask. -/
def pp2_recv_leave (frames : Nat) (sk : Sk) : Sk :=
  if frames ≠ 0 ∧ sk.events = {} then turn_on_events sk EPOLLIN else sk

/-- The indirect call through a protocol's `decode_frame`. -/
def decode_frame (w : World) (id : Nat) : Except Fault (Int × World) := do
  let sk ← w.deref id
  match sk.proto.decode_frame with
  | none => throw .null_function
  | some .ws_decode_frame =>
    let c ← w.conn id
    let (rv, c) ← ws_decode_frame c
    return (rv, w.setConn id c)
  | some .pp2_decode_frame =>
    let m ← w.mux
    let (rv, m) ← pp2_decode_frame m
    return (rv, w.setMux m)

/-- `while (0 == (rv = sk->proto->decode_frame(sk))) frames++;` -/
def decode_loop (id : Nat) : Nat → Nat → World → Except Fault (Int × Nat × World)
  | 0, _, _ => .error .unfinished
  | fuel + 1, frames, w => do
    let (rv, w) ← decode_frame w id
    if rv = 0 then decode_loop id fuel (frames + 1) w else return (rv, frames, w)

/-- Every frame takes at least one byte from the receive buffer. -/
def recv_fuel (w : World) (id : Nat) : Nat :=
  match w.get id with
  | none => 0
  | some sk => skb_rdsz sk.recvbuf + 1

def ws_recv (cfg : Config) (opens : List OpenResult) (w : World) (id : Nat) : Except Fault (Int × World) := do
  let (rv, w) ← ws_recv_enter cfg opens w id
  if rv < 0 then
    return (-1, w)
  else
    let (rv, frames, w) ← decode_loop id (recv_fuel w id) 0 w
    let c ← w.conn id
    return (rv, w.setConn id (ws_recv_leave frames c))

def pp2_recv (w : World) (id : Nat) : Except Fault (Int × World) := do
  pp2_recv_enter w id
  let (rv, frames, w) ← decode_loop id (recv_fuel w id) 0 w
  let sk ← w.deref id
  return (rv, w.set id (pp2_recv_leave frames sk))

/-- What `try_recv` does with the result of a socket's `recv`. -/
def try_recv_result (w : World) (id : Nat) (rv : Int) : Except Fault World := do
  if rv = 0 then
    return { w with work_list := w.work_list.erase id }
  else if rv < 0 ∧ w.wsd_errno = .WSD_EINPUT then
    return { w with work_list := w.work_list.erase id }
  else if rv < 0 ∧ w.wsd_errno = .WSD_EAGAIN then
    return w
  else if rv < 0 then
    let sk ← w.deref id
    let w := { w with work_list := w.work_list.erase id }
    if !sk.close_on_write then close w id else return w
  else
    return w

end wsd
