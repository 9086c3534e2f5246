import Wsd.Common.Timeout
import Wsd.Ws.Decode
import Wsd.Wschild.World

namespace wsd

/-- Whether `errno` is one of ECONNREFUSED, EAGAIN, ENETUNREACH and ETIMEDOUT is
    an input. -/
def check_errno (cfg : Config) (retry : Bool) (w : World) : Int × World :=
  if retry then (0, next_host cfg w) else (-1, w)

def on_write (write : WriteResult) (now : Timespec) (w : World) (id : Nat) : Except Fault World := do
  let sk ← w.deref id
  let (rv, sk, wsd_errno) := sk_write write sk w.wsd_errno
  let sk := { sk with ts_last_io := now }
  let w := { w.set id sk with wsd_errno }
  if rv < 0 ∧ wsd_errno ≠ .WSD_EAGAIN then
    close w id
  else if sk.close_on_write ∧ skb_rdsz sk.sendbuf = 0 then
    close w id
  else if sk.close then
    close w id
  else
    return w

def on_read (cfg : Config) (read : ReadResult) (retry : Bool) (now : Timespec) (w : World) (id : Nat) :
    Except Fault World := do
  let sk ← w.deref id
  assert .on_read_close_on_write (!sk.close_on_write)
  assert .on_read_close (!sk.close)
  let (rv, sk, wsd_errno) ← sk_read read sk w.wsd_errno
  let sk := { sk with ts_last_io := now }
  let w := { w.set id sk with wsd_errno }
  if rv < 0 ∧ wsd_errno ≠ .WSD_EAGAIN then
    let (rv, w) := if wsd_errno = .WSD_CHECKERRNO then check_errno cfg retry w else (-1, w)
    if rv = 0 then
      let sk := { sk with retries := sk.retries + 1 }
      let w := w.set id sk
      if sk.retries < cfg.fhostname_num then return w else close w id
    else
      close w id
  else
    let w ← post_read w id
    if sk.close then close w id else return w

def on_epoll_event (cfg : Config) (read : ReadResult) (write : WriteResult) (retry : Bool) (now : Timespec)
    (w : World) (id : Nat) (events : EpollEvents) : Except Fault World := do
  let sk ← w.deref id
  assert .on_epoll_event_fd (0 ≤ sk.fd)
  if events.EPOLLIN ∨ events.EPOLLPRI then
    on_read cfg read retry now w id
  else if events.EPOLLOUT then
    on_write write now w id
  else if events.EPOLLERR ∨ events.EPOLLHUP ∨ events.EPOLLRDHUP then
    close w id
  else
    return w

/-- The indirect call through a protocol's `ping`. -/
def ping : Option Ping → Sk → Bool → Errno → Except Fault (Int × Sk × Errno)
  | none, _, _, _ => .error .null_function
  | some .ws_ping, sk, do_mask, wsd_errno => ws_ping sk do_mask wsd_errno
  | some .pp2_nop, sk, _, wsd_errno => .ok (0, sk, wsd_errno)

/-- The part of `check_timeouts` which concerns the idle timeout: whether the
    socket has to be closed, and the socket. -/
def check_idle (cfg : Config) (now : Timespec) (sk : Sk) (wsd_errno : Errno) :
    Except Fault (Bool × Sk × Errno) :=
  if cfg.idle_timeout ≠ -1 ∧ check_timeout sk now cfg.idle_timeout then
    match sk.proto.start_closing_handshake with
    | none => .ok (true, sk, wsd_errno)
    | some handler => do
      let (rv, sk, wsd_errno) ← start_closing_handshake (some handler) sk WS_1000 false wsd_errno
      if rv < 0 then
        return (true, sk, wsd_errno)
      else
        return (false, { sk with ts_closing_handshake_start := now }, wsd_errno)
  else
    .ok (false, sk, wsd_errno)

def check_timeouts (cfg : Config) (now : Timespec) (w : World) (id : Nat) : Except Fault World := do
  let sk ← w.deref id
  let (idle, sk, wsd_errno) ← check_idle cfg now sk w.wsd_errno
  let w := { w.set id sk with wsd_errno }
  if idle then
    close w id
  else if ← check_closing_handshake_timeout sk now cfg.closing_handshake_timeout then
    close w id
  else if check_timeout sk now cfg.ping_interval then
    let (_, sk, wsd_errno) ← ping sk.proto.ping sk false wsd_errno
    return { w.set id sk with wsd_errno }
  else
    return w

end wsd
