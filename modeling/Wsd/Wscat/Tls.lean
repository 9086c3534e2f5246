import Wsd.Wscat.Inversion
import Wsd.Wscat.Request

namespace wsd

/-- What `SSL_get_error` says of a call which has not succeeded. -/
inductive SslError
  | SSL_ERROR_WANT_READ
  | SSL_ERROR_WANT_WRITE
  | SSL_ERROR_ZERO_RETURN
  | other
  deriving DecidableEq, Repr

/-- The handlers which take turns, both at once, as the websocket's `read` and `write`. -/
inductive TlsOps
  | handshake
  | transfer
  deriving DecidableEq, Repr

/-- It is called as long as its handlers are installed: the request follows each completed handshake. -/
def wssk_tls_handshake (cfg : RequestConfig) (ssl : Except SslError Unit) (sk : Sk) :
    Except Fault (Int × Sk × TlsOps) :=
  match ssl with
  | .error .SSL_ERROR_WANT_READ => .ok (0, turn_on_events sk EPOLLIN, .handshake)
  | .error .SSL_ERROR_WANT_WRITE => .ok (0, turn_on_events sk EPOLLOUT, .handshake)
  | .error _ => .ok (-1, sk, .handshake)
  | .ok () => do
    let (rv, sk) ← create_http_req cfg sk
    if rv < 0 then
      return (-1, sk, .transfer)
    else
      return (0, turn_on_events sk (EPOLLOUT.union EPOLLIN), .transfer)

def wssk_tls_handshake_read (cfg : RequestConfig) (ssl : Except SslError Unit) (sk : Sk) :
    Except Fault (Int × Sk × TlsOps) :=
  wssk_tls_handshake cfg ssl (turn_off_events sk EPOLLIN)

def wssk_tls_handshake_write (cfg : RequestConfig) (ssl : Except SslError Unit) (sk : Sk) :
    Except Fault (Int × Sk × TlsOps) :=
  wssk_tls_handshake cfg ssl (turn_off_events sk EPOLLOUT)

/-- `on_epoll_event` has asserted that the descriptor is there. -/
def wssk_tls_read (ssl : Except SslError (List UInt8)) (sk : Sk) (wsd_errno : Errno) : Int × Sk × TlsOps × Errno :=
  if skb_wrsz sk.recvbuf = 0 then
    (-1, turn_off_events sk EPOLLIN, .transfer, .WSD_EAGAIN)
  else
    match ssl with
    | .ok bytes =>
      let recvbuf := { sk.recvbuf with
        data := sk.recvbuf.data.store sk.recvbuf.wrpos bytes
        wrpos := u32 (sk.recvbuf.wrpos + bytes.length) }
      (0, { sk with recvbuf }, .transfer, wsd_errno)
    | .error .SSL_ERROR_WANT_READ => (0, sk, .transfer, wsd_errno)
    | .error .SSL_ERROR_WANT_WRITE => (0, turn_on_events sk EPOLLOUT, .handshake, wsd_errno)
    | .error _ => (-1, sk, .transfer, .WSD_CHECKERRNO)

def wssk_tls_write (ssl : Except SslError Nat) (sk : Sk) (wsd_errno : Errno) : Int × Sk × TlsOps × Errno :=
  if skb_rdsz sk.sendbuf = 0 then
    (-1, turn_off_events sk EPOLLOUT, .transfer, .WSD_EAGAIN)
  else
    match ssl with
    | .ok len =>
      (0, { sk with sendbuf := skb_compact (skb_rd_forward sk.sendbuf len) }, .transfer, wsd_errno)
    | .error .SSL_ERROR_WANT_WRITE => (0, sk, .transfer, wsd_errno)
    | .error .SSL_ERROR_WANT_READ => (0, turn_on_events sk EPOLLIN, .handshake, wsd_errno)
    | .error _ => (-1, sk, .transfer, .WSD_CHECKERRNO)

/-- The websocket's socket as `wssk_init` and `wssk_tls_init` leave it. -/
def wssk_tls_init (fd : Int) : Sk :=
  { wssk_init fd [] with sendbuf := .zero, events := (sk_init fd 0).events }

namespace wscat.tls

/-- What the environment delivers in a step: for the TLS connection, what the calls of the library return. -/
structure Env where
  base : wscat.Env := {}
  SSL_do_handshake : Except SslError Unit := .error .SSL_ERROR_WANT_READ
  SSL_read : Except SslError (List UInt8) := .error .SSL_ERROR_WANT_READ
  SSL_write : Except SslError Nat := .error .SSL_ERROR_WANT_WRITE

/-- The call `sk->ops->read(sk)`. -/
def ops_read (cfg : RequestConfig) (env : Env) (ops : TlsOps) (sk : Sk) (wsd_errno : Errno) :
    Except Fault (Int × Sk × TlsOps × Errno) :=
  match ops with
  | .handshake => do
    let (rv, sk, ops) ← wssk_tls_handshake_read cfg env.SSL_do_handshake sk
    return (rv, sk, ops, wsd_errno)
  | .transfer => .ok (wssk_tls_read env.SSL_read sk wsd_errno)

/-- The call `sk->ops->write(sk)`. -/
def ops_write (cfg : RequestConfig) (env : Env) (ops : TlsOps) (sk : Sk) (wsd_errno : Errno) :
    Except Fault (Int × Sk × TlsOps × Errno) :=
  match ops with
  | .handshake => do
    let (rv, sk, ops) ← wssk_tls_handshake_write cfg env.SSL_do_handshake sk
    return (rv, sk, ops, wsd_errno)
  | .transfer => .ok (wssk_tls_write env.SSL_write sk wsd_errno)

/-- A failed handshake leaves `wsd_errno` as it is. -/
def on_read (opt : Options) (cfg : RequestConfig) (env : Env) (now : Timespec) (c : Wscat) (ops : TlsOps) :
    Except Fault (Wscat × TlsOps) := do
  let sk ← c.deref .wssk
  assert .on_read_close_on_write (!sk.close_on_write)
  assert .on_read_close (!sk.close)
  let (rv, sk, ops, wsd_errno) ← ops_read cfg env ops sk c.wsd_errno
  let sk := { sk with ts_last_io := now }
  let c := { c.set .wssk sk with wsd_errno }
  if rv < 0 ∧ wsd_errno ≠ .WSD_EAGAIN then
    return (wssk_close c, ops)
  else
    let (rv, c) ← wscat.post_read opt c sk
    if rv < 0 ∧ c.wsd_errno ≠ .WSD_EAGAIN ∧ c.wsd_errno ≠ .WSD_EINPUT then
      return (wssk_close c, ops)
    else
      let sk ← c.deref .wssk
      return (if sk.close then wssk_close c else c, ops)

def on_write (cfg : RequestConfig) (env : Env) (now : Timespec) (c : Wscat) (ops : TlsOps) :
    Except Fault (Wscat × TlsOps) := do
  let sk ← c.deref .wssk
  let (rv, sk, ops, wsd_errno) ← ops_write cfg env ops sk c.wsd_errno
  let c := { c.set .wssk { sk with ts_last_io := now } with wsd_errno }
  if rv < 0 ∧ wsd_errno ≠ .WSD_EAGAIN then
    return (wssk_close c, ops)
  else if sk.close_on_write ∧ skb_rdsz sk.sendbuf = 0 then
    return (wssk_close c, ops)
  else if sk.close then
    return (wssk_close c, ops)
  else
    return (c, ops)

def on_epoll_event (opt : Options) (cfg : RequestConfig) (env : Env) (now : Timespec) (c : Wscat) (ops : TlsOps)
    (events : EpollEvents) : Except Fault (Wscat × TlsOps) := do
  let sk ← c.deref .wssk
  assert .on_epoll_event_fd (0 ≤ sk.fd)
  if events.EPOLLIN ∨ events.EPOLLPRI then
    on_read opt cfg env now c ops
  else if events.EPOLLOUT then
    on_write cfg env now c ops
  else if events.EPOLLERR ∨ events.EPOLLHUP ∨ events.EPOLLRDHUP then
    return (wssk_close c, ops)
  else
    return (c, ops)

/-- The call of `wssk_tls_handshake` in `main`, which ignores what it returns. -/
def main_handshake (cfg : RequestConfig) (ssl : Except SslError Unit) (c : Wscat) : Except Fault (Wscat × TlsOps) := do
  let sk ← c.deref .wssk
  let (_, sk, ops) ← wssk_tls_handshake cfg ssl sk
  return (c.set .wssk sk, ops)

/-- The program's state, with the websocket's handlers, and whether `main` has called the handshake. -/
structure State where
  base : wscat.State
  ops : TlsOps
  started : Bool

/-- The program's steps are those without TLS, but for the first one and for the websocket's events. -/
def step (opt : Options) (cfg : RequestConfig) (env : Env) (t : State) : Except Fault State :=
  if !t.started then do
    let (c, ops) ← main_handshake cfg env.SSL_do_handshake t.base.c
    return { base := { t.base with c }, ops, started := true }
  else
    match t.base.pc with
    | .on_event ((.wssk, events) :: todo) => do
      let (c, ops) ← on_epoll_event opt cfg env t.base.now t.base.c t.ops events
      return { t with base := { t.base with c, pc := .on_event todo }, ops }
    | _ => do
      let base ← wscat.step opt env.base t.base
      return { t with base }

/-- What the calls of the library move. -/
def Env.received (env : Env) : List UInt8 :=
  match env.SSL_read with
  | .ok bytes => bytes
  | .error _ => []

def Env.sent (env : Env) : Nat :=
  match env.SSL_write with
  | .ok len => len
  | .error _ => 0

/-- The library moves no more bytes than there is room for or there are to write. -/
def Env.Valid (t : State) (env : Env) : Prop :=
  env.base.Valid t.base ∧ ∀ wssk ∈ t.base.c.wssk,
    env.received.length ≤ skb_wrsz wssk.recvbuf ∧ env.sent ≤ skb_rdsz wssk.sendbuf

instance (t : State) (env : Env) : Decidable (env.Valid t) :=
  inferInstanceAs (Decidable (_ ∧ _))

/-- wscat with a URI of scheme wss as a system of steps, from the first call of the handshake on. -/
def program (opt : Options) (cfg : RequestConfig) (fd : Int) (broken : Bool) : Transition.System State Env Fault where
  init :=
    { base := {
        c := { Wscat.init opt fd [] broken with wssk := some (wssk_tls_init fd) }
        pc := .iteration
        now := .zero }
      ops := .handshake
      started := false }
  valid := Env.Valid
  step := step opt cfg

instance (opt : Options) (cfg : RequestConfig) (fd : Int) (broken : Bool) (t : State) (env : Env) :
    Decidable ((program opt cfg fd broken).valid t env) :=
  inferInstanceAs (Decidable (env.Valid t))

end wscat.tls

end wsd
