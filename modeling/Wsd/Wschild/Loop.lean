import Wsd.Transition.Run
import Wsd.Wschild.Events
import Wsd.Wschild.Recv

namespace wsd

/-- Where the daemon is in its event loop. A list holds the nodes which a
    traversal has not visited yet; the traversals read the successor before they
    call the handler, which removes no other node than the visited one. -/
inductive Pc
  | iteration
  | try_recv (todo : List Nat)
  | ws_recv (id frames : Nat) (todo : List Nat)
  | pp2_recv (id frames : Nat) (todo : List Nat)
  | check_timeouts (todo : List Nat)
  | epoll_wait
  | on_event (todo : List (Option Nat × EpollEvents))
  | shutdown (todo : List Nat)
  deriving DecidableEq, Repr

structure State where
  world : World
  pc : Pc
  now : Timespec

/-- What the environment delivers in a step: the clock, a termination signal, and
    the results of the system calls. An event without an address is the
    listening socket's; no list of events stands for an interrupted call. -/
structure Env where
  clock : Timespec := .zero
  done : Bool := false
  opens : List OpenResult := []
  events : Option (List (Option Nat × EpollEvents)) := some []
  read : ReadResult := .error
  write : WriteResult := .error
  retry : Bool := false
  accepted : Option Accepted := none

/-- The start of the next socket's `recv` in `try_recv`. The HTTP handler runs as
    a whole; the two others run their loops frame by frame. -/
def recv_step (cfg : Config) (ssl : Openssl) (env : Env) (w : World) (id : Nat) (todo : List Nat) :
    Except Fault (World × Pc) := do
  let sk ← w.deref id
  match sk.ops.recv with
  | none => throw .null_function
  | some .http_recv =>
    let (rv, sk, statics, wsd_errno) ← http_recv cfg ssl sk w.statics
    let w ← try_recv_result { w.set id sk with statics, wsd_errno } id rv
    return (w, .try_recv todo)
  | some .ws_recv =>
    let (rv, w) ← ws_recv_enter cfg env.opens w id
    if rv < 0 then
      let w ← try_recv_result w id (-1)
      return (w, .try_recv todo)
    else
      return (w, .ws_recv id 0 todo)
  | some .pp2_recv =>
    pp2_recv_enter w id
    return (w, .pp2_recv id 0 todo)

def ws_recv_step (w : World) (id frames : Nat) (todo : List Nat) : Except Fault (World × Pc) := do
  let (rv, w) ← decode_frame w id
  if rv = 0 then
    return (w, .ws_recv id (frames + 1) todo)
  else
    let c ← w.conn id
    let w ← try_recv_result (w.setConn id (ws_recv_leave frames c)) id rv
    return (w, .try_recv todo)

def pp2_recv_step (w : World) (id frames : Nat) (todo : List Nat) : Except Fault (World × Pc) := do
  let (rv, w) ← decode_frame w id
  if rv = 0 then
    return (w, .pp2_recv id (frames + 1) todo)
  else
    let sk ← w.deref id
    let w ← try_recv_result (w.set id (pp2_recv_leave frames sk)) id rv
    return (w, .try_recv todo)

def accept_step (env : Env) (w : World) (todo : List (Option Nat × EpollEvents)) : Except Fault (World × Pc) := do
  let (rv, w) ← sk_accept env.accepted w
  assert .event_loop_accept (rv = 0)
  return (w, .on_event todo)

/-- One step of the daemon: from one call of a handler to the next. -/
def step (cfg : Config) (ssl : Openssl) (env : Env) (s : State) : Except Fault State :=
  match s.pc with
  | .iteration =>
    if env.done then
      .ok { s with pc := .shutdown s.world.sk_list }
    else
      .ok { s with now := env.clock, pc := .try_recv s.world.work_list }
  | .try_recv [] => .ok { s with pc := .check_timeouts s.world.sk_list }
  | .try_recv (id :: todo) => do
    let (world, pc) ← recv_step cfg ssl env s.world id todo
    return { s with world, pc }
  | .ws_recv id frames todo => do
    let (world, pc) ← ws_recv_step s.world id frames todo
    return { s with world, pc }
  | .pp2_recv id frames todo => do
    let (world, pc) ← pp2_recv_step s.world id frames todo
    return { s with world, pc }
  | .check_timeouts [] => .ok { s with pc := .epoll_wait }
  | .check_timeouts (id :: todo) => do
    let world ← check_timeouts cfg s.now s.world id
    return { s with world, pc := .check_timeouts todo }
  | .epoll_wait =>
    match env.events with
    | none => .ok { s with pc := .iteration }
    | some events => .ok { s with pc := .on_event events }
  | .on_event [] => .ok { s with pc := .iteration }
  | .on_event ((none, _) :: todo) => do
    let (world, pc) ← accept_step env s.world todo
    return { s with world, pc }
  | .on_event ((some id, events) :: todo) => do
    let world ← on_epoll_event cfg env.read env.write env.retry s.now s.world id events
    return { s with world, pc := .on_event todo }
  | .shutdown [] => .ok s
  | .shutdown (id :: todo) => do
    let world ← close s.world id
    return { s with world, pc := .shutdown todo }

namespace Timespec

/-- A reading of the monotonic clock in nanoseconds. -/
def nanos (t : Timespec) : Int :=
  t.tv_sec * 1000000000 + t.tv_nsec

/-- The fields are in the ranges which the system call promises. -/
def Normal (t : Timespec) : Prop :=
  0 ≤ t.tv_sec ∧ 0 ≤ t.tv_nsec ∧ t.tv_nsec < 1000000000

instance (t : Timespec) : Decidable t.Normal :=
  inferInstanceAs (Decidable (_ ∧ _ ∧ _))

end Timespec

/-- A new descriptor is none of the open ones. -/
def FreshFd (cfg : Config) (w : World) (fd : Int) : Prop :=
  0 ≤ fd ∧ fd ≠ cfg.lfd ∧ ∀ id, id < w.next → (w.get id).map Sk.fd ≠ some fd

instance (cfg : Config) (w : World) (fd : Int) : Decidable (FreshFd cfg w fd) :=
  inferInstanceAs (Decidable (_ ∧ _ ∧ _))

/-- The number of bytes which a read delivers. -/
def ReadResult.len : ReadResult → Nat
  | .error => 0
  | .ok bytes => bytes.length

/-- The number of bytes which a write takes. -/
def WriteResult.len : WriteResult → Nat
  | .error => 0
  | .ok len => len

/-- The descriptor of an opened socket. -/
def OpenResult.fd : OpenResult → Option Int
  | .connected fd => some fd
  | _ => none

/-- An event of an open socket is one which it is registered for, an error or a
    hangup. -/
def EventOf (w : World) (event : Option Nat × EpollEvents) : Prop :=
  ∀ id ∈ event.1, ∃ sk ∈ w.get id, event.2 ≠ {} ∧
    event.2.diff (sk.events.union { EPOLLERR := true, EPOLLHUP := true }) = {}

instance (w : World) (event : Option Nat × EpollEvents) : Decidable (EventOf w event) :=
  inferInstanceAs (Decidable (∀ id ∈ event.1, ∃ sk ∈ w.get id, _ ∧ _))

def MAX_EVENTS : Nat := 256

/-- The address of the socket whose event is handled next. -/
def Pc.source : Pc → Option Nat
  | .on_event ((id, _) :: _) => id
  | _ => none

/-- What the kernel promises: a monotone clock, fresh descriptors, one event for
    each socket, and no more bytes than there is room for or there are to write. -/
def Env.Valid (cfg : Config) (s : State) (env : Env) : Prop :=
  (s.pc = .iteration → s.now.nanos ≤ env.clock.nanos ∧ env.clock.Normal) ∧
    (∀ result ∈ env.opens, ∀ fd ∈ result.fd, FreshFd cfg s.world fd) ∧
    (∀ accepted ∈ env.accepted, FreshFd cfg s.world accepted.fd) ∧
    (s.pc = .epoll_wait → ∀ events ∈ env.events, events.length ≤ MAX_EVENTS ∧ (events.map Prod.fst).Nodup ∧
      ∀ event ∈ events, EventOf s.world event) ∧
    ∀ id ∈ s.pc.source, ∀ sk ∈ s.world.get id,
      env.read.len ≤ skb_wrsz sk.recvbuf ∧ env.write.len ≤ skb_rdsz sk.sendbuf

instance (cfg : Config) (s : State) (env : Env) : Decidable (env.Valid cfg s) :=
  inferInstanceAs (Decidable (_ ∧ _ ∧ _ ∧ _ ∧ _))

/-- The daemon as a system of steps, from its entry into the event loop. -/
def daemon (cfg : Config) (ssl : Openssl) : Transition.System State Env Fault where
  init := { world := .init, pc := .iteration, now := .zero }
  valid := Env.Valid cfg
  step := step cfg ssl

instance (cfg : Config) (ssl : Openssl) (s : State) (env : Env) : Decidable ((daemon cfg ssl).valid s env) :=
  inferInstanceAs (Decidable (env.Valid cfg s))

/-! A small configuration and the start of a run on it: a client connects and sends
its upgrade request. -/

namespace Sample

def config : Config where
  lfd := 3
  fhostname_num := 1
  idle_timeout := 1000
  ping_interval := -1
  closing_handshake_timeout := 8000
  sec_ws_proto := none

def openssl : Openssl where
  base64_sha1 _ := List.replicate 28 65
  length _ := List.length_replicate

def client : Accepted where
  fd := 5
  src_addr := { sin_addr := 0x0100000a, sin_port := 0x31d4 }
  dst_addr := { sin_addr := 0x0200000a, sin_port := 0xbb01 }
  tv_nsec := 7

/-- What the backend sends for the client. -/
def message (payload : List UInt8) : List UInt8 :=
  pp2Header client.src_addr client.dst_addr (hash client.src_addr client.tv_nsec) payload.length ++ payload

def request : List UInt8 :=
  ascii ("GET / HTTP/1.1\r\nHost: a\r\nUpgrade: websocket\r\nConnection: Upgrade\r\n" ++
    "Sec-WebSocket-Key: k\r\nSec-WebSocket-Version: 13\r\n\r\n")

/-- The inputs of an iteration at the given second, with the given number of steps
    before the call of `epoll_wait`, which reports one event. -/
def iteration (second : Int) (steps : Nat) (source : Option Nat) (events : EpollEvents) (handled : Env) : List Env :=
  { clock := { tv_sec := second, tv_nsec := 0 } } :: List.replicate steps ({} : Env) ++
    [{ events := some [(source, events)] }, handled, {}]

/-- A client connects and sends the given bytes. -/
def connected (bytes : List UInt8) : List Env :=
  iteration 9 2 none EPOLLIN { accepted := some client } ++ iteration 9 3 (some 0) EPOLLIN { read := .ok bytes }

end Sample

end wsd
