import Wsd.Transition.Path
import Wsd.Wschild.Loop
import Wsd.Wscat.World

namespace wsd

/-- The sockets which are registered for events. -/
inductive Source
  | wssk
  | fdin
  deriving DecidableEq, Repr

namespace Wscat

/-- The socket behind an event, which may have been freed. -/
def get (c : Wscat) : Source → Option Sk
  | .wssk => c.wssk
  | .fdin => c.fdin

def set (c : Wscat) (source : Source) (sk : Sk) : Wscat :=
  match source with
  | .wssk => { c with wssk := some sk }
  | .fdin => { c with fdin := some sk }

def deref (c : Wscat) (source : Source) : Except Fault Sk :=
  match c.get source with
  | none => .error .use_after_free
  | some sk => .ok sk

end Wscat

namespace wscat

def close (opt : Options) (c : Wscat) : Source → Except Fault Wscat
  | .wssk => .ok (wssk_close c)
  | .fdin => stdin_close opt c

/-- The handler which `post_read` of a source calls. -/
def recv (opt : Options) (c : Wscat) (source : Source) (sk : Sk) : Except Fault (Int × Wscat) :=
  match source with
  | .wssk => wscat.post_read opt c sk
  | .fdin => wscat.post_stdin opt c sk

def on_write (opt : Options) (write : WriteResult) (now : Timespec) (c : Wscat) (source : Source) :
    Except Fault Wscat := do
  let sk ← c.deref source
  let (rv, sk, wsd_errno) := sk_write write sk c.wsd_errno
  let c := { c.set source { sk with ts_last_io := now } with wsd_errno }
  if rv < 0 ∧ wsd_errno ≠ .WSD_EAGAIN then
    close opt c source
  else if sk.close_on_write ∧ skb_rdsz sk.sendbuf = 0 then
    close opt c source
  else if sk.close then
    close opt c source
  else
    return c

/-- No failed read is retried, as `fhostname_num` stays 0. -/
def on_read (opt : Options) (read : ReadResult) (now : Timespec) (c : Wscat) (source : Source) :
    Except Fault Wscat := do
  let sk ← c.deref source
  assert .on_read_close_on_write (!sk.close_on_write)
  assert .on_read_close (!sk.close)
  let (rv, sk, wsd_errno) ← sk_read read sk c.wsd_errno
  let sk := { sk with ts_last_io := now }
  let c := { c.set source sk with wsd_errno }
  if rv < 0 ∧ wsd_errno ≠ .WSD_EAGAIN then
    close opt c source
  else
    let (rv, c) ← recv opt c source sk
    if rv < 0 ∧ c.wsd_errno ≠ .WSD_EAGAIN ∧ c.wsd_errno ≠ .WSD_EINPUT then
      close opt c source
    else
      let sk ← c.deref source
      if sk.close then close opt c source else return c

def on_epoll_event (opt : Options) (read : ReadResult) (write : WriteResult) (now : Timespec) (c : Wscat)
    (source : Source) (events : EpollEvents) : Except Fault Wscat := do
  let sk ← c.deref source
  assert .on_epoll_event_fd (0 ≤ sk.fd)
  if events.EPOLLIN ∨ events.EPOLLPRI then
    on_read opt read now c source
  else if events.EPOLLOUT then
    on_write opt write now c source
  else if events.EPOLLERR ∨ events.EPOLLHUP ∨ events.EPOLLRDHUP then
    close opt c source
  else
    return c

/-- `check_timeout(wssk, now, timeout)`, which asserts that the socket is there. -/
def check_timeout (c : Wscat) (now : Timespec) (timeout : Int) : Except Fault Bool :=
  match c.wssk with
  | none => .error (.assertion .check_timeout_sk)
  | some sk => .ok (wsd.check_timeout sk now timeout)

def try_repeating_last (opt : Options) (c : Wscat) : Except Fault Wscat :=
  if !c.repeat_last_armed then
    .ok c
  else
    match c.wssk with
    | none => .ok c
    | some sk =>
      if sk.closing then
        .ok c
      else do
        let c ← if 0 < c.repeat_last_num then repeat_last opt c else pure c
        let c := if c.repeat_last_num = 0 then { c with repeat_last_armed := false } else c
        if c.repeat_last_num = 0 ∧ opt.idle_timeout = -1 ∧ !opt.no_handshake then
          wssk_ws_start_closing_handshake c
        else
          return c

/-- The first branch of `on_iteration`. -/
def ping_timeout (opt : Options) (now : Timespec) (c : Wscat) : Except Fault Wscat := do
  let timed_out ← check_timeout c now opt.ping_interval
  if timed_out then wssk_ws_ping c else return c

/-- The second branch of `on_iteration`. -/
def idle_timeout (opt : Options) (now : Timespec) (c : Wscat) : Except Fault Wscat := do
  let timed_out ← check_timeout c now opt.idle_timeout
  if timed_out ∧ !opt.no_handshake then wssk_ws_start_closing_handshake c else return c

def on_iteration (opt : Options) (now : Timespec) (c : Wscat) : Except Fault Wscat := do
  let c ← ping_timeout opt now c
  let c ← idle_timeout opt now c
  try_repeating_last opt c

/-- Where the program is in its event loop. -/
inductive Pc
  | iteration
  | epoll_wait
  | on_event (todo : List (Source × EpollEvents))
  deriving DecidableEq, Repr

structure State where
  c : Wscat
  pc : Pc
  now : Timespec

/-- What the environment delivers in a step. No list of events stands for an
    interrupted call. -/
structure Env where
  clock : Timespec := .zero
  events : Option (List (Source × EpollEvents)) := some []
  read : ReadResult := .error
  write : WriteResult := .error

/-- One step of the program: from one call of a handler to the next. -/
def step (opt : Options) (env : Env) (s : State) : Except Fault State :=
  match s.pc with
  | .iteration =>
    if s.c.done then
      .ok s
    else do
      let c ← on_iteration opt env.clock s.c
      return { c, now := env.clock, pc := .epoll_wait }
  | .epoll_wait =>
    match env.events with
    | none => .ok { s with pc := .iteration }
    | some events => .ok { s with pc := .on_event events }
  | .on_event [] => .ok { s with pc := .iteration }
  | .on_event ((source, events) :: todo) => do
    let c ← on_epoll_event opt env.read env.write s.now s.c source events
    return { s with c, pc := .on_event todo }

/-- An event of an open socket is one which it is registered for, an error or a hangup. -/
def EventOf (c : Wscat) (event : Source × EpollEvents) : Prop :=
  ∃ sk ∈ c.get event.1, event.2 ≠ {} ∧
    event.2.diff (sk.events.union { EPOLLERR := true, EPOLLHUP := true }) = {}

instance (c : Wscat) (event : Source × EpollEvents) : Decidable (EventOf c event) :=
  inferInstanceAs (Decidable (∃ sk ∈ c.get event.1, _ ∧ _))

/-- The source whose event is handled next. -/
def Pc.source : Pc → Option Source
  | .on_event ((source, _) :: _) => some source
  | _ => none

/-- What the kernel promises: a monotone clock, one event for each socket, and no more
    bytes than there is room for or there are to write. -/
def Env.Valid (s : State) (env : Env) : Prop :=
  (s.pc = .iteration → s.now.nanos ≤ env.clock.nanos ∧ env.clock.Normal) ∧
    (s.pc = .epoll_wait → ∀ events ∈ env.events, (events.map Prod.fst).Nodup ∧
      ∀ event ∈ events, EventOf s.c event) ∧
    ∀ source ∈ s.pc.source, ∀ sk ∈ s.c.get source,
      env.read.len ≤ skb_wrsz sk.recvbuf ∧ env.write.len ≤ skb_rdsz sk.sendbuf

instance (s : State) (env : Env) : Decidable (env.Valid s) :=
  inferInstanceAs (Decidable (_ ∧ _ ∧ _))

/-- The program as a system of steps, from its entry into the event loop with the upgrade
    request in its send buffer. -/
def program (opt : Options) (fd : Int) (request : List UInt8) (broken : Bool) :
    Transition.System State Env Fault where
  init := { c := .init opt fd request broken, pc := .iteration, now := .zero }
  valid := Env.Valid
  step := step opt

instance (opt : Options) (fd : Int) (request : List UInt8) (broken : Bool) (s : State) (env : Env) :
    Decidable ((program opt fd request broken).valid s env) :=
  inferInstanceAs (Decidable (env.Valid s))

end wscat

end wsd
