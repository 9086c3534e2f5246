import Wsd.Wschild.Step

namespace wsd

/-- The client whose frames are being decoded. -/
def Pc.receiver : Pc → Option Nat
  | .ws_recv id _ _ => some id
  | _ => none

/-- Why a step closes a socket. -/
inductive Gone (cfg : Config) (s : State) (id : Nat) (sk : Sk) : Prop
  | http (todo : List Nat) (hpc : s.pc = .try_recv (id :: todo)) (hrecv : sk.ops.recv = some .http_recv)
  | notOpened (todo : List Nat) (hpc : s.pc = .try_recv (id :: todo)) (hrecv : sk.ops.recv = some .ws_recv)
      (hpp : s.world.pp2sk = none) (hflag : sk.close_on_write = false)
  | ws (frames : Nat) (todo : List Nat) (p : Nat) (pp2sk : Sk) (rv : Int) (c' : Conn)
      (hpc : s.pc = .ws_recv id frames todo) (hpp : s.world.pp2sk = some (p, pp2sk))
      (hdecoded : Decoded { sk, pp2sk, wsd_errno := s.world.wsd_errno } rv c') (hrv : rv < 0)
      (hinput : c'.wsd_errno ≠ .WSD_EINPUT) (hagain : c'.wsd_errno ≠ .WSD_EAGAIN)
      (hflag : c'.sk.close_on_write = false)
  | pp2 (frames : Nat) (todo : List Nat) (hpc : s.pc = .pp2_recv id frames todo)
      (hpp : s.world.pp2sk = some (id, sk))
  | idle (todo : List Nat) (hpc : s.pc = .check_timeouts (id :: todo)) (hquiet : sk.Quiet)
  | timedOut (todo : List Nat) (hpc : s.pc = .check_timeouts (id :: todo)) (hclosing : sk.closing = true)
      (htimedOut : has_timed_out sk.ts_closing_handshake_start s.now cfg.closing_handshake_timeout = true)
  | event (events : EpollEvents) (todo : List (Option Nat × EpollEvents))
      (hpc : s.pc = .on_event ((some id, events) :: todo))
  | shutdown (todo : List Nat) (hpc : s.pc = .shutdown (id :: todo))

/-- What a step of the daemon, which goes on at `pc`, can do to the socket at an
    address. -/
inductive SocketStep (cfg : Config) (env : Env) (s : State) (pc : Pc) (id : Nat) : Option Sk → Option Sk → Prop
  | same (o : Option Sk) (hpc : s.pc.receiver ≠ some id) : SocketStep cfg env s pc id o o
  | accepted (a : Accepted) (events : EpollEvents) (todo : List (Option Nat × EpollEvents))
      (hpc : s.pc = .on_event ((none, events) :: todo)) (hid : id = s.world.next) :
      SocketStep cfg env s pc id none (some { sk_init a.fd (hash a.src_addr a.tv_nsec) with
        src_addr := a.src_addr
        dst_addr := a.dst_addr
        ops := { recv := some .http_recv, close := some .sk_close }
        proto := { decode_handshake := some .ws_decode_handshake } })
  | opened (fd : Int) (id' : Nat) (todo : List Nat) (hpc : s.pc = .try_recv (id' :: todo))
      (hid : id = s.world.next) :
      SocketStep cfg env s pc id none (some { sk_init fd 0xffffffffffffffff with
        ops := { recv := some .pp2_recv, close := some .pp2_close }
        proto := {
          decode_frame := some .pp2_decode_frame
          encode_frame := some .pp2_encode_frame
          ping := some .pp2_nop } })
  | handshakeFailed (todo : List Nat) (sk sk' : Sk) (rv : Int) (wsd_errno : Errno)
      (hpc : s.pc = .try_recv (id :: todo)) (hrecv : sk.ops.recv = some .http_recv)
      (hfailed : HandshakeFailed sk sk' rv wsd_errno) : SocketStep cfg env s pc id (some sk) (some sk')
  | handshakeDone (todo : List Nat) (sk sk' : Sk) (rv : Int)
      (hpc : s.pc = .try_recv (id :: todo)) (hrecv : sk.ops.recv = some .http_recv)
      (hdone : HandshakeDone sk sk' rv) : SocketStep cfg env s pc id (some sk) (some sk')
  /-- The client's side of a call of `ws_decode_frame`. -/
  | decoded (frames : Nat) (todo : List Nat) (sk : Sk) (p : Nat) (pp2sk : Sk) (rv : Int) (c' : Conn)
      (hpc : s.pc = .ws_recv id frames todo) (hclient : s.world.clients id = some sk) (hup : Upgraded sk)
      (hpp : s.world.pp2sk = some (p, pp2sk))
      (hdecoded : Decoded { sk, pp2sk, wsd_errno := s.world.wsd_errno } rv c')
      (hnext : pc = if rv = 0 then .ws_recv id (frames + 1) todo else .try_recv todo) :
      SocketStep cfg env s pc id (some sk) (some (if rv = 0 then c'.sk else (ws_recv_leave frames c').sk))
  /-- The backend's side of a call of `ws_decode_frame`. -/
  | forwarded (id' frames : Nat) (todo : List Nat) (sk pp2sk : Sk) (rv : Int) (c' : Conn)
      (hpc : s.pc = .ws_recv id' frames todo) (hclient : s.world.clients id' = some sk)
      (hpp : s.world.pp2sk = some (id, pp2sk))
      (hdecoded : Decoded { sk, pp2sk, wsd_errno := s.world.wsd_errno } rv c') :
      SocketStep cfg env s pc id (some pp2sk) (some (if rv = 0 then c'.pp2sk else (ws_recv_leave frames c').pp2sk))
  /-- The backend's side of a call of `pp2_decode_frame`. -/
  | demuxed (frames : Nat) (todo : List Nat) (pp2sk : Sk) (rv : Int) (m' : Mux)
      (hpc : s.pc = .pp2_recv id frames todo) (hpp : s.world.pp2sk = some (id, pp2sk))
      (hdemuxed : Demuxed
        { clients := s.world.clients, sk_hash := s.world.sk_hash, pp2sk, wsd_errno := s.world.wsd_errno } rv m') :
      SocketStep cfg env s pc id (some pp2sk) (some (if rv = 0 then m'.pp2sk else pp2_recv_leave frames m'.pp2sk))
  /-- A client's side of a call of `pp2_decode_frame`. -/
  | delivered (p frames : Nat) (todo : List Nat) (pp2sk sk sk' : Sk) (rv : Int) (m' : Mux)
      (hpc : s.pc = .pp2_recv p frames todo) (hpp : s.world.pp2sk = some (p, pp2sk)) (hne : id ≠ p)
      (hdemuxed : Demuxed
        { clients := s.world.clients, sk_hash := s.world.sk_hash, pp2sk, wsd_errno := s.world.wsd_errno } rv m')
      (hclient : s.world.clients id = some sk) (hclient' : m'.clients id = some sk') :
      SocketStep cfg env s pc id (some sk) (some sk')
  | started (todo : List Nat) (sk : Sk) (sendbuf : Skb) (hpc : s.pc = .check_timeouts (id :: todo))
      (hquiet : sk.Quiet) (hproto : sk.proto.start_closing_handshake = some .ws_start_closing_handshake)
      (hsend : sk.sendbuf.Ok → sk.sendbuf.Appended (closeFrame WS_1000 false) sendbuf) :
      SocketStep cfg env s pc id (some sk) (some { sk with
        sendbuf
        events := sk.events.union EPOLLOUT
        closing := true
        ts_closing_handshake_start := s.now })
  | pinged (todo : List Nat) (sk : Sk) (sendbuf : Skb) (hpc : s.pc = .check_timeouts (id :: todo))
      (hquiet : sk.Quiet) (hproto : sk.proto.ping = some .ws_ping)
      (hsend : sk.sendbuf.Ok → sk.sendbuf.Appended (pingPongFrame WS_PING_FRAME false) sendbuf) :
      SocketStep cfg env s pc id (some sk) (some { sk with sendbuf, events := sk.events.union EPOLLOUT })
  | read (events : EpollEvents) (todo : List (Option Nat × EpollEvents)) (sk : Sk) (bytes : List UInt8)
      (hpc : s.pc = .on_event ((some id, events) :: todo)) (hflag : sk.close_on_write = false)
      (hclose : sk.close = false) (hread : env.read = .ok bytes) (hne : bytes ≠ [])
      (hroom : skb_wrsz sk.recvbuf ≠ 0) :
      SocketStep cfg env s pc id (some sk)
        (some { sk with recvbuf := skb_put sk.recvbuf bytes, ts_last_io := s.now })
  | readFull (events : EpollEvents) (todo : List (Option Nat × EpollEvents)) (sk : Sk)
      (hpc : s.pc = .on_event ((some id, events) :: todo)) (hflag : sk.close_on_write = false)
      (hclose : sk.close = false) (hroom : skb_wrsz sk.recvbuf = 0) :
      SocketStep cfg env s pc id (some sk) (some { turn_off_events sk EPOLLIN with ts_last_io := s.now })
  | readFailed (events : EpollEvents) (todo : List (Option Nat × EpollEvents)) (sk : Sk) (retries : UInt8)
      (hpc : s.pc = .on_event ((some id, events) :: todo)) (hflag : sk.close_on_write = false)
      (hclose : sk.close = false) :
      SocketStep cfg env s pc id (some sk) (some { sk with ts_last_io := s.now, retries })
  | written (events : EpollEvents) (todo : List (Option Nat × EpollEvents)) (sk sk' : Sk)
      (hpc : s.pc = .on_event ((some id, events) :: todo)) (hwritten : Written env.write s.now sk sk')
      (hclose : sk'.close = false) (hdrained : sk'.close_on_write = true → skb_rdsz sk'.sendbuf ≠ 0) :
      SocketStep cfg env s pc id (some sk) (some sk')
  | gone (sk : Sk) (hgone : Gone cfg s id sk) : SocketStep cfg env s pc id (some sk) none

/-- The end of `try_recv` keeps all sockets or closes the one it is about. -/
theorem TryRecv.get_eq {w w' : World} {id : Nat} {rv : Int} (h : TryRecv w id rv w') :
    w'.get = w.get ∨ w'.get = Function.update w.get id none ∧ rv < 0 ∧ w.wsd_errno ≠ .WSD_EINPUT ∧
      w.wsd_errno ≠ .WSD_EAGAIN ∧ ∃ sk, w.get id = some sk ∧ sk.close_on_write = false := by
  cases h with
  | done => exact Or.inl rfl
  | again => exact Or.inl rfl
  | flushing => exact Or.inl rfl
  | closed sk w' hrv hinput hagain hget hclose hclosed =>
    exact Or.inr ⟨hclosed.get_eq, hrv, hinput, hagain, sk, hget, hclose⟩

section Steps

variable {cfg : Config} {ssl : Openssl} {env : Env} {s : State} {id j : Nat} {sk sk' : Sk} {w' : World}
  {pc : Pc}

/-- Where one socket changes, every other one is the same. -/
theorem socketStep_update {o : Option Sk} (hpc : ∀ k, k ≠ id → s.pc.receiver ≠ some k)
    (h : SocketStep cfg env s pc id (s.world.get id) o) (j : Nat) :
    SocketStep cfg env s pc j (s.world.get j) (Function.update s.world.get id o j) := by
  by_cases hj : j = id
  · subst hj
    rwa [Function.update_self]
  · rw [Function.update_of_ne hj]
    exact .same _ (hpc j hj)

/-- A socket which changes before it is closed is gone after the step. -/
theorem closed_get_set {w : World} {wsd_errno : Errno} {num : Nat}
    (h : Closed { w.set id sk with wsd_errno, num } id sk w') : w'.get = Function.update w.get id none := by
  have hget := h.get_eq
  change w'.get = Function.update (w.set id sk).get id none at hget
  rw [hget, World.get_set, Function.update_idem]

theorem RecvStep.socket {todo : List Nat} (hwf : s.Wf) (hpc : s.pc = .try_recv (id :: todo))
    (hget : s.world.get id = some sk) (h : RecvStep cfg ssl env s.world id sk todo w' pc) (j : Nat) :
    SocketStep cfg env s pc j (s.world.get j) (w'.get j) := by
  cases h with
  | http sk' statics wsd_errno rv w' hrecv hhttp htry =>
    have hkeep : SocketStep cfg env s (.try_recv todo) id (s.world.get id) (some sk') := by
      rw [hget]
      obtain ⟨-, -, rfl⟩ | hfailed | hdone := http_recv_cases hhttp
      · exact .same _ (by simp [hpc, Pc.receiver])
      · exact .handshakeFailed todo sk sk' rv wsd_errno hpc hrecv hfailed
      · exact .handshakeDone todo sk sk' rv hpc hrecv hdone
    obtain hsame | ⟨hgone, -⟩ := htry.get_eq
    · rw [hsame]
      change SocketStep cfg env s _ j _ ((s.world.set id sk').get j)
      rw [World.get_set]
      exact socketStep_update (by simp [hpc, Pc.receiver]) hkeep j
    · have hget' : w'.get = Function.update s.world.get id none := by
        rw [hgone]
        change Function.update (s.world.set id sk').get id none = _
        rw [World.get_set, Function.update_idem]
      rw [hget']
      refine socketStep_update (by simp [hpc, Pc.receiver]) ?_ j
      rw [hget]
      exact .gone sk (.http todo hpc hrecv)
  | ws => exact .same _ (by simp [hpc, Pc.receiver])
  | opened fd wsd_errno num hrecv hrdsz hpp hfd =>
    have hopen : (sk_open (.connected fd) { s.world with num, wsd_errno }).2.get = _ :=
      World.get_open (w := { s.world with num, wsd_errno }) hpp _ _
    rw [hopen]
    refine @socketStep_update _ _ _ s.world.next _ _ (by simp [hpc, Pc.receiver]) ?_ j
    rw [hwf.world.get_next]
    exact .opened fd id todo hpc rfl
  | notOpened wsd_errno num w' hrecv hrdsz hpp htry =>
    obtain hsame | ⟨hgone, -, -, -, sk1, hget1, hflag⟩ := htry.get_eq
    · rw [hsame]
      exact .same _ (by simp [hpc, Pc.receiver])
    · have hsk : sk1 = sk := Option.some.inj (hget1.symm.trans hget)
      subst hsk
      rw [hgone]
      refine @socketStep_update _ _ _ id _ _ (by simp [hpc, Pc.receiver]) ?_ j
      rw [hget]
      exact .gone sk1 (.notOpened todo hpc hrecv hpp hflag)
  | pp2 => exact .same _ (by simp [hpc, Pc.receiver])

/-- The two sockets of a frame handler's call change, the others do not. -/
theorem socketStep_update₂ {p : Nat} {o o' : Option Sk} (hpc : ∀ k, k ≠ id → s.pc.receiver ≠ some k)
    (h : SocketStep cfg env s pc id (s.world.get id) o) (h' : SocketStep cfg env s pc p (s.world.get p) o') (j : Nat) :
    SocketStep cfg env s pc j (s.world.get j) (Function.update (Function.update s.world.get id o) p o' j) := by
  by_cases hj : j = p
  · subst hj
    rwa [Function.update_self]
  · rw [Function.update_of_ne hj]
    exact socketStep_update hpc h j

theorem WsRecvStep.socket {frames p : Nat} {todo : List Nat} {pp2sk : Sk} (hwf : s.Wf)
    (hpc : s.pc = .ws_recv id frames todo) (hclient : s.world.clients id = some sk) (hup : Upgraded sk)
    (hpp : s.world.pp2sk = some (p, pp2sk))
    (h : WsRecvStep s.world id frames todo { sk, pp2sk, wsd_errno := s.world.wsd_errno } w' pc) (j : Nat) :
    SocketStep cfg env s pc j (s.world.get j) (w'.get j) := by
  have hreceiver (k : Nat) (hk : k ≠ id) : s.pc.receiver ≠ some k := by
    rw [hpc]
    exact fun heq => hk (Option.some.inj heq).symm
  have hgetid := hwf.world.get_of_client hclient
  have hgetp := World.get_backend hpp
  have hne : id ≠ p := by
    rintro rfl
    have hnone := (hwf.world.backend id pp2sk hpp).2.2
    rw [hclient] at hnone
    cases hnone
  cases h with
  | frame c' hdecoded =>
    rw [World.get_setConn hpp]
    refine socketStep_update₂ hreceiver ?_ ?_ j
    · rw [hgetid]
      exact .decoded frames todo sk p pp2sk 0 c' hpc hclient hup hpp hdecoded rfl
    · rw [hgetp]
      exact .forwarded id frames todo sk pp2sk 0 c' hpc hclient hpp hdecoded
  | done rv c' w' hrv hdecoded htry =>
    have hforwarded := @SocketStep.forwarded cfg env _ (.try_recv todo) _ id frames todo sk pp2sk rv c' hpc hclient hpp
      hdecoded
    rw [if_neg hrv] at hforwarded
    obtain hsame | ⟨hgone, hneg, hinput, hagain, sk1, hget1, hflag⟩ := htry.get_eq
    · rw [hsame, World.get_setConn hpp]
      refine socketStep_update₂ hreceiver ?_ (by rwa [hgetp]) j
      have hdecoded' := @SocketStep.decoded cfg env _ _ _ frames todo sk p pp2sk rv c' hpc hclient hup hpp
        hdecoded (if_neg hrv).symm
      rw [if_neg hrv] at hdecoded'
      rwa [hgetid]
    · have hget' : w'.get = Function.update (Function.update s.world.get id none) p
          (some (ws_recv_leave frames c').pp2sk) := by
        rw [hgone, World.get_setConn hpp, Function.update_comm hne.symm, Function.update_idem,
          Function.update_comm hne]
      rw [hget']
      refine socketStep_update₂ hreceiver ?_ (by rwa [hgetp]) j
      rw [hgetid]
      refine .gone sk (.ws frames todo p pp2sk rv c' hpc hpp hdecoded hneg ?_ ?_ ?_)
      · obtain ⟨events, pp2events, hleave⟩ := ws_recv_leave_eq frames c'
        rw [hleave] at hinput
        exact hinput
      · obtain ⟨events, pp2events, hleave⟩ := ws_recv_leave_eq frames c'
        rw [hleave] at hagain
        exact hagain
      · rw [World.get_setConn hpp, Function.update_of_ne hne, Function.update_self] at hget1
        cases hget1
        obtain ⟨events, pp2events, hleave⟩ := ws_recv_leave_eq frames c'
        rw [hleave] at hflag
        exact hflag

/-- The sockets after a call of `pp2_decode_frame`. -/
theorem get_setMux_backend {pp2sk pp2sk' : Sk} (m' : Mux) (hpp : s.world.pp2sk = some (id, pp2sk)) :
    (s.world.setMux { m' with pp2sk := pp2sk' }).get id = some pp2sk' ∧
      ∀ j, j ≠ id → (s.world.setMux { m' with pp2sk := pp2sk' }).get j = m'.clients j := by
  constructor
  · simp [World.get, World.setMux, hpp]
  · intro j hj
    simp [World.get, World.setMux, hpp, hj]

theorem Demuxed.socket {frames : Nat} {todo : List Nat} {rv : Int} {m' : Mux}
    (hpc : s.pc = .pp2_recv id frames todo) (hpp : s.world.pp2sk = some (id, sk))
    (h : Demuxed
      { clients := s.world.clients, sk_hash := s.world.sk_hash, pp2sk := sk, wsd_errno := s.world.wsd_errno } rv m')
    (j : Nat) (hj : j ≠ id) : SocketStep cfg env s pc j (s.world.get j) (m'.clients j) := by
  have hget : s.world.get j = s.world.clients j := by
    apply World.get_client
    intro p hp
    rw [hpp] at hp
    cases hp
    exact hj.symm
  rw [hget]
  cases hcl' : m'.clients j with
  | some cl' =>
    obtain ⟨cl, hcl, -⟩ := h.clients_core hcl'
    simp only at hcl
    rw [hcl]
    exact .delivered id frames todo sk cl cl' rv m' hpc hpp hj h hcl hcl'
  | none =>
    have hcl := h.clients_none hcl'
    simp only at hcl
    rw [hcl]
    exact .same _ (by simp [hpc, Pc.receiver])

theorem Pp2RecvStep.socket {frames : Nat} {todo : List Nat}
    (hpc : s.pc = .pp2_recv id frames todo) (hpp : s.world.pp2sk = some (id, sk))
    (h : Pp2RecvStep s.world id frames todo
      { clients := s.world.clients, sk_hash := s.world.sk_hash, pp2sk := sk, wsd_errno := s.world.wsd_errno } w' pc)
    (j : Nat) : SocketStep cfg env s pc j (s.world.get j) (w'.get j) := by
  have hgetp := World.get_backend hpp
  have hstep {rv : Int} {m' : Mux} {pp2sk' : Sk} (hdemuxed : Demuxed
      { clients := s.world.clients, sk_hash := s.world.sk_hash, pp2sk := sk, wsd_errno := s.world.wsd_errno } rv m')
      (hpp' : pp2sk' = if rv = 0 then m'.pp2sk else pp2_recv_leave frames m'.pp2sk) :
      SocketStep cfg env s pc j (s.world.get j) ((s.world.setMux { m' with pp2sk := pp2sk' }).get j) := by
    obtain ⟨hself, hother⟩ := @get_setMux_backend _ _ _ pp2sk' m' hpp
    by_cases hj : j = id
    · subst hj
      rw [hself, hgetp, hpp']
      exact .demuxed frames todo sk rv m' hpc hpp hdemuxed
    · rw [hother j hj]
      exact hdemuxed.socket hpc hpp j hj
  cases h with
  | frame m' hdemuxed => exact hstep hdemuxed (by rw [if_pos rfl])
  | done rv m' w' hrv hdemuxed htry =>
    obtain hsame | ⟨hgone, -⟩ := htry.get_eq
    · rw [hsame]
      exact hstep hdemuxed (by rw [if_neg hrv])
    · rw [hgone]
      by_cases hj : j = id
      · subst hj
        rw [Function.update_self, hgetp]
        exact .gone sk (.pp2 frames todo hpc hpp)
      · rw [Function.update_of_ne hj]
        exact hstep hdemuxed (by rw [if_neg hrv])

theorem CheckTimeouts.socket {todo : List Nat} (hpc : s.pc = .check_timeouts (id :: todo))
    (hget : s.world.get id = some sk) (h : CheckTimeouts cfg s.now s.world id sk w') (j : Nat) :
    SocketStep cfg env s pc j (s.world.get j) (w'.get j) := by
  have hset {sk' : Sk} {wsd_errno : Errno} (hstep : SocketStep cfg env s pc id (some sk) (some sk')) :
      SocketStep cfg env s pc j (s.world.get j) (World.get { s.world.set id sk' with wsd_errno } j) := by
    change SocketStep cfg env s pc j _ ((s.world.set id sk').get j)
    rw [World.get_set]
    exact socketStep_update (by simp [hpc, Pc.receiver]) (by rwa [hget]) j
  have hgone (h : Gone cfg s id sk) : SocketStep cfg env s pc j (s.world.get j) (Function.update s.world.get id none j) :=
    socketStep_update (by simp [hpc, Pc.receiver]) (by rw [hget]; exact .gone sk h) j
  cases h with
  | unchanged wsd_errno => exact hset (.same _ (by simp [hpc, Pc.receiver]))
  | idle wsd_errno w' hquiet hidle hclosed =>
    rw [closed_get_set hclosed]
    exact hgone (.idle todo hpc hquiet)
  | started sendbuf wsd_errno hquiet hproto hsend => exact hset (.started todo sk sendbuf hpc hquiet hproto hsend)
  | timedOut wsd_errno w' hclosing htimedOut hclosed =>
    rw [closed_get_set hclosed]
    exact hgone (.timedOut todo hpc hclosing htimedOut)
  | pinged sendbuf wsd_errno hquiet hproto hsend => exact hset (.pinged todo sk sendbuf hpc hquiet hproto hsend)

theorem OnRead.socket {events : EpollEvents} {todo : List (Option Nat × EpollEvents)}
    (hpc : s.pc = .on_event ((some id, events) :: todo)) (hget : s.world.get id = some sk)
    (hflag : sk.close_on_write = false) (hclose : sk.close = false)
    (h : OnRead cfg env.read env.retry s.now s.world id sk w') (j : Nat) :
    SocketStep cfg env s pc j (s.world.get j) (w'.get j) := by
  have hset {sk' : Sk} (hstep : SocketStep cfg env s pc id (some sk) (some sk')) :
      SocketStep cfg env s pc j (s.world.get j) ((s.world.set id sk').get j) := by
    rw [World.get_set]
    exact socketStep_update (by simp [hpc, Pc.receiver]) (by rwa [hget]) j
  cases h with
  | bytes bytes wsd_errno w' hread hne hroom hposted =>
    obtain ⟨linked, -, rfl⟩ := hposted
    exact hset (.read events todo sk bytes hpc hflag hclose hread hne hroom)
  | full wsd_errno w' hroom hposted =>
    obtain ⟨linked, -, rfl⟩ := hposted
    exact hset (.readFull events todo sk hpc hflag hclose hroom)
  | retry retries wsd_errno num => exact hset (.readFailed events todo sk retries hpc hflag hclose)
  | closed retries wsd_errno num w' hfails hclosed =>
    rw [closed_get_set hclosed]
    exact socketStep_update (by simp [hpc, Pc.receiver]) (by rw [hget]; exact .gone sk (.event events todo hpc)) j

theorem OnEvent.socket {events : EpollEvents} {todo : List (Option Nat × EpollEvents)}
    (hpc : s.pc = .on_event ((some id, events) :: todo)) (hget : s.world.get id = some sk)
    (h : OnEvent cfg env s.now s.world id events sk w') (j : Nat) :
    SocketStep cfg env s pc j (s.world.get j) (w'.get j) := by
  have hgone : SocketStep cfg env s pc j (s.world.get j) (Function.update s.world.get id none j) :=
    socketStep_update (by simp [hpc, Pc.receiver]) (by rw [hget]; exact .gone sk (.event events todo hpc)) j
  cases h with
  | read w' hevents hflag hclose hread => exact hread.socket hpc hget hflag hclose j
  | write sk' wsd_errno hwritten hclose hdrained =>
    change SocketStep cfg env s pc j _ ((s.world.set id sk').get j)
    rw [World.get_set]
    exact socketStep_update (by simp [hpc, Pc.receiver]) (by rw [hget]; exact .written events todo sk sk' hpc hwritten hclose hdrained) j
  | writeClosed sk' wsd_errno w' hevents hends hwritten hclosed =>
    rw [closed_get_set hclosed]
    exact hgone
  | closed w' hevents hclosed =>
    rw [hclosed.get_eq]
    exact hgone
  | unchanged => exact .same _ (by simp [hpc, Pc.receiver])

/-- Every step, seen from one address. -/
theorem Stepped.socket {s' : State} (hwf : s.Wf) (h : Stepped cfg ssl env s s') (j : Nat) :
    SocketStep cfg env s s'.pc j (s.world.get j) (s'.world.get j) := by
  cases h with
  | try_recv id todo sk world pc hpc hget hrecv => exact hrecv.socket hwf hpc hget j
  | ws_recv id frames todo sk p pp2sk world pc hpc hclient hup hpp hrecv =>
    exact hrecv.socket hwf hpc hclient hup hpp j
  | pp2_recv id frames todo sk world pc hpc hpp hrecv => exact hrecv.socket hpc hpp j
  | check_timeouts id todo sk world hpc hget hcheck => exact hcheck.socket hpc hget j
  | accepted a events todo hpc haccepted =>
    have haccept : (s.world.accept a).get = _ := World.get_accept hwf.world _ _ _
    rw [haccept]
    refine socketStep_update (by simp [hpc, Pc.receiver]) ?_ j
    rw [hwf.world.get_next]
    exact .accepted a events todo hpc rfl
  | on_event id events todo sk world hpc hget hevent => exact hevent.socket hpc hget j
  | shutdown id todo sk world hpc hget hclosed =>
    rw [hclosed.get_eq]
    exact socketStep_update (by simp [hpc, Pc.receiver]) (by rw [hget]; exact .gone sk (.shutdown todo hpc)) j
  | done hpc => exact .same _ (by simp [hpc, Pc.receiver])
  | iteration hpc => exact .same _ (by simp [hpc, Pc.receiver])
  | received hpc => exact .same _ (by simp [hpc, Pc.receiver])
  | checked hpc => exact .same _ (by simp [hpc, Pc.receiver])
  | interrupted hpc => exact .same _ (by simp [hpc, Pc.receiver])
  | waited events hpc => exact .same _ (by simp [hpc, Pc.receiver])
  | handled hpc => exact .same _ (by simp [hpc, Pc.receiver])
  | exit hpc => exact .same _ (by simp [hpc, Pc.receiver])

end Steps

end wsd
