import Wsd.Wschild.Socket

namespace wsd

section Kinds

variable {cfg : Config} {ssl : Openssl} {env : Env} {s : State} {w w' : World} {id : Nat} {sk : Sk} {pc : Pc}

theorem TryRecv.wf {rv : Int} (h : TryRecv w id rv w') (hwf : w.Wf) : w'.Wf := by
  cases h with
  | done hrv => exact ⟨hwf.client, hwf.backend⟩
  | again hrv => exact hwf
  | flushing => exact ⟨hwf.client, hwf.backend⟩
  | closed sk w' hrv hinput hagain hget hclose hclosed => exact hclosed.wf ⟨hwf.client, hwf.backend⟩

/-- Replacing a socket by one of the same kind, whatever happens to `wsd_errno`. -/
theorem World.Wf.set_core {sk' : Sk} (hwf : w.Wf) (hget : w.get id = some sk) (hops : sk'.ops = sk.ops)
    (hproto : sk'.proto = sk.proto) : (w.set id sk').Wf :=
  hwf.set hget (fun hc => hc.of_eq hops hproto) (fun hb => hb.of_eq hops hproto)

theorem RecvStep.wf {todo : List Nat} (hwf : w.Wf) (hget : w.get id = some sk)
    (h : RecvStep cfg ssl env w id sk todo w' pc) : w'.Wf := by
  cases h with
  | http sk' statics wsd_errno rv w' hrecv hhttp htry =>
    have hset : (w.set id sk').Wf := by
      apply hwf.set hget (http_recv_kind hhttp)
      intro hbackend
      rw [hbackend.ops] at hrecv
      cases hrecv
    exact htry.wf ⟨hset.client, hset.backend⟩
  | ws => exact hwf
  | opened fd wsd_errno num hrecv hrdsz hpp hfd =>
    exact World.Wf.open (w := { w with num, wsd_errno }) ⟨hwf.client, hwf.backend⟩ ⟨rfl, rfl⟩ _
  | notOpened wsd_errno num w' hrecv hrdsz hpp htry => exact htry.wf ⟨hwf.client, hwf.backend⟩
  | pp2 => exact hwf

theorem WsRecvStep.wf {frames p : Nat} {todo : List Nat} {pp2sk : Sk} {wsd_errno : Errno} (hwf : w.Wf)
    (hclient : w.clients id = some sk) (hpp : w.pp2sk = some (p, pp2sk))
    (h : WsRecvStep w id frames todo { sk, pp2sk, wsd_errno } w' pc) : w'.Wf := by
  have hsk := (hwf.client id sk hclient).1
  have hpp2sk := (hwf.backend p pp2sk hpp).1
  cases h with
  | frame c' hdecoded =>
    have hcore := hdecoded.core
    exact hwf.setConn hclient hpp (hsk.of_core hcore.1) (hpp2sk.of_core hcore.2)
  | done rv c' w' hrv hdecoded htry =>
    have hcore := hdecoded.core
    have hleave := ws_recv_leave_core frames c'
    exact htry.wf (hwf.setConn hclient hpp (hsk.of_core (hleave.1.trans hcore.1))
      (hpp2sk.of_core (hleave.2.trans hcore.2)))

theorem Pp2RecvStep.wf {frames : Nat} {todo : List Nat} {wsd_errno : Errno} (hwf : w.Wf)
    (hpp : w.pp2sk = some (id, sk))
    (h : Pp2RecvStep w id frames todo { clients := w.clients, sk_hash := w.sk_hash, pp2sk := sk, wsd_errno } w' pc) :
    w'.Wf := by
  have hsk := (hwf.backend id sk hpp).1
  have hclients {rv : Int} {m' : Mux} (hdemuxed : Demuxed
      { clients := w.clients, sk_hash := w.sk_hash, pp2sk := sk, wsd_errno } rv m') :
      ∀ j cl', m'.clients j = some cl' → IsClient cl' ∧ ∃ cl, w.clients j = some cl := by
    intro j cl' hcl'
    obtain ⟨cl, hcl, hcore⟩ := hdemuxed.clients_core hcl'
    exact ⟨(hwf.client j cl hcl).1.of_core hcore, cl, hcl⟩
  cases h with
  | frame m' hdemuxed => exact hwf.setMux hpp (hclients hdemuxed) (hsk.of_core hdemuxed.core)
  | done rv m' w' hrv hdemuxed htry =>
    have hkinds := hclients hdemuxed
    exact htry.wf (hwf.setMux (m := { m' with pp2sk := pp2_recv_leave frames m'.pp2sk }) hpp hkinds
      (hsk.of_core ((pp2_recv_leave_core frames m'.pp2sk).trans hdemuxed.core)))

theorem CheckTimeouts.wf {now : Timespec} (hwf : w.Wf) (hget : w.get id = some sk)
    (h : CheckTimeouts cfg now w id sk w') : w'.Wf := by
  cases h with
  | unchanged wsd_errno =>
    have hset := @World.Wf.set_core _ _ _ sk hwf hget rfl rfl
    exact ⟨hset.client, hset.backend⟩
  | idle wsd_errno w' hquiet hidle hclosed =>
    have hset := @World.Wf.set_core _ _ _ sk hwf hget rfl rfl
    exact hclosed.wf ⟨hset.client, hset.backend⟩
  | started sendbuf wsd_errno hquiet hproto hsend =>
    have hset := @World.Wf.set_core _ _ _ { sk with
      sendbuf
      events := sk.events.union EPOLLOUT
      closing := true
      ts_closing_handshake_start := now } hwf hget rfl rfl
    exact ⟨hset.client, hset.backend⟩
  | timedOut wsd_errno w' hclosing htimedOut hclosed =>
    have hset := @World.Wf.set_core _ _ _ sk hwf hget rfl rfl
    exact hclosed.wf ⟨hset.client, hset.backend⟩
  | pinged sendbuf wsd_errno hquiet hproto hsend =>
    have hset := @World.Wf.set_core _ _ _ { sk with sendbuf, events := sk.events.union EPOLLOUT } hwf hget rfl rfl
    exact ⟨hset.client, hset.backend⟩

theorem OnRead.wf {read : ReadResult} {retry : Bool} {now : Timespec} (hwf : w.Wf) (hget : w.get id = some sk)
    (h : OnRead cfg read retry now w id sk w') : w'.Wf := by
  cases h with
  | bytes bytes wsd_errno w' hread hne hroom hposted =>
    obtain ⟨linked, -, rfl⟩ := hposted
    have hset := @World.Wf.set_core _ _ _ { sk with recvbuf := skb_put sk.recvbuf bytes, ts_last_io := now } hwf hget
        rfl rfl
    exact ⟨hset.client, hset.backend⟩
  | full wsd_errno w' hroom hposted =>
    obtain ⟨linked, -, rfl⟩ := hposted
    have hset := @World.Wf.set_core _ _ _ { turn_off_events sk EPOLLIN with ts_last_io := now } hwf hget rfl rfl
    exact ⟨hset.client, hset.backend⟩
  | retry retries wsd_errno num =>
    have hset := @World.Wf.set_core _ _ _ { sk with ts_last_io := now, retries } hwf hget rfl rfl
    exact ⟨hset.client, hset.backend⟩
  | closed retries wsd_errno num w' hfails hclosed =>
    have hset := @World.Wf.set_core _ _ _ { sk with ts_last_io := now, retries } hwf hget rfl rfl
    exact hclosed.wf ⟨hset.client, hset.backend⟩

theorem OnEvent.wf {now : Timespec} {events : EpollEvents} (hwf : w.Wf) (hget : w.get id = some sk)
    (h : OnEvent cfg env now w id events sk w') : w'.Wf := by
  cases h with
  | read w' hevents hflag hclose hread => exact hread.wf hwf hget
  | write sk' wsd_errno hwritten hclose hdrained =>
    have hset := hwf.set_core hget hwritten.kind.1 hwritten.kind.2
    exact ⟨hset.client, hset.backend⟩
  | writeClosed sk' wsd_errno w' hevents hends hwritten hclosed =>
    have hset := hwf.set_core hget hwritten.kind.1 hwritten.kind.2
    exact hclosed.wf ⟨hset.client, hset.backend⟩
  | closed w' hevents hclosed => exact hclosed.wf hwf
  | unchanged => exact hwf

/-- Every step keeps the kinds of the sockets. -/
theorem Stepped.world_wf {s' : State} (hwf : s.Wf) (h : Stepped cfg ssl env s s') : s'.world.Wf := by
  cases h with
  | try_recv id todo sk world pc hpc hget hrecv => exact hrecv.wf hwf.world hget
  | ws_recv id frames todo sk p pp2sk world pc hpc hclient hup hpp hrecv => exact hrecv.wf hwf.world hclient hpp
  | pp2_recv id frames todo sk world pc hpc hpp hrecv => exact hrecv.wf hwf.world hpp
  | check_timeouts id todo sk world hpc hget hcheck => exact hcheck.wf hwf.world hget
  | accepted a events todo hpc haccepted => exact hwf.world.accept (.http rfl rfl) _ _
  | on_event id events todo sk world hpc hget hevent => exact hevent.wf hwf.world hget
  | shutdown id todo sk world hpc hget hclosed => exact hclosed.wf hwf.world
  | _ => exact hwf.world

end Kinds

/-- The buffers of a socket which the daemon itself bounds are in order. -/
structure Sk.Bounded (sk : Sk) : Prop where
  recvbuf : sk.recvbuf.Ok
  sendbuf : IsBackend sk → sk.sendbuf.Ok

section Buffers

variable {cfg : Config} {ssl : Openssl} {env : Env} {s s' : State} {id : Nat}

theorem World.Bounded.socket {w : World} (hwf : w.Wf) (h : w.Bounded) {sk : Sk} (hget : w.get id = some sk) :
    sk.Bounded := by
  refine ⟨h.recvbuf id sk hget, ?_⟩
  intro hkind
  obtain ⟨hpp, -⟩ | ⟨-, hclient, -⟩ := hwf.get_cases hget
  · exact h.backend id sk hpp
  · exact absurd hkind hclient.not_backend

theorem World.bounded_of_sockets {w : World} (hwf : w.Wf) (h : ∀ id sk, w.get id = some sk → sk.Bounded) : w.Bounded where
  recvbuf id sk hget := (h id sk hget).recvbuf
  backend p sk hpp := (h p sk (World.get_backend hpp)).sendbuf (hwf.backend p sk hpp).1

/-- The decoder keeps both buffers which it works on in order. -/
theorem Decoded.recvbuf_ok {c c' : Conn} {rv : Int} (h : Decoded c rv c') (hok : c.sk.recvbuf.Ok) : c'.sk.recvbuf.Ok := by
  cases h with
  | data f key rest recvbuf hread hdata hroom hok' => exact hok'
  | full f key rest recvbuf hread hdata hfull hok' => exact hok'
  | closed => exact Skb.ok_reset _
  | reply => exact Skb.ok_reset _
  | noReply => exact Skb.ok_reset _
  | ping f key rest recvbuf sendbuf hread hping hclosing hok' => exact hok'
  | pingFull f key rest recvbuf hread hping hclosing hok' => exact hok'
  | pong f key rest recvbuf hread hpong hok' => exact hok'
  | unknown f key rest recvbuf sendbuf hread hunknown hclosing hok' => exact hok'
  | unknownFull f key rest recvbuf hread hunknown hclosing hok' => exact hok'
  | malformed hbad => exact hok.rd_forward (hbad.two_le hok)
  | keyCut consumed hcut => exact hok.rd_forward (hcut.consumed_le hok)
  | input => exact hok

theorem Decoded.backend_ok {c c' : Conn} {rv : Int} (h : Decoded c rv c') (hok : c.pp2sk.sendbuf.Ok) :
    c'.pp2sk.sendbuf.Ok := by
  cases h with
  | data f key rest recvbuf hread hdata hroom hok' =>
    apply hok.put
    rw [length_pp2Frame]
    omega
  | _ => exact hok

theorem Demuxed.recvbuf_ok {m m' : Mux} {rv : Int} (h : Demuxed m rv m') (hok : m.pp2sk.recvbuf.Ok) :
    m'.pp2sk.recvbuf.Ok := by
  cases h with
  | waits => exact hok
  | skipped hash len rest recvbuf haccepted hlen hok' => exact hok'
  | full hash len rest id cln_sk recvbuf haccepted hlen hne hlookup hencode hfull hok' => exact hok'
  | delivered hash len rest id cln_sk sendbuf recvbuf haccepted hlen hlookup hencode hcheck hsend hok' => exact hok'

/-- The end of a receive loop changes no buffer. -/
theorem ws_recv_leave_sk (rv : Int) (frames : Nat) (c : Conn) :
    ∃ events, (if rv = 0 then c.sk else (ws_recv_leave frames c).sk) = { c.sk with events } := by
  obtain ⟨events, pp2events, h⟩ := ws_recv_leave_eq frames c
  rw [h]
  split
  · exact ⟨c.sk.events, rfl⟩
  · exact ⟨events, rfl⟩

theorem ws_recv_leave_pp2sk (rv : Int) (frames : Nat) (c : Conn) :
    ∃ events, (if rv = 0 then c.pp2sk else (ws_recv_leave frames c).pp2sk) = { c.pp2sk with events } := by
  obtain ⟨events, pp2events, h⟩ := ws_recv_leave_eq frames c
  rw [h]
  split
  · exact ⟨c.pp2sk.events, rfl⟩
  · exact ⟨pp2events, rfl⟩

theorem pp2_recv_leave_sk (rv : Int) (frames : Nat) (sk : Sk) :
    ∃ events, (if rv = 0 then sk else pp2_recv_leave frames sk) = { sk with events } := by
  obtain ⟨events, h⟩ := pp2_recv_leave_eq frames sk
  rw [h]
  split
  · exact ⟨sk.events, rfl⟩
  · exact ⟨events, rfl⟩

theorem Written.sendbuf_ok {write : WriteResult} {now : Timespec} {sk sk' : Sk} (h : Written write now sk sk')
    (hlen : write.len ≤ skb_rdsz sk.sendbuf) (hok : sk.sendbuf.Ok) : sk'.sendbuf.Ok := by
  cases h with
  | none => exact hok
  | failed => exact hok
  | some len hwrite hne =>
    rw [hwrite] at hlen
    exact (hok.rd_forward hlen).compact

theorem SocketStep.bounded {pc : Pc} (hwf : s.Wf) (hvalid : env.Valid cfg s) {o' : Option Sk} {sk' : Sk}
    (h : SocketStep cfg env s pc id (s.world.get id) o') (hsk' : o' = some sk') : sk'.Bounded := by
  have hold {sk : Sk} (hget : s.world.get id = some sk) : sk.Bounded := hwf.bounded.socket hwf.world hget
  generalize hget : s.world.get id = o at h
  cases h with
  | same => exact hold (hget.trans hsk')
  | accepted a events todo hpc =>
    cases hsk'
    exact ⟨Skb.ok_zero, fun _ => Skb.ok_zero⟩
  | opened fd id' todo hpc =>
    cases hsk'
    exact ⟨Skb.ok_zero, fun _ => Skb.ok_zero⟩
  | handshakeFailed todo sk sk1 rv wsd_errno hpc hrecv hfailed =>
    cases hsk'
    rw [hfailed.sk_eq]
    refine ⟨Skb.ok_reset _, ?_⟩
    intro hkind
    have hops : sk.ops = _ := hkind.ops
    rw [hops] at hrecv
    cases hrecv
  | handshakeDone todo sk sk1 rv hpc hrecv hdone =>
    cases hsk'
    refine ⟨hdone.recvbuf_ok, ?_⟩
    intro hkind
    have hops := hkind.ops
    rw [hdone.sk_eq] at hops
    simp [upgrade] at hops
  | decoded frames todo sk p pp2sk rv c' hpc hclient hup hpp hdecoded hnext =>
    cases hsk'
    obtain ⟨events, hleave⟩ := ws_recv_leave_sk rv frames c'
    rw [hleave]
    refine ⟨hdecoded.recvbuf_ok (hold hget).recvbuf, ?_⟩
    intro hkind
    have hclient' := (hwf.world.client id sk hclient).1.of_core hdecoded.core.1
    exact absurd (@IsBackend.of_eq _ c'.sk hkind rfl rfl) hclient'.not_backend
  | forwarded id' frames todo sk pp2sk rv c' hpc hclient hpp hdecoded =>
    cases hsk'
    obtain ⟨events, hleave⟩ := ws_recv_leave_pp2sk rv frames c'
    rw [hleave]
    refine ⟨?_, fun _ => hdecoded.backend_ok (hwf.bounded.backend id pp2sk hpp)⟩
    change c'.pp2sk.recvbuf.Ok
    rw [hdecoded.backend_recvbuf]
    exact (hold hget).recvbuf
  | demuxed frames todo pp2sk rv m' hpc hpp hdemuxed =>
    cases hsk'
    obtain ⟨events, hleave⟩ := pp2_recv_leave_sk rv frames m'.pp2sk
    rw [hleave]
    refine ⟨hdemuxed.recvbuf_ok (hold hget).recvbuf, ?_⟩
    intro _
    change m'.pp2sk.sendbuf.Ok
    rw [hdemuxed.backend_sendbuf]
    exact hwf.bounded.backend id pp2sk hpp
  | delivered p frames todo pp2sk sk sk1 rv m' hpc hpp hne hdemuxed hclient hclient' =>
    cases hsk'
    have hkind := (hwf.world.client id sk hclient).1
    obtain ⟨cl, hcl, hcore⟩ := hdemuxed.clients_core hclient'
    simp only at hcl
    rw [hclient] at hcl
    cases hcl
    refine ⟨?_, fun hbackend => absurd hbackend (hkind.of_core hcore).not_backend⟩
    obtain ⟨sendbuf, events, rfl⟩ := hdemuxed.client_eq hclient hclient'
    exact (hold hget).recvbuf
  | started todo sk sendbuf hpc hquiet hproto hsend =>
    cases hsk'
    have hsk := hold hget
    exact ⟨hsk.recvbuf, fun hkind => (hsend (hsk.sendbuf (hkind.of_eq rfl rfl))).ok
      (hsk.sendbuf (hkind.of_eq rfl rfl))⟩
  | pinged todo sk sendbuf hpc hquiet hproto hsend =>
    cases hsk'
    have hsk := hold hget
    exact ⟨hsk.recvbuf, fun hkind => (hsend (hsk.sendbuf (hkind.of_eq rfl rfl))).ok
      (hsk.sendbuf (hkind.of_eq rfl rfl))⟩
  | read events todo sk bytes hpc hflag hclose hread hne hroom =>
    cases hsk'
    have hsk := hold hget
    have hlen := (hvalid.2.2.2.2 id (by rw [hpc]; rfl) sk hget).1
    rw [hread] at hlen
    exact ⟨hsk.recvbuf.put hlen, fun hkind => hsk.sendbuf (hkind.of_eq rfl rfl)⟩
  | readFull events todo sk hpc hflag hclose hroom =>
    cases hsk'
    have hsk := hold hget
    exact ⟨hsk.recvbuf, fun hkind => hsk.sendbuf (hkind.of_eq rfl rfl)⟩
  | readFailed events todo sk retries hpc hflag hclose =>
    cases hsk'
    have hsk := hold hget
    exact ⟨hsk.recvbuf, fun hkind => hsk.sendbuf (hkind.of_eq rfl rfl)⟩
  | written events todo sk sk1 hpc hwritten hclose hdrained =>
    cases hsk'
    have hsk := hold hget
    have hlen := (hvalid.2.2.2.2 id (by rw [hpc]; rfl) sk hget).2
    refine ⟨?_, ?_⟩
    · rw [hwritten.recvbuf_eq]
      exact hsk.recvbuf
    · intro hkind
      exact hwritten.sendbuf_ok hlen (hsk.sendbuf (hkind.of_eq hwritten.kind.1.symm hwritten.kind.2.symm))
  | gone => cases hsk'

theorem Decoded.backend_flags {c c' : Conn} {rv : Int} (h : Decoded c rv c') :
    c'.pp2sk = { c.pp2sk with sendbuf := c'.pp2sk.sendbuf } := by
  cases h <;> rfl

theorem Demuxed.backend_flags {m m' : Mux} {rv : Int} (h : Demuxed m rv m') :
    m'.pp2sk = { m.pp2sk with recvbuf := m'.pp2sk.recvbuf } := by
  cases h <;> rfl

/-- A backend's socket after a step has been opened in it, or was the backend's before and
    keeps its closing flags. -/
theorem SocketStep.backend {pc : Pc} (hwf : s.Wf) {o' : Option Sk} {sk' : Sk}
    (h : SocketStep cfg env s pc id (s.world.get id) o') (hsk' : o' = some sk') (hkind : IsBackend sk') :
    s.world.get id = none ∧ sk'.Quiet ∨ ∃ sk, s.world.pp2sk = some (id, sk) ∧
      sk'.closing = sk.closing ∧ sk'.close = sk.close ∧ sk'.close_on_write = sk.close_on_write := by
  generalize hget : s.world.get id = o at h
  have hold {sk : Sk} (hsk : o = some sk) (hbackend : IsBackend sk) : s.world.pp2sk = some (id, sk) := by
    obtain ⟨hpp, -⟩ | ⟨-, hclient, -⟩ := hwf.world.get_cases (hget.trans hsk)
    · exact hpp
    · exact absurd hbackend hclient.not_backend
  cases h with
  | same => exact Or.inr ⟨sk', hold hsk' hkind, rfl, rfl, rfl⟩
  | accepted a events todo hpc =>
    cases hsk'
    exact Or.inl ⟨rfl, rfl, rfl, rfl⟩
  | opened fd id' todo hpc =>
    cases hsk'
    exact Or.inl ⟨rfl, rfl, rfl, rfl⟩
  | handshakeFailed todo sk sk1 rv wsd_errno hpc hrecv hfailed =>
    cases hsk'
    have hops := hkind.ops
    rw [hfailed.sk_eq] at hops
    rw [show sk.ops = _ from hops] at hrecv
    cases hrecv
  | handshakeDone todo sk sk1 rv hpc hrecv hdone =>
    cases hsk'
    have hops := hkind.ops
    rw [hdone.sk_eq] at hops
    simp [upgrade] at hops
  | decoded frames todo sk p pp2sk rv c' hpc hclient hup hpp hdecoded hnext =>
    cases hsk'
    obtain ⟨events, hleave⟩ := ws_recv_leave_sk rv frames c'
    rw [hleave] at hkind
    have hclient' := (hwf.world.client id sk hclient).1.of_core hdecoded.core.1
    exact absurd (@IsBackend.of_eq _ c'.sk hkind rfl rfl) hclient'.not_backend
  | forwarded id' frames todo sk pp2sk rv c' hpc hclient hpp hdecoded =>
    cases hsk'
    obtain ⟨events, hleave⟩ := ws_recv_leave_pp2sk rv frames c'
    rw [hleave, hdecoded.backend_flags]
    exact Or.inr ⟨pp2sk, hpp, rfl, rfl, rfl⟩
  | demuxed frames todo pp2sk rv m' hpc hpp hdemuxed =>
    cases hsk'
    obtain ⟨events, hleave⟩ := pp2_recv_leave_sk rv frames m'.pp2sk
    rw [hleave, hdemuxed.backend_flags]
    exact Or.inr ⟨pp2sk, hpp, rfl, rfl, rfl⟩
  | delivered p frames todo pp2sk sk sk1 rv m' hpc hpp hne hdemuxed hclient hclient' =>
    cases hsk'
    have hclientkind := (hwf.world.client id sk hclient).1
    obtain ⟨cl, hcl, hcore⟩ := hdemuxed.clients_core hclient'
    simp only at hcl
    rw [hclient] at hcl
    cases hcl
    exact absurd hkind (hclientkind.of_core hcore).not_backend
  | started todo sk sendbuf hpc hquiet hproto hsend =>
    cases hsk'
    rw [show sk.proto = _ from hkind.proto] at hproto
    cases hproto
  | pinged todo sk sendbuf hpc hquiet hproto hsend =>
    cases hsk'
    rw [show sk.proto = _ from hkind.proto] at hproto
    cases hproto
  | read events todo sk bytes hpc hflag hclose hread hne hroom =>
    cases hsk'
    exact Or.inr ⟨sk, @hold sk rfl (hkind.of_eq rfl rfl), rfl, rfl, rfl⟩
  | readFull events todo sk hpc hflag hclose hroom =>
    cases hsk'
    exact Or.inr ⟨sk, @hold sk rfl (hkind.of_eq rfl rfl), rfl, rfl, rfl⟩
  | readFailed events todo sk retries hpc hflag hclose =>
    cases hsk'
    exact Or.inr ⟨sk, @hold sk rfl (hkind.of_eq rfl rfl), rfl, rfl, rfl⟩
  | written events todo sk sk1 hpc hwritten hclose hdrained =>
    cases hsk'
    have hpp := @hold sk rfl (hkind.of_eq hwritten.kind.1.symm hwritten.kind.2.symm)
    exact Or.inr ⟨sk, hpp, hwritten.flags.2.2, hwritten.flags.1, hwritten.flags.2.1⟩
  | gone => cases hsk'

/-- The closing flags belong to clients. -/
theorem SocketStep.backend_quiet {pc : Pc} (hwf : s.Wf) {o' : Option Sk} {sk' : Sk}
    (h : SocketStep cfg env s pc id (s.world.get id) o') (hsk' : o' = some sk') (hkind : IsBackend sk') : sk'.Quiet := by
  obtain ⟨-, hquiet⟩ | ⟨sk, hpp, hclosing, hclose, hclose_on_write⟩ := h.backend hwf hsk' hkind
  · exact hquiet
  · rw [Sk.Quiet, hclosing, hclose, hclose_on_write]
    exact hwf.quiet id sk hpp

theorem Stepped.quiet (hwf : s.Wf) (h : Stepped cfg ssl env s s') (p : Nat) (sk : Sk)
    (hpp : s'.world.pp2sk = some (p, sk)) : sk.Quiet := by
  have hsocket := h.socket hwf p
  rw [World.get_backend hpp] at hsocket
  exact hsocket.backend_quiet hwf rfl ((h.world_wf hwf).backend p sk hpp).1

/-- Every step keeps the buffers which the daemon bounds in order. -/
theorem Stepped.bounded (hwf : s.Wf) (hvalid : env.Valid cfg s) (h : Stepped cfg ssl env s s') : s'.world.Bounded := by
  apply World.bounded_of_sockets (h.world_wf hwf)
  intro id sk hget
  exact (h.socket hwf id).bounded hwf hvalid hget

end Buffers

section Reachable

variable {cfg : Config} {ssl : Openssl} {env : Env} {s s' : State} {id frames : Nat} {todo : List Nat}

/-- A receive loop for frames is entered for a client which is upgraded. -/
theorem Stepped.ws_recv_pc (hwf : s.Wf) (h : Stepped cfg ssl env s s') (hpc : s'.pc = .ws_recv id frames todo) :
    ∃ sk, s'.world.clients id = some sk ∧ Upgraded sk := by
  have hstart {id' : Nat} {sk : Sk} (hget : s.world.get id' = some sk) (hrecv : sk.ops.recv = some .ws_recv) :
      s.world.clients id' = some sk ∧ Upgraded sk := by
    obtain ⟨-, hkind⟩ | ⟨hclient, hkind, -⟩ := hwf.world.get_cases hget
    · rw [hkind.ops] at hrecv
      cases hrecv
    · exact ⟨hclient, hkind.upgraded hrecv⟩
  cases h with
  | try_recv id' todo' sk world pc hpc' hget hrecv =>
    cases hrecv with
    | ws hrecv =>
      cases hpc
      exact ⟨sk, hstart hget hrecv⟩
    | opened fd wsd_errno num hrecv =>
      cases hpc
      exact ⟨sk, hstart hget hrecv⟩
    | _ => cases hpc
  | ws_recv id' frames' todo' sk p pp2sk world pc hpc' hclient hup hpp hrecv =>
    cases hrecv with
    | frame c' hdecoded =>
      cases hpc
      have hcore := hdecoded.core.1
      exact ⟨c'.sk, by simp [World.setConn], hup.of_core hcore⟩
    | done => cases hpc
  | pp2_recv id' frames' todo' sk world pc hpc' hpp hrecv => cases hrecv <;> cases hpc
  | exit hpc' =>
    rw [hpc'] at hpc
    cases hpc
  | _ => cases hpc

/-- The receive loop for the backend's frames is entered for the backend. -/
theorem Stepped.pp2_recv_pc (hwf : s.Wf) (h : Stepped cfg ssl env s s') (hpc : s'.pc = .pp2_recv id frames todo) :
    ∃ sk, s'.world.pp2sk = some (id, sk) := by
  cases h with
  | try_recv id' todo' sk world pc hpc' hget hrecv =>
    cases hrecv with
    | pp2 hrecv =>
      cases hpc
      obtain ⟨hpp, -⟩ | ⟨-, hkind, -⟩ := hwf.world.get_cases hget
      · exact ⟨sk, hpp⟩
      · obtain ⟨ops, -⟩ | ⟨ops, -⟩ := hkind
        · rw [ops] at hrecv
          cases hrecv
        · rw [ops] at hrecv
          cases hrecv
    | _ => cases hpc
  | ws_recv id' frames' todo' sk p pp2sk world pc hpc' hclient hup hpp hrecv => cases hrecv <;> cases hpc
  | pp2_recv id' frames' todo' sk world pc hpc' hpp hrecv =>
    cases hrecv with
    | frame m' hdemuxed =>
      cases hpc
      exact ⟨m'.pp2sk, by simp [World.setMux, hpp]⟩
    | done => cases hpc
  | exit hpc' =>
    rw [hpc'] at hpc
    cases hpc
  | _ => cases hpc

theorem Stepped.wf (hwf : s.Wf) (hvalid : env.Valid cfg s) (h : Stepped cfg ssl env s s') : s'.Wf where
  world := h.world_wf hwf
  bounded := h.bounded hwf hvalid
  quiet := h.quiet hwf
  ws_recv _ _ _ hpc := h.ws_recv_pc hwf hpc
  pp2_recv _ _ _ hpc := h.pp2_recv_pc hwf hpc

theorem init_wf : (daemon cfg ssl).init.Wf where
  world :=
    { client := fun _ _ h => by cases h
      backend := fun _ _ h => by cases h }
  bounded :=
    { recvbuf := fun _ _ h => by cases h
      backend := fun _ _ h => by cases h }
  quiet _ _ h := by cases h
  ws_recv _ _ _ h := by cases h
  pp2_recv _ _ _ h := by cases h

variable {P : State → Env → Prop}

/-- The states of a run are well-formed, whatever its steps are. -/
theorem reach_wf (h : (daemon cfg ssl).Reach P s) : s.Wf :=
  h.invariant init_wf fun _ _ _ hwf hvalid _ hs => (step_inv hwf hs).wf hwf hvalid

/-- What holds at the start and is kept by every step of a well-formed state
    holds in every state of a run. -/
theorem reach_invariant {I : State → Prop} (h : (daemon cfg ssl).Reach P s) (hinit : I (daemon cfg ssl).init)
    (hstep : ∀ s s' env, s.Wf → I s → env.Valid cfg s → P s env → Stepped cfg ssl env s s' → I s') : I s := by
  refine (h.invariant (I := fun s => s.Wf ∧ I s) ⟨init_wf, hinit⟩ ?_).2
  intro s s' env hs hvalid hP hstepped
  have h' := step_inv hs.1 hstepped
  exact ⟨h'.wf hs.1 hvalid, hstep s s' env hs.1 hs.2 hvalid hP h'⟩

/-- What holds of each socket by itself and is kept by every step holds in every
    state of a run. -/
theorem reach_sockets {I : Pc → Nat → Sk → Prop} (h : (daemon cfg ssl).Reach P s)
    (hstep : ∀ s pc env id sk', s.Wf → env.Valid cfg s → P s env → (∀ sk, s.world.get id = some sk → I s.pc id sk) →
      SocketStep cfg env s pc id (s.world.get id) (some sk') → I pc id sk') :
    ∀ id sk, s.world.get id = some sk → I s.pc id sk := by
  refine reach_invariant (I := fun s => ∀ id sk, s.world.get id = some sk → I s.pc id sk) h ?_ ?_
  · intro id sk hget
    cases hget
  · intro s s' env hwf hI hvalid hP hstepped id sk' hget'
    have hsocket := hstepped.socket hwf id
    rw [hget'] at hsocket
    exact hstep s s'.pc env id sk' hwf hvalid hP (hI id) hsocket

end Reachable

end wsd
