import Wsd.Transition.Timer
import Wsd.Wschild.Abort
import Wsd.Wschild.Closing

namespace wsd

/-- When the decoder has put the close frame of a socket into its send buffer, which has
    not been empty since. -/
def State.replying (s s' : State) (id : Nat) (queued : Option Timespec) : Option Timespec :=
  match s.world.get id, s'.world.get id with
  | some sk, some sk' =>
    if skb_rdsz sk'.sendbuf = 0 then
      none
    else if s.pc.receiver = some id ∧ sk.closing = false ∧ sk'.closing = true then
      some s.now
    else
      queued
  | _, _ => none

/-- The daemon with the times of the close frames which wait to be written. -/
def daemonReplying (cfg : Config) (ssl : Openssl) : Transition.System (State × (Nat → Option Timespec)) Env Fault :=
  (daemon cfg ssl).history (fun s s' queued id => s.replying s' id (queued id)) fun _ => none

instance (cfg : Config) (ssl : Openssl) (s : State × (Nat → Option Timespec)) (env : Env) :
    Decidable ((daemonReplying cfg ssl).valid s env) :=
  inferInstanceAs (Decidable (env.Valid cfg s.1))

/-- The closing handshake timeout has passed between two times. -/
def Config.Passed (cfg : Config) (t now : Timespec) : Prop :=
  cfg.closing_handshake_timeout * 1000000 ≤ now.nanos - t.nanos

instance (cfg : Config) (t now : Timespec) : Decidable (cfg.Passed t now) :=
  inferInstanceAs (Decidable (_ ≤ _))

/-- A step of the event loop closes a socket whose close frame waits to be written only in
    an event of it, or when the timeout has passed. -/
def FlushesReplies (cfg : Config) (m : Transition.Move (State × (Nat → Option Timespec)) Env) : Prop :=
  ∀ id t, m.before.2 id = some t → m.after.1.world.get id = none → (∀ todo, m.before.1.pc ≠ .shutdown todo) →
    cfg.Passed t m.before.1.now ∨ ∃ events todo, m.before.1.pc = .on_event ((some id, events) :: todo)

/-- The turn of a socket whose close frame waits to be written ends with the socket's close. -/
inductive CutsShort (cfg : Config) (env : Env) (s : State) (queued : Nat → Option Timespec) : Prop
  /-- The timeout counts from the start of the clock. -/
  | timeout (id : Nat) (todo : List Nat) (sk : Sk) (t : Timespec) (hpc : s.pc = .check_timeouts (id :: todo))
      (hget : s.world.get id = some sk) (hqueued : queued id = some t) (hearly : ¬ cfg.Passed t s.now)
      (hclosing : sk.closing = true)
      (hpassed : has_timed_out .zero s.now cfg.closing_handshake_timeout = true) : CutsShort cfg env s queued
  /-- No frame starts behind a frame with an unknown opcode. -/
  | malformed (id frames : Nat) (todo : List Nat) (sk : Sk) (t : Timespec) (hpc : s.pc = .ws_recv id frames todo)
      (hclient : s.world.clients id = some sk) (hqueued : queued id = some t) (hearly : ¬ cfg.Passed t s.now)
      (hflag : sk.close_on_write = false) (hbad : Malformed sk.recvbuf.readable) : CutsShort cfg env s queued
  /-- There is no backend for what follows a frame with an unknown opcode. -/
  | unreachable (id : Nat) (todo : List Nat) (sk : Sk) (t : Timespec) (hpc : s.pc = .try_recv (id :: todo))
      (hget : s.world.get id = some sk) (hqueued : queued id = some t) (hearly : ¬ cfg.Passed t s.now)
      (hflag : sk.close_on_write = false) (hpp : s.world.pp2sk = none)
      (hopen : (open_loop cfg env.opens cfg.fhostname_num.toNat s.world).1 < 0)
      (hinput : (open_loop cfg env.opens cfg.fhostname_num.toNat s.world).2.wsd_errno ≠ .WSD_EINPUT)
      (hagain : (open_loop cfg env.opens cfg.fhostname_num.toNat s.world).2.wsd_errno ≠ .WSD_EAGAIN) :
      CutsShort cfg env s queued

/-- A client whose close frame the decoder has sent: the time of the closing handshake has
    not been taken. -/
structure Sk.Replying (sk : Sk) : Prop where
  recv : sk.ops.recv = some .ws_recv
  start : sk.ts_closing_handshake_start = .zero
  sent : sk.SentClose

/-- The time of the closing handshake is taken only when a close frame is sent. -/
def Sk.Untimed (sk : Sk) : Prop :=
  sk.ts_closing_handshake_start = .zero ∨ sk.SentClose

/-- A step keeps the handler of an upgraded client, and keeps the time of its closing
    handshake, or sends a close frame. -/
def Sk.Continues (sk sk' : Sk) : Prop :=
  (sk.ops.recv = some .ws_recv → sk'.ops.recv = some .ws_recv) ∧
    (sk'.ts_closing_handshake_start = sk.ts_closing_handshake_start ∧ (sk.SentClose → sk'.SentClose) ∨
      ¬ sk.SentClose ∧ sk'.SentClose)

section Sockets

variable {cfg : Config} {env : Env} {s : State} {id : Nat} {sk sk' : Sk} {pc : Pc}

theorem Sk.Continues.of_eq (hops : sk'.ops = sk.ops)
    (hstart : sk'.ts_closing_handshake_start = sk.ts_closing_handshake_start) (hclosing : sk'.closing = sk.closing)
    (hclose : sk'.close = sk.close) : sk.Continues sk' := by
  refine ⟨fun hrecv => by rwa [hops], Or.inl ⟨hstart, fun hsent => ?_⟩⟩
  rwa [Sk.SentClose, hclosing, hclose]

theorem Decoded.continues {c c' : Conn} {rv : Int} (h : Decoded c rv c') : c.sk.Continues c'.sk := by
  have hcore := h.core.1
  have hops : c'.sk.ops = c.sk.ops := congrArg Sk.Core.ops hcore
  refine ⟨fun hrecv => by rwa [hops], Or.inl ⟨congrArg Sk.Core.ts_closing_handshake_start hcore, fun hsent => ?_⟩⟩
  cases h with
  | closed => exact Or.inr rfl
  | reply => exact Or.inl rfl
  | unknown => exact Or.inl rfl
  | _ => exact hsent

theorem SocketStep.continues (h : SocketStep cfg env s pc id (some sk) (some sk')) : sk.Continues sk' := by
  cases h with
  | same => exact .of_eq rfl rfl rfl rfl
  | handshakeFailed todo sk sk1 rv wsd_errno hpc hrecv hfailed =>
    rw [hfailed.sk_eq]
    exact .of_eq rfl rfl rfl rfl
  | handshakeDone todo sk sk1 rv hpc hrecv hdone =>
    rw [hdone.sk_eq]
    exact ⟨fun _ => rfl, Or.inl ⟨rfl, fun hsent => hsent⟩⟩
  | decoded frames todo sk p pp2sk rv c' hpc hclient hup hpp hdecoded hnext =>
    obtain ⟨events, hleave⟩ := ws_recv_leave_sk rv frames c'
    rw [hleave]
    exact hdecoded.continues
  | forwarded id' frames todo sk pp2sk rv c' hpc hclient hpp hdecoded =>
    obtain ⟨events, hleave⟩ := ws_recv_leave_pp2sk rv frames c'
    rw [hleave, hdecoded.backend_flags]
    exact .of_eq rfl rfl rfl rfl
  | demuxed frames todo pp2sk rv m' hpc hpp hdemuxed =>
    obtain ⟨events, hleave⟩ := pp2_recv_leave_sk rv frames m'.pp2sk
    rw [hleave, hdemuxed.backend_flags]
    exact .of_eq rfl rfl rfl rfl
  | delivered p frames todo pp2sk sk sk1 rv m' hpc hpp hne hdemuxed hclient hclient' =>
    obtain ⟨sendbuf, events, rfl⟩ := hdemuxed.client_eq hclient hclient'
    exact .of_eq rfl rfl rfl rfl
  | started todo sk sendbuf hpc hquiet =>
    refine ⟨fun hrecv => hrecv, Or.inr ⟨?_, Or.inl rfl⟩⟩
    rintro (hset | hset)
    · rw [hquiet.1] at hset
      cases hset
    · rw [hquiet.2.1] at hset
      cases hset
  | pinged => exact .of_eq rfl rfl rfl rfl
  | read => exact .of_eq rfl rfl rfl rfl
  | readFull => exact .of_eq rfl rfl rfl rfl
  | readFailed => exact .of_eq rfl rfl rfl rfl
  | written events todo sk sk1 hpc hwritten => cases hwritten <;> exact .of_eq rfl rfl rfl rfl

/-- A new socket has no closing handshake. -/
theorem SocketStep.untimed_of_new (h : SocketStep cfg env s pc id none (some sk)) : sk.Untimed := by
  cases h with
  | accepted => exact Or.inl rfl
  | opened => exact Or.inl rfl

theorem Sk.Untimed.continues (h : sk.Untimed) (hcontinues : sk.Continues sk') : sk'.Untimed := by
  obtain ⟨-, ⟨hstart, hsent⟩ | ⟨-, hsent⟩⟩ := hcontinues
  · exact h.imp (fun hzero => hstart.trans hzero) hsent
  · exact Or.inr hsent

theorem Sk.Replying.continues (h : sk.Replying) (hcontinues : sk.Continues sk') : sk'.Replying := by
  obtain ⟨hrecv, ⟨hstart, hsent⟩ | ⟨hnot, -⟩⟩ := hcontinues
  · exact ⟨hrecv h.recv, hstart.trans h.start, hsent h.sent⟩
  · exact absurd h.sent hnot

theorem reach_untimed {ssl : Openssl} {P : State → Env → Prop} (h : (daemon cfg ssl).Reach P s)
    (hget : s.world.get id = some sk) : sk.Untimed := by
  refine reach_sockets (I := fun _ _ sk => sk.Untimed) h (fun s pc env id sk' hwf hvalid hP hold hsocket => ?_) id sk hget
  cases hget : s.world.get id with
  | none =>
    rw [hget] at hsocket
    exact hsocket.untimed_of_new
  | some sk =>
    rw [hget] at hsocket
    exact (hold sk hget).continues hsocket.continues

theorem IsClient.recv_of_upgraded (h : IsClient sk) (hup : Upgraded sk) : sk.ops.recv = some .ws_recv := by
  obtain ⟨-, proto⟩ | ⟨ops, -⟩ := h
  · have hencode := hup.encode_frame
    rw [proto] at hencode
    cases hencode
  · rw [ops]

/-- Where the decoder sets the closing flag, it sends a close frame. -/
theorem SocketStep.replying (hwf : s.Wf) (huntimed : sk.Untimed) (hdrained : sk.Drained)
    (h : SocketStep cfg env s pc id (some sk) (some sk')) (hreceiver : s.pc.receiver = some id)
    (hopen : sk.closing = false) (hset : sk'.closing = true) : sk'.Replying := by
  obtain ⟨frames, todo, hpc⟩ : ∃ frames todo, s.pc = .ws_recv id frames todo := by
    cases hpc : s.pc with
    | ws_recv id' frames todo =>
      rw [hpc] at hreceiver
      cases hreceiver
      exact ⟨frames, todo, rfl⟩
    | _ =>
      rw [hpc] at hreceiver
      cases hreceiver
  obtain ⟨sk1, hclient, hup⟩ := hwf.ws_recv id frames todo hpc
  -- the closing flag is not set by what the decoder does to the backend's socket
  obtain ⟨rfl, pp2sk, rv, c', hdecoded, hcore, hset'⟩ : sk1 = sk ∧ ∃ (pp2sk : Sk) (rv : Int) (c' : Conn),
      Decoded { sk, pp2sk, wsd_errno := s.world.wsd_errno } rv c' ∧ sk'.core = c'.sk.core ∧ c'.sk.closing = true := by
    cases h with
    | same _ hpc' => exact absurd hreceiver hpc'
    | decoded frames' todo' sk p pp2sk rv c' hpc' hclient' hup' hpp hdecoded hnext =>
      obtain ⟨events, hleave⟩ := ws_recv_leave_sk rv frames' c'
      rw [hleave] at hset ⊢
      exact ⟨Option.some.inj (hclient.symm.trans hclient'), pp2sk, rv, c', hdecoded, rfl, hset⟩
    | forwarded id' frames' todo' sk pp2sk rv c' hpc' hclient' hpp hdecoded =>
      have hnone := (hwf.world.backend id _ hpp).2.2
      rw [hclient] at hnone
      cases hnone
    | _ => simp_all
  have hcore := hcore.trans hdecoded.core.1
  have hops : sk'.ops = sk1.ops := congrArg Sk.Core.ops hcore
  refine ⟨?_, (congrArg Sk.Core.ts_closing_handshake_start hcore).trans ?_, Or.inl hset⟩
  · rw [hops]
    exact (hwf.world.client id sk1 hclient).1.recv_of_upgraded hup
  · obtain hzero | hclosing | hclose := huntimed
    · exact hzero
    · rw [hopen] at hclosing
      cases hclosing
    · rw [hdecoded.of_empty (hdrained hclose)] at hset'
      change sk1.closing = true at hset'
      rw [hopen] at hset'
      cases hset'

end Sockets

section Turns

variable {cfg : Config} {ssl : Openssl} {env : Env} {w w' : World} {id frames : Nat} {todo : List Nat} {sk : Sk} {pc : Pc}

/-- `try_recv` closes the socket after an error which does not ask for patience. -/
theorem try_recv_result_closes {rv : Int} (hwf : w.Wf) (hget : w.get id = some sk) (hflag : sk.close_on_write = false)
    (hrv : rv < 0) (hinput : w.wsd_errno ≠ .WSD_EINPUT) (hagain : w.wsd_errno ≠ .WSD_EAGAIN)
    (h : try_recv_result w id rv = .ok w') : w'.get id = none := by
  cases try_recv_result_inv hwf h with
  | done hdone =>
    obtain hzero | ⟨-, he⟩ := hdone
    · omega
    · exact absurd he hinput
  | again hdone =>
    obtain hpos | ⟨-, he⟩ := hdone
    · omega
    · exact absurd he hagain
  | flushing sk1 _ _ _ hget1 hclose =>
    rw [hget] at hget1
    cases hget1
    rw [hflag] at hclose
    cases hclose
  | closed sk1 w' _ _ _ hget1 hclose hclosed => rw [hclosed.get_eq, Function.update_self]

/-- A socket whose closing handshake has timed out is closed. -/
theorem check_timeouts_closes {now : Timespec} (hwf : w.Wf) (hget : w.get id = some sk) (hclosing : sk.closing = true)
    (hpassed : has_timed_out sk.ts_closing_handshake_start now cfg.closing_handshake_timeout = true)
    (h : check_timeouts cfg now w id = .ok w') : w'.get id = none := by
  have hexempt (timeout : Int) : check_timeout sk now timeout = false := by simp [check_timeout, hclosing]
  unfold check_timeouts check_idle at h
  rw [World.deref_of_get hget, Except.ok_bind, hexempt, if_neg (by simp), Except.ok_bind] at h
  simp only [Bool.false_eq_true, if_false] at h
  obtain ⟨timedOut, hcheck, h⟩ := Except.bind_eq_ok_iff.mp h
  unfold check_closing_handshake_timeout at hcheck
  obtain ⟨_, -, hcheck⟩ := Except.bind_eq_ok_iff.mp hcheck
  rw [if_pos hclosing, hpassed] at hcheck
  cases hcheck
  rw [if_pos rfl] at h
  have hset := @World.Wf.set_core _ _ _ sk hwf hget rfl rfl
  obtain ⟨sk1, hget1, hclosed⟩ := @close_inv { w.set id sk with wsd_errno := w.wsd_errno } _ _
    ⟨hset.client, hset.backend⟩ h
  rw [hclosed.get_eq, Function.update_self]

/-- A client with a malformed frame is closed. -/
theorem ws_recv_step_closes {p : Nat} {pp2sk : Sk} (hwf : w.Wf) (hclient : w.clients id = some sk)
    (hpp : w.pp2sk = some (p, pp2sk)) (hup : Upgraded sk) (hok : sk.recvbuf.Ok) (hflag : sk.close_on_write = false)
    (hbad : Malformed sk.recvbuf.readable) (h : ws_recv_step w id frames todo = .ok (w', pc)) : w'.get id = none := by
  have hne : id ≠ p := by
    rintro rfl
    have hnone := (hwf.backend id pp2sk hpp).2.2
    rw [hclient] at hnone
    cases hnone
  have hframe := World.decode_frame_of_ws hwf hclient hpp hup
    (@ws_decode_frame_malformed { sk, pp2sk, wsd_errno := w.wsd_errno } hok hbad)
  unfold ws_recv_step at h
  rw [hframe, Except.ok_bind] at h
  simp only [show ¬ (-1 : Int) = 0 by decide, if_false, World.conn_setConn hpp, Except.ok_bind, World.setConn_setConn] at h
  obtain ⟨w1, htry, hret⟩ := Except.bind_eq_ok_iff.mp h
  cases hret
  obtain ⟨events, pp2events, hleave⟩ := ws_recv_leave_eq frames
    { Conn.setRecvbuf { sk, pp2sk, wsd_errno := w.wsd_errno } (skb_rd_forward sk.recvbuf 2) with wsd_errno := .WSD_EBADREQ }
  rw [hleave] at htry
  have hget (c : Conn) : (w.setConn id c).get id = some c.sk := by
    rw [World.get_setConn hpp, Function.update_of_ne hne, Function.update_self]
  have hset (c : Conn) (hsk : c.sk.core = sk.core) (hpp2sk : c.pp2sk.core = pp2sk.core) : (w.setConn id c).Wf :=
    hwf.setConn hclient hpp ((hwf.client id sk hclient).1.of_core hsk) ((hwf.backend p pp2sk hpp).1.of_core hpp2sk)
  exact try_recv_result_closes (hset _ rfl rfl) (hget _) hflag (by decide) (by rintro ⟨⟩) (by rintro ⟨⟩) htry

/-- A client is closed when its backend's socket cannot be opened. -/
theorem recv_step_closes (hwf : w.Wf) (hget : w.get id = some sk) (hrecv : sk.ops.recv = some .ws_recv)
    (hpp : w.pp2sk = none) (h : recv_step cfg ssl env w id todo = .ok (w', pc)) :
    w'.get id = none ↔ sk.close_on_write = false ∧ (open_loop cfg env.opens cfg.fhostname_num.toNat w).1 < 0 ∧
      (open_loop cfg env.opens cfg.fhostname_num.toNat w).2.wsd_errno ≠ .WSD_EINPUT ∧
      (open_loop cfg env.opens cfg.fhostname_num.toNat w).2.wsd_errno ≠ .WSD_EAGAIN := by
  unfold recv_step at h
  rw [World.deref_of_get hget, Except.ok_bind, hrecv] at h
  obtain ⟨⟨rv, w1⟩, henter, h⟩ := Except.bind_eq_ok_iff.mp h
  obtain ⟨-, hloop⟩ := ws_recv_enter_inv hget henter
  rw [hpp, Option.isNone_none, if_pos rfl] at hloop
  rw [hloop]
  simp only at h ⊢
  obtain ⟨hrv, e, num, rfl⟩ | ⟨hrv, fd, num, -, hw1⟩ := open_loop_inv hloop
  · rw [if_pos (by omega)] at h
    obtain ⟨w2, htry, hret⟩ := Except.bind_eq_ok_iff.mp h
    cases hret
    have hwf1 : World.Wf { w with wsd_errno := e, num } := ⟨hwf.client, hwf.backend⟩
    constructor
    · intro hgone
      obtain hsame | ⟨-, -, hinput, hagain, sk1, hget1, hflag⟩ := (try_recv_result_inv hwf1 htry).get_eq
      · rw [hsame] at hgone
        cases hget.symm.trans hgone
      · cases hget.symm.trans hget1
        exact ⟨hflag, by omega, hinput, hagain⟩
    · rintro ⟨hflag, -, hinput, hagain⟩
      exact try_recv_result_closes hwf1 hget hflag (by decide) hinput hagain htry
  · rw [if_neg (by omega)] at h
    cases h
    constructor
    · intro hgone
      generalize w'.wsd_errno = e at hw1
      subst hw1
      have hopened : (sk_open (.connected fd) { w with num, wsd_errno := e }).2.get = _ :=
        World.get_open (w := { w with num, wsd_errno := e }) hpp _ _
      have hne : id ≠ w.next := by
        rintro rfl
        rw [hwf.get_next] at hget
        cases hget
      rw [hopened, Function.update_of_ne hne] at hgone
      cases hget.symm.trans hgone
    · rintro ⟨-, hneg, -⟩
      omega

end Turns

section Run

variable {cfg : Config} {ssl : Openssl} {s : State} {queued : Nat → Option Timespec} {id : Nat} {t : Timespec}

/-- A close frame which waits to be written has been sent by the decoder. -/
theorem reach_replying (h : (daemonReplying cfg ssl).Reach (fun _ _ => True) (s, queued)) (hqueued : queued id = some t) :
    ∃ sk, s.world.get id = some sk ∧ sk.Replying := by
  refine @Transition.System.Reach.history_invariant _ _ _ _ (daemon cfg ssl) _ _ (fun _ _ => True)
    (fun s queued => ∀ id t, queued id = some t → ∃ sk, s.world.get id = some sk ∧ sk.Replying) _ h ?_ ?_ id t hqueued
  · intro id t hnone
    cases hnone
  · intro s s' env queued hreach hold _ _ hstep id t hqueued
    have hwf := reach_wf hreach
    have hsocket := (step_inv hwf hstep).socket hwf id
    change s.replying s' id (queued id) = some t at hqueued
    unfold State.replying at hqueued
    cases hget : s.world.get id with
    | none =>
      rw [hget] at hqueued
      cases hqueued
    | some sk =>
      rw [hget] at hqueued hsocket
      cases hget' : s'.world.get id with
      | none =>
        rw [hget'] at hqueued
        cases hqueued
      | some sk' =>
        rw [hget'] at hqueued hsocket
        refine ⟨sk', rfl, ?_⟩
        simp only at hqueued
        split at hqueued
        · cases hqueued
        split at hqueued
        · rename_i hclosing
          exact hsocket.replying hwf (reach_untimed hreach hget) (reach_drained hreach hget) hclosing.1 hclosing.2.1
            hclosing.2.2
        · obtain ⟨sk1, hget1, hreplying⟩ := hold id t hqueued
          rw [hget] at hget1
          cases hget1
          exact hreplying.continues hsocket.continues

/-- The decoder ends the turn of a client which has been sent a close frame with an error
    only where no frame starts. -/
theorem Decoded.malformed_of_sent {c c' : Conn} {rv : Int} (h : Decoded c rv c') (hsent : c.sk.SentClose)
    (hdrained : c.sk.Drained) (hrv : rv < 0) (hinput : c'.wsd_errno ≠ .WSD_EINPUT)
    (hagain : c'.wsd_errno ≠ .WSD_EAGAIN) :
    Malformed c.sk.recvbuf.readable ∧ c'.sk.close_on_write = c.sk.close_on_write := by
  have hclosing {f : Frame} {key : UInt32} {rest : List UInt8} (hread : c.sk.recvbuf.readable = f.masked key ++ rest)
      (hopen : c.sk.closing = false) : False := by
    obtain hset | hclose := hsent
    · rw [hopen] at hset
      cases hset
    · have hlen := congrArg List.length hread
      rw [hdrained hclose, List.length_append, Frame.length_masked, List.length_nil] at hlen
      omega
  cases h with
  | malformed hbad => exact ⟨hbad, rfl⟩
  | full => exact absurd rfl hagain
  | keyCut => exact absurd rfl hinput
  | input => exact absurd rfl hinput
  | noReply f key rest recvbuf hread hclose hopen => exact (hclosing hread hopen).elim
  | pingFull f key rest recvbuf hread hping hopen => exact (hclosing hread hopen).elim
  | unknownFull f key rest recvbuf hread hunknown hopen => exact (hclosing hread hopen).elim
  | _ => exact absurd hrv (by decide)

/-- A socket whose turn is cut short is closed in it. -/
theorem CutsShort.closes {env : Env} {s' : State} (hwf : s.Wf) (hstep : step cfg ssl env s = .ok s')
    (hreplying : ∀ id t sk, queued id = some t → s.world.get id = some sk → sk.Replying)
    (h : CutsShort cfg env s queued) : ¬ ∀ id t, queued id = some t → s'.world.get id = none →
      (∀ todo, s.pc ≠ .shutdown todo) → cfg.Passed t s.now ∨ ∃ events todo, s.pc = .on_event ((some id, events) :: todo) := by
  intro hall
  unfold step at hstep
  cases h with
  | timeout id todo sk t hpc hget hqueued hearly hclosing hpassed =>
    have hsk := hreplying id t sk hqueued hget
    simp only [hpc] at hstep
    obtain ⟨world, hcheck, hret⟩ := Except.bind_eq_ok_iff.mp hstep
    cases hret
    rw [← hsk.start] at hpassed
    have hgone := check_timeouts_closes hwf.world hget hclosing hpassed hcheck
    simpa [hpc, hearly] using hall id t hqueued hgone
  | malformed id frames todo sk t hpc hclient hqueued hearly hflag hbad =>
    simp only [hpc] at hstep
    obtain ⟨⟨world, pc⟩, hrecv, hret⟩ := Except.bind_eq_ok_iff.mp hstep
    cases hret
    obtain ⟨sk1, hclient1, hup⟩ := hwf.ws_recv id frames todo hpc
    cases hclient.symm.trans hclient1
    have hok := hwf.bounded.recvbuf id sk (hwf.world.get_of_client hclient)
    obtain ⟨p, pp2sk, hpp, -⟩ := ws_recv_step_inv hwf.world hwf.bounded hclient hup hrecv
    have hgone := ws_recv_step_closes hwf.world hclient hpp hup hok hflag hbad hrecv
    simpa [hpc, hearly] using hall id t hqueued hgone
  | unreachable id todo sk t hpc hget hqueued hearly hflag hpp hopen hinput hagain =>
    simp only [hpc] at hstep
    obtain ⟨⟨world, pc⟩, hrecv, hret⟩ := Except.bind_eq_ok_iff.mp hstep
    cases hret
    have hgone := (recv_step_closes hwf.world hget (hreplying id t sk hqueued hget).recv hpp hrecv).mpr
      ⟨hflag, hopen, hinput, hagain⟩
    simpa [hpc, hearly] using hall id t hqueued hgone

/-- A socket which is closed before its close frame is written had its turn cut short. -/
theorem Gone.cuts_short {env : Env} {s' : State} {sk : Sk} (hwf : s.Wf) (hstep : step cfg ssl env s = .ok s')
    (hget : s.world.get id = some sk) (hsk : sk.Replying) (hdrained : sk.Drained) (hqueued : queued id = some t)
    (hgone : s'.world.get id = none) (hearly : ¬ cfg.Passed t s.now) (hloop : ∀ todo, s.pc ≠ .shutdown todo)
    (h : Gone cfg s id sk) :
    CutsShort cfg env s queued ∨ ∃ events todo, s.pc = .on_event ((some id, events) :: todo) := by
  cases h with
  | http todo hpc hrecv =>
    rw [hsk.recv] at hrecv
    cases hrecv
  | notOpened todo hpc hrecv hpp hflag =>
    unfold step at hstep
    simp only [hpc] at hstep
    obtain ⟨⟨world, pc⟩, hrecv, hret⟩ := Except.bind_eq_ok_iff.mp hstep
    cases hret
    obtain ⟨-, hopen, hinput, hagain⟩ := (recv_step_closes hwf.world hget hsk.recv hpp hrecv).mp hgone
    exact Or.inl (.unreachable id todo sk t hpc hget hqueued hearly hflag hpp hopen hinput hagain)
  | ws frames todo p pp2sk rv c' hpc hpp hdecoded hrv hinput hagain hflag =>
    obtain ⟨hbad, hsame⟩ := hdecoded.malformed_of_sent hsk.sent hdrained hrv hinput hagain
    obtain ⟨sk1, hclient, -⟩ := hwf.ws_recv id frames todo hpc
    cases hget.symm.trans (hwf.world.get_of_client hclient)
    exact Or.inl (.malformed id frames todo sk t hpc hclient hqueued hearly (hsame.symm.trans hflag) hbad)
  | pp2 frames todo hpc hpp =>
    have hrecv := hsk.recv
    rw [(hwf.world.backend id sk hpp).1.ops] at hrecv
    cases hrecv
  | idle todo hpc hquiet =>
    obtain hset | hset := hsk.sent
    · rw [hquiet.1] at hset
      cases hset
    · rw [hquiet.2.1] at hset
      cases hset
  | timedOut todo hpc hclosing htimedOut =>
    rw [hsk.start] at htimedOut
    exact Or.inl (.timeout id todo sk t hpc hget hqueued hearly hclosing htimedOut)
  | event events todo hpc => exact Or.inr ⟨events, todo, hpc⟩
  | shutdown todo hpc => exact absurd hpc (hloop _)

/-- A run flushes the close frames of the decoder exactly if no turn in it is cut short. -/
theorem replies_flushed_iff {path : List (Transition.Move (State × (Nat → Option Timespec)) Env)}
    {last : State × (Nat → Option Timespec)} (hpath : (daemonReplying cfg ssl).Path (fun _ _ => True) path last) :
    (∀ m ∈ path, FlushesReplies cfg m) ↔ ∀ m ∈ path, ¬ CutsShort cfg m.input m.before.1 m.before.2 := by
  refine forall₂_congr fun m hm => ?_
  obtain ⟨hreach, hvalid, -, hstep⟩ := hpath.move m hm
  obtain ⟨⟨s, queued⟩, env, ⟨s', queued'⟩⟩ := m
  have hs : step cfg ssl env s = .ok s' := (Transition.System.history_step hstep).1
  have hreach' : (daemon cfg ssl).Reach (fun _ _ => True) s :=
    @Transition.System.Reach.of_history _ _ _ _ (daemon cfg ssl) _ _ (fun _ _ => True) _ hreach
  have hwf := reach_wf hreach'
  have hreplying (id : Nat) (t : Timespec) (sk : Sk) (hqueued : queued id = some t) (hget : s.world.get id = some sk) :
      sk.Replying := by
    obtain ⟨sk1, hget1, hsk⟩ := reach_replying hreach hqueued
    cases hget.symm.trans hget1
    exact hsk
  constructor
  · exact fun hflushes hcuts => hcuts.closes hwf hs hreplying hflushes
  · intro hready id t hqueued hgone hloop
    by_cases hpassed : cfg.Passed t s.now
    · exact Or.inl hpassed
    obtain ⟨sk, hget, hsk⟩ := reach_replying hreach hqueued
    have hsocket := (step_inv hwf hs).socket hwf id
    rw [hget, hgone] at hsocket
    cases hsocket with
    | gone _ hclosed =>
      have hends := hclosed.cuts_short hwf hs hget hsk (reach_drained hreach' hget) hqueued hgone hpassed hloop
      exact Or.inr (hends.resolve_left hready)

/-- The clock is below the timeout, and at its turn a socket whose close frame waits is
    only flushed. -/
def Unhurried (cfg : Config) (s : State) (queued : Nat → Option Timespec) : Prop :=
  has_timed_out .zero s.now cfg.closing_handshake_timeout = false ∧
    ∀ id ∈ s.pc.queue.head?, (∀ sk ∈ s.world.get id, queued id = none ∨ sk.close_on_write = true) ∧
      ∀ sk ∈ s.world.clients id, queued id = none ∨ sk.close_on_write = true

instance (cfg : Config) (s : State) (queued : Nat → Option Timespec) : Decidable (Unhurried cfg s queued) :=
  inferInstanceAs (Decidable (_ ∧ ∀ _ ∈ _, _ ∧ _))

theorem Unhurried.not_cut {env : Env} (h : Unhurried cfg s queued) : ¬ CutsShort cfg env s queued := by
  have hflush {id : Nat} {t : Timespec} {sk : Sk} (hqueued : queued id = some t) (hor : queued id = none ∨ sk.close_on_write = true)
      (hflag : sk.close_on_write = false) : False := by
    obtain hnone | hset := hor
    · rw [hqueued] at hnone
      cases hnone
    · rw [hflag] at hset
      cases hset
  rintro (⟨id, todo, sk, t, hpc, hget, hqueued, hearly, hclosing, hpassed⟩ |
    ⟨id, frames, todo, sk, t, hpc, hclient, hqueued, hearly, hflag, -⟩ |
    ⟨id, todo, sk, t, hpc, hget, hqueued, hearly, hflag, -⟩)
  · rw [h.1] at hpassed
    cases hpassed
  · exact hflush hqueued ((h.2 id (by rw [hpc]; rfl)).2 sk hclient) hflag
  · exact hflush hqueued ((h.2 id (by rw [hpc]; rfl)).1 sk hget) hflag

/-- A client closes, and is closed when the answer has been written. -/
theorem replies_flushed_written : ∃ path last,
    (daemonReplying { Sample.config with closing_handshake_timeout := 20000 } Sample.openssl).Path (fun _ _ => True) path
      last ∧ (∃ m ∈ path, m.before.2 0 = some { tv_sec := 9, tv_nsec := 0 } ∧ m.after.1.world.clients 0 = none) ∧
      ∀ m ∈ path, FlushesReplies { Sample.config with closing_handshake_timeout := 20000 } m := by
  obtain ⟨path, last, hpath, hcalm, m, hm, hqueued, hgone⟩ := Transition.System.exists_path
    (daemonReplying { Sample.config with closing_handshake_timeout := 20000 } Sample.openssl) (P := fun _ _ => True)
    (B := fun path _ =>
      (∀ m ∈ path, Unhurried { Sample.config with closing_handshake_timeout := 20000 } m.before.1 m.before.2) ∧
        ∃ m ∈ path, m.before.2 0 = some { tv_sec := 9, tv_nsec := 0 } ∧ (m.after.1.world.clients 0).isNone = true)
    (Sample.connected Sample.request ++ Sample.iteration 9 4 (some 0) EPOLLOUT { write := .ok 182 } ++
      Sample.iteration 9 3 (some 0) EPOLLIN { read := .ok [0x88, 0x80, 0, 0, 0, 0] } ++
      [{ clock := { tv_sec := 9, tv_nsec := 0 } }, { opens := [.connected 6] }] ++ List.replicate 6 ({} : Env) ++
      [{ events := some [(some 0, EPOLLOUT)] }, { write := .ok 2 }]) (by decide +kernel)
  exact ⟨path, last, hpath, ⟨m, hm, hqueued, Option.isNone_iff_eq_none.mp hgone⟩,
    (replies_flushed_iff hpath).mpr fun m hm => (hcalm m hm).not_cut⟩

/-- Nine seconds after the start of the clock a client which closes is closed at once. -/
theorem reply_dropped : ¬ ∀ (cfg : Config) (ssl : Openssl)
    (path : List (Transition.Move (State × (Nat → Option Timespec)) Env)) (last : State × (Nat → Option Timespec)),
    (daemonReplying cfg ssl).Path (fun _ _ => True) path last → ∀ m ∈ path, FlushesReplies cfg m := by
  intro h
  obtain ⟨path, last, hpath, m, hm, hqueued, hgone, hpc, hnow⟩ := Transition.System.exists_path
    (daemonReplying Sample.config Sample.openssl) (P := fun _ _ => True)
    (B := fun path _ => ∃ m ∈ path, m.before.2 0 = some { tv_sec := 9, tv_nsec := 0 } ∧
      (m.after.1.world.get 0).isNone = true ∧ m.before.1.pc = .check_timeouts [0, 1] ∧
        m.before.1.now = { tv_sec := 9, tv_nsec := 0 })
    (Sample.connected Sample.request ++ Sample.iteration 9 4 (some 0) EPOLLIN { read := .ok [0x88, 0x80, 0, 0, 0, 0] } ++
      [{ clock := { tv_sec := 9, tv_nsec := 0 } }, { opens := [.connected 6] }] ++ List.replicate 4 ({} : Env))
    (by decide +kernel)
  have hends := h _ _ path last hpath m hm 0 _ hqueued (Option.isNone_iff_eq_none.mp hgone)
  rw [hpc, hnow] at hends
  obtain hpassed | ⟨events, todo, hevent⟩ := hends (by simp)
  · exact absurd hpassed (by decide)
  · cases hevent

end Run

end wsd
