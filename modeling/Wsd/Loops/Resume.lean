import Wsd.Wscat.Recv
import Wsd.Wscat.Stdin
import Wsd.Wschild.Inversion

namespace wsd

/-- The receive loops of the two programs. -/
inductive RecvLoop
  | ws_recv
  | pp2_recv
  | wssk_ws_recv
  | stdin_recv
  deriving DecidableEq, Repr

/-- A call of a receive loop which decodes at least one frame and returns: its
    socket at the call and at the return. -/
inductive RecvCall : RecvLoop → Sk → Sk → Prop
  | ws_recv {cfg : Config} {opens : List OpenResult} {w w1 w2 w' : World} {id : Nat} {sk sk' : Sk} {rv rv1 : Int}
      (hwf : w.Wf) (hclient : w.clients id = some sk) (hup : Upgraded sk)
      (hrecv : wsd.ws_recv cfg opens w id = .ok (rv, w')) (henter : ws_recv_enter cfg opens w id = .ok (rv1, w1))
      (hopen : ¬ rv1 < 0) (hfirst : decode_frame w1 id = .ok (0, w2)) (hclient' : w'.clients id = some sk') :
      RecvCall .ws_recv sk sk'
  | pp2_recv {w w1 w' : World} {id : Nat} {sk sk' : Sk} {rv : Int}
      (hwf : w.Wf) (hpp : w.pp2sk = some (id, sk)) (hok : sk.recvbuf.Ok)
      (hrecv : wsd.pp2_recv w id = .ok (rv, w')) (hfirst : decode_frame w id = .ok (0, w1))
      (hpp' : w'.pp2sk = some (id, sk')) : RecvCall .pp2_recv sk sk'
  | wssk_ws_recv {no_handshake : Bool} {w w1 w' : Wssk} {rv : Int}
      (hrecv : wsd.wssk_ws_recv no_handshake w = .ok (rv, w'))
      (hfirst : wssk_ws_decode_frame no_handshake w = .ok (0, w1)) : RecvCall .wssk_ws_recv w.sk w'.sk
  | stdin_recv {s s1 s' : Stdin} {rv : Int} (hrecv : wsd.stdin_recv s = .ok (rv, s'))
      (hfirst : stdin_decode_frame s = .ok (0, s1)) : RecvCall .stdin_recv s.sk s'.sk

/-- The loops which turn EPOLLIN on again: the one of the websocket socket in wscat
    always, the one of the backend's socket only for an empty mask. -/
def Resumes (loop : RecvLoop) (sk : Sk) : Prop :=
  loop = .wssk_ws_recv ∨ loop = .pp2_recv ∧ sk.events = {}

section Ws

/-- The decoder of a client leaves its EPOLLIN as it is. -/
theorem dispatch_payload_epollin {c c' : Conn} {wsf : WsFrame} {rv : Int}
    (hencode : c.pp2sk.proto.encode_frame = some .pp2_encode_frame) (h : dispatch_payload c wsf = .ok (rv, c')) :
    c'.sk.core = c.sk.core ∧ c'.pp2sk.core = c.pp2sk.core ∧ c'.sk.events.EPOLLIN = c.sk.events.EPOLLIN := by
  unfold dispatch_payload at h
  by_cases hdata : IsData (OPCODE wsf.byte1)
  · simp only [if_pos hdata, hencode, encode_frame] at h
    unfold pp2_encode_frame at h
    split at h
    · cases h
      exact ⟨rfl, rfl, rfl⟩
    · cases h
      exact ⟨rfl, rfl, rfl⟩
  simp only [if_neg hdata] at h
  by_cases hclose : OPCODE wsf.byte1 = WS_CLOSE_FRAME
  · simp only [if_pos hclose] at h
    obtain ⟨⟨rv', sk', e⟩, hfinish, hret⟩ := Except.bind_eq_ok_iff.mp h
    cases hret
    obtain ⟨recvbuf, ⟨-, -, -, rfl⟩ | ⟨-, -, -, status, sendbuf, -, rfl⟩ | ⟨-, -, -, rfl⟩⟩ :=
      ws_finish_closing_handshake_inv hfinish
    all_goals exact ⟨rfl, rfl, rfl⟩
  simp only [if_neg hclose] at h
  by_cases hping : OPCODE wsf.byte1 = WS_PING_FRAME
  · simp only [if_pos hping] at h
    obtain ⟨⟨rv', sk', e⟩, hpong, hret⟩ := Except.bind_eq_ok_iff.mp h
    cases hret
    cases hproto : (c.setRecvbuf (skb_compact c.sk.recvbuf)).sk.proto.pong with
    | none =>
      rw [hproto] at hpong
      cases hpong
    | some handler =>
      rw [hproto] at hpong
      cases handler
      obtain ⟨-, ⟨-, -, sendbuf, rfl, -⟩ | ⟨-, -, rfl⟩⟩ := put_ping_pong_inv hpong
      · exact ⟨rfl, rfl, Bool.or_false _⟩
      · exact ⟨rfl, rfl, rfl⟩
  simp only [if_neg hping] at h
  by_cases hpong : OPCODE wsf.byte1 = WS_PONG_FRAME
  · simp only [if_pos hpong] at h
    cases h
    exact ⟨rfl, rfl, rfl⟩
  simp only [if_neg hpong] at h
  obtain ⟨⟨rv', sk', e⟩, hstart, hret⟩ := Except.bind_eq_ok_iff.mp h
  cases hret
  cases hproto : c.sk.proto.start_closing_handshake with
  | none =>
    rw [hproto] at hstart
    cases hstart
  | some handler =>
    rw [hproto] at hstart
    cases handler
    obtain ⟨-, ⟨-, -, sendbuf, rfl, -⟩ | ⟨-, -, rfl⟩⟩ := ws_start_closing_handshake_inv hstart
    · exact ⟨rfl, rfl, Bool.or_false _⟩
    · exact ⟨rfl, rfl, rfl⟩

theorem ws_decode_frame_epollin {c c' : Conn} {rv : Int}
    (hencode : c.pp2sk.proto.encode_frame = some .pp2_encode_frame) (h : ws_decode_frame c = .ok (rv, c')) :
    c'.sk.core = c.sk.core ∧ c'.pp2sk.core = c.pp2sk.core ∧ c'.sk.events.EPOLLIN = c.sk.events.EPOLLIN := by
  unfold ws_decode_frame at h
  simp only at h
  split at h
  · cases h
    exact ⟨rfl, rfl, rfl⟩
  split at h
  · cases h
    exact ⟨rfl, rfl, rfl⟩
  split at h
  · cases h
    exact ⟨rfl, rfl, rfl⟩
  split at h
  · cases h
    exact ⟨rfl, rfl, rfl⟩
  split at h
  · cases h
    exact ⟨rfl, rfl, rfl⟩
  have hdispatch := dispatch_payload_epollin (by exact hencode) h
  exact hdispatch

variable {w w' : World} {id : Nat} {sk : Sk} {rv : Int}

/-- A client's decoder, seen from the world. -/
theorem decode_frame_client (hwf : w.Wf) (hclient : w.clients id = some sk) (hup : Upgraded sk)
    (h : decode_frame w id = .ok (rv, w')) :
    w'.Wf ∧ ∃ sk', w'.clients id = some sk' ∧ Upgraded sk' ∧ sk'.events.EPOLLIN = sk.events.EPOLLIN := by
  obtain ⟨p, pp2sk, c', hpp, hdecode, rfl⟩ := World.decode_frame_ws hwf hclient hup h
  have hbackend := (hwf.backend p pp2sk hpp).1
  have hencode : pp2sk.proto.encode_frame = some .pp2_encode_frame := by rw [hbackend.proto]
  obtain ⟨hcore, hpcore, hin⟩ := ws_decode_frame_epollin hencode hdecode
  refine ⟨hwf.setConn hclient hpp ((hwf.client id sk hclient).1.of_core hcore) (hbackend.of_core hpcore), c'.sk, ?_,
    hup.of_core hcore, hin⟩
  simp [World.setConn]

/-- The loop of a client leaves its EPOLLIN as it is. -/
theorem decode_loop_client {fuel n frames : Nat} (hwf : w.Wf) (hclient : w.clients id = some sk) (hup : Upgraded sk)
    (h : decode_loop id fuel n w = .ok (rv, frames, w')) :
    ∃ sk', w'.clients id = some sk' ∧ sk'.events.EPOLLIN = sk.events.EPOLLIN := by
  induction fuel generalizing n w sk with
  | zero => cases h
  | succ fuel ih =>
    unfold decode_loop at h
    obtain ⟨⟨rv1, w1⟩, hframe, h⟩ := Except.bind_eq_ok_iff.mp h
    obtain ⟨hwf1, sk1, hclient1, hup1, hin1⟩ := decode_frame_client hwf hclient hup hframe
    by_cases hrv : rv1 = 0
    · simp only [if_pos hrv] at h
      obtain ⟨sk', hclient', hin⟩ := ih hwf1 hclient1 hup1 h
      exact ⟨sk', hclient', hin.trans hin1⟩
    · simp only [if_neg hrv] at h
      cases h
      exact ⟨sk1, hclient1, hin1⟩

/-- EPOLLIN is off when `ws_recv` returns if it was off before, unless the socket is
    closed after its last write. -/
theorem ws_recv_leave_off {frames : Nat} {c : Conn} (hoff : c.sk.events.EPOLLIN = false)
    (hflush : (ws_recv_leave frames c).sk.close_on_write = false) :
    (ws_recv_leave frames c).sk.events.EPOLLIN = false := by
  have hcow : c.sk.close_on_write = false := by
    obtain ⟨events, pp2events, heq⟩ := ws_recv_leave_eq frames c
    rw [heq] at hflush
    exact hflush
  simp only [ws_recv_leave, ite_turn_on, ite_turn_off, hcow, Bool.false_eq_true, and_false, false_and, if_false,
    or_false]
  split
  · simp [EpollEvents.diff, hoff]
  · exact hoff

/-- After the entry of `ws_recv` the client is as before. -/
theorem ws_recv_enter_client {cfg : Config} {opens : List OpenResult} (hwf : w.Wf)
    (hclient : w.clients id = some sk) (h : ws_recv_enter cfg opens w id = .ok (rv, w')) (hopen : ¬ rv < 0) :
    w'.Wf ∧ w'.clients id = some sk := by
  obtain ⟨-, henter⟩ := ws_recv_enter_inv (hwf.get_of_client hclient) h
  by_cases hnone : w.pp2sk.isNone = true
  · rw [if_pos hnone] at henter
    obtain ⟨rfl, -⟩ | ⟨-, fd, num, -, hw'⟩ := open_loop_inv henter
    · exact absurd (by decide) hopen
    · rw [hw']
      exact ⟨World.Wf.open (w := { w with num, wsd_errno := w'.wsd_errno }) ⟨hwf.client, hwf.backend⟩
        ⟨rfl, rfl⟩ _, hclient⟩
  · rw [if_neg hnone] at henter
    cases henter
    exact ⟨hwf, hclient⟩

theorem ws_recv_off {cfg : Config} {opens : List OpenResult} {sk' : Sk} (hwf : w.Wf)
    (hclient : w.clients id = some sk) (hup : Upgraded sk) (h : ws_recv cfg opens w id = .ok (rv, w'))
    (hclient' : w'.clients id = some sk') (hoff : sk.events.EPOLLIN = false) (hflush : sk'.close_on_write = false)
    {rv1 : Int} {w1 : World} (henter : ws_recv_enter cfg opens w id = .ok (rv1, w1)) (hopen : ¬ rv1 < 0) :
    sk'.events.EPOLLIN = false := by
  obtain ⟨hwf1, hclient1⟩ := ws_recv_enter_client hwf hclient henter hopen
  unfold ws_recv at h
  rw [henter] at h
  simp only [Except.ok_bind, if_neg hopen] at h
  obtain ⟨⟨rv2, frames, w2⟩, hloop, h⟩ := Except.bind_eq_ok_iff.mp h
  obtain ⟨c, hconn, h⟩ := Except.bind_eq_ok_iff.mp h
  cases h
  obtain ⟨sk2, hclient2, hin⟩ := decode_loop_client hwf1 hclient1 hup hloop
  obtain ⟨p, hsk2, -, -⟩ := World.conn_eq_ok hconn
  have hsame : c.sk = sk2 := Option.some.inj (hsk2.symm.trans hclient2)
  simp only [World.setConn, Function.update_self, Option.some.injEq] at hclient'
  subst hclient'
  exact ws_recv_leave_off (by rw [hsame, hin, hoff]) hflush

/-- A call which decodes one frame and then stops. -/
theorem ws_recv_one {cfg : Config} {opens : List OpenResult} {p : Nat} {pp2sk : Sk} {c1 c2 : Conn} (hwf : w.Wf)
    (hclient : w.clients id = some sk) (hpp : w.pp2sk = some (p, pp2sk)) (hup : Upgraded sk)
    (hrdsz : skb_rdsz sk.recvbuf ≠ 0)
    (hfirst : ws_decode_frame { sk, pp2sk, wsd_errno := w.wsd_errno } = .ok (0, c1))
    (hsecond : ws_decode_frame c1 = .ok (-1, c2)) :
    ws_recv cfg opens w id = .ok (-1, w.setConn id (ws_recv_leave 1 c2)) ∧
      decode_frame w id = .ok (0, w.setConn id c1) ∧ ws_recv_enter cfg opens w id = .ok (0, w) := by
  have hget := hwf.get_of_client hclient
  have hframe := World.decode_frame_of_ws hwf hclient hpp hup hfirst
  obtain ⟨hwf1, sk1, hclient1, hup1, -⟩ := decode_frame_client hwf hclient hup hframe
  have hsk1 : (w.setConn id c1).clients id = some c1.sk := by simp [World.setConn]
  have hpp1 : (w.setConn id c1).pp2sk = some (p, c1.pp2sk) := by simp [World.setConn, hpp]
  rw [hsk1] at hclient1
  cases hclient1
  have hframe1 := World.decode_frame_of_ws hwf1 hsk1 hpp1 hup1 hsecond
  rw [World.setConn_setConn] at hframe1
  have henter : ws_recv_enter cfg opens w id = .ok (0, w) := by
    unfold ws_recv_enter
    rw [World.deref_of_get hget]
    simp only [Except.ok_bind, hrdsz, ne_eq, not_false_eq_true, decide_true, assert_true, hpp, Option.isNone_some,
      Bool.false_eq_true, if_false, Except.pure_eq_ok]
  obtain ⟨m, hm⟩ : ∃ m, recv_fuel w id = m + 2 := by
    refine ⟨skb_rdsz sk.recvbuf - 1, ?_⟩
    unfold recv_fuel
    simp only [hget]
    omega
  refine ⟨?_, hframe, henter⟩
  unfold ws_recv
  rw [henter, Except.ok_bind]
  simp only [show ¬ (0 : Int) < 0 by decide, if_false, hm]
  rw [decode_loop, hframe, Except.ok_bind]
  simp only [if_true]
  rw [decode_loop, hframe1, Except.ok_bind]
  simp only [show ¬ (-1 : Int) = 0 by decide, if_false, Except.pure_eq_ok, Except.ok_bind,
    World.conn_setConn hpp, World.setConn_setConn]

end Ws

section Pp2

variable {w w' : World} {id : Nat} {sk : Sk} {rv : Int}

/-- The backend's decoder leaves its interest set as it is. -/
theorem decode_frame_backend (hwf : w.Wf) (hpp : w.pp2sk = some (id, sk)) (hok : sk.recvbuf.Ok)
    (h : decode_frame w id = .ok (rv, w')) :
    w'.Wf ∧ ∃ sk', w'.pp2sk = some (id, sk') ∧ sk'.recvbuf.Ok ∧ sk'.events = sk.events := by
  have hbackend := (hwf.backend id sk hpp).1
  obtain ⟨m', hdecode, rfl⟩ := World.decode_frame_pp2 hpp hbackend h
  have hclients (j : Nat) (cl : Sk) (hcl : w.clients j = some cl) :
      cl.proto.encode_frame ≠ some .pp2_encode_frame := (hwf.client j cl hcl).1.encode_ne
  have hdemuxed := pp2_decode_frame_inv
    (m := { clients := w.clients, sk_hash := w.sk_hash, pp2sk := sk, wsd_errno := w.wsd_errno }) hok hclients hdecode
  refine ⟨hwf.setMux hpp ?_ (hbackend.of_core hdemuxed.core), m'.pp2sk, by simp [World.setMux, hpp], ?_, ?_⟩
  · intro j cl' hcl'
    obtain ⟨cl, hcl, hcore⟩ := hdemuxed.clients_core hcl'
    exact ⟨(hwf.client j cl hcl).1.of_core hcore, cl, hcl⟩
  · cases hdemuxed with
    | waits => exact hok
    | skipped hash len rest recvbuf haccepted hlen hrecv => exact hrecv
    | full hash len rest id cln_sk recvbuf haccepted hlen hne hlookup hencode hfull hrecv => exact hrecv
    | delivered hash len rest id cln_sk sendbuf recvbuf haccepted hlen hlookup hencode hcheck hsend hrecv =>
      exact hrecv
  · cases hdemuxed <;> rfl

/-- The loop of the backend's socket leaves its interest set as it is, and counts
    the first frame. -/
theorem decode_loop_backend {fuel n frames : Nat} (hwf : w.Wf) (hpp : w.pp2sk = some (id, sk)) (hok : sk.recvbuf.Ok)
    (h : decode_loop id fuel n w = .ok (rv, frames, w')) :
    n ≤ frames ∧ (∀ w1, decode_frame w id = .ok (0, w1) → n < frames) ∧
      ∃ sk', w'.pp2sk = some (id, sk') ∧ sk'.events = sk.events := by
  induction fuel generalizing n w sk with
  | zero => cases h
  | succ fuel ih =>
    unfold decode_loop at h
    obtain ⟨⟨rv1, w1⟩, hframe, h⟩ := Except.bind_eq_ok_iff.mp h
    obtain ⟨hwf1, sk1, hpp1, hok1, hevents1⟩ := decode_frame_backend hwf hpp hok hframe
    by_cases hrv : rv1 = 0
    · simp only [if_pos hrv] at h
      obtain ⟨hle, -, sk', hpp', hevents⟩ := ih hwf1 hpp1 hok1 h
      exact ⟨by omega, fun _ _ => by omega, sk', hpp', hevents.trans hevents1⟩
    · simp only [if_neg hrv] at h
      cases h
      refine ⟨Nat.le_refl _, fun w2 hfirst => ?_, sk1, hpp1, hevents1⟩
      rw [hframe] at hfirst
      cases hfirst
      exact absurd rfl hrv

theorem pp2_recv_events {w1 : World} {sk' : Sk} (hwf : w.Wf) (hpp : w.pp2sk = some (id, sk)) (hok : sk.recvbuf.Ok)
    (h : pp2_recv w id = .ok (rv, w')) (hfirst : decode_frame w id = .ok (0, w1)) (hpp' : w'.pp2sk = some (id, sk')) :
    sk'.events = if sk.events = {} then sk.events.union EPOLLIN else sk.events := by
  unfold pp2_recv at h
  obtain ⟨-, -, h⟩ := Except.bind_eq_ok_iff.mp h
  obtain ⟨⟨rv2, frames, w2⟩, hloop, h⟩ := Except.bind_eq_ok_iff.mp h
  obtain ⟨sk2, hderef, h⟩ := Except.bind_eq_ok_iff.mp h
  cases h
  obtain ⟨-, hcount, sk3, hpp3, hevents⟩ := decode_loop_backend hwf hpp hok hloop
  have hframes : frames ≠ 0 := Nat.ne_of_gt (hcount w1 hfirst)
  have hsame : sk2 = sk3 := by
    have hget := World.deref_eq_ok hderef
    rw [World.get_backend hpp3] at hget
    exact (Option.some.inj hget).symm
  subst hsame
  rw [World.set_backend hpp3] at hpp'
  cases hpp'
  rw [pp2_recv_leave, ite_turn_on]
  simp only [hframes, ne_eq, not_false_eq_true, true_and, hevents]

end Pp2

section Wscat

/-- The loop of the websocket socket counts the first frame. -/
theorem wssk_decode_loop_count {no_handshake : Bool} {fuel n frames : Nat} {w w' : Wssk} {rv : Int}
    (h : wssk_decode_loop no_handshake fuel n w = .ok (rv, frames, w')) :
    n ≤ frames ∧ ∀ w1, wssk_ws_decode_frame no_handshake w = .ok (0, w1) → n < frames := by
  induction fuel generalizing n w with
  | zero => cases h
  | succ fuel ih =>
    unfold wssk_decode_loop at h
    obtain ⟨⟨rv1, w1⟩, hframe, h⟩ := Except.bind_eq_ok_iff.mp h
    by_cases hrv : rv1 = 0
    · simp only [if_pos hrv] at h
      obtain ⟨hle, -⟩ := ih h
      exact ⟨by omega, fun _ _ => by omega⟩
    · simp only [if_neg hrv] at h
      cases h
      refine ⟨Nat.le_refl _, fun w2 hfirst => ?_⟩
      rw [hframe] at hfirst
      cases hfirst
      exact absurd rfl hrv

theorem turned_on_in (events : EpollEvents) :
    (if (!events.EPOLLIN) = true then events.union EPOLLIN else events).EPOLLIN = true := by
  cases hin : events.EPOLLIN with
  | false => simp [EpollEvents.union, EPOLLIN]
  | true => simpa using hin

theorem wssk_ws_recv_on {no_handshake : Bool} {w w1 w' : Wssk} {rv : Int}
    (h : wssk_ws_recv no_handshake w = .ok (rv, w')) (hfirst : wssk_ws_decode_frame no_handshake w = .ok (0, w1))
    (hclose : w'.sk.close = false) (hflush : w'.sk.close_on_write = false) : w'.sk.events.EPOLLIN = true := by
  unfold wssk_ws_recv at h
  obtain ⟨-, -, h⟩ := Except.bind_eq_ok_iff.mp h
  obtain ⟨⟨rv2, frames, w2⟩, hloop, h⟩ := Except.bind_eq_ok_iff.mp h
  cases h
  have hframes : frames ≠ 0 := Nat.ne_of_gt ((wssk_decode_loop_count hloop).2 w1 hfirst)
  simp only [wssk_ws_recv_leave, ite_turn_on, ite_turn_off] at hclose hflush ⊢
  simp only [hclose, hflush, hframes, ne_eq, not_false_eq_true, true_and, Bool.not_false, and_true,
    Bool.false_eq_true, or_self, if_false]
  exact turned_on_in _

/-- The loop of the standard input's socket leaves everything but its buffer. -/
theorem stdin_decode_loop_sk {fuel n frames : Nat} {s s' : Stdin} {rv : Int}
    (h : stdin_decode_loop fuel n s = .ok (rv, frames, s')) : ∃ recvbuf, s'.sk = { s.sk with recvbuf } := by
  induction fuel generalizing n s with
  | zero => cases h
  | succ fuel ih =>
    unfold stdin_decode_loop at h
    obtain ⟨⟨rv1, s1⟩, hframe, h⟩ := Except.bind_eq_ok_iff.mp h
    obtain ⟨recvbuf1, hsk1⟩ := stdin_decode_frame_sk hframe
    by_cases hrv : rv1 = 0
    · simp only [if_pos hrv] at h
      obtain ⟨recvbuf, hsk⟩ := ih h
      exact ⟨recvbuf, by rw [hsk, hsk1]⟩
    · simp only [if_neg hrv] at h
      cases h
      exact ⟨recvbuf1, hsk1⟩

theorem stdin_recv_off {s s' : Stdin} {rv : Int} (h : stdin_recv s = .ok (rv, s'))
    (hoff : s.sk.events.EPOLLIN = false) (hflush : s'.sk.close_on_write = false) :
    s'.sk.events.EPOLLIN = false := by
  unfold stdin_recv at h
  obtain ⟨-, -, h⟩ := Except.bind_eq_ok_iff.mp h
  split at h
  · cases h
    exact hoff
  obtain ⟨⟨rv2, frames, s2⟩, hloop, h⟩ := Except.bind_eq_ok_iff.mp h
  cases h
  obtain ⟨recvbuf, hsk⟩ := stdin_decode_loop_sk hloop
  simp only [stdin_recv_leave, ite_turn_on, ite_turn_off, hsk] at hflush ⊢
  simp only [hflush, Bool.false_eq_true, and_false, false_and, if_false, or_false]
  split
  · simp [EpollEvents.diff, hoff]
  · exact hoff

end Wscat

/-- Where EPOLLIN is off before a call which decodes a frame, and the socket is not
    being closed after it, EPOLLIN is on after the call in two of the loops only. -/
theorem recv_call_resumes {loop : RecvLoop} {sk sk' : Sk} (h : RecvCall loop sk sk')
    (hoff : sk.events.EPOLLIN = false) (hclose : sk'.close = false) (hflush : sk'.close_on_write = false) :
    sk'.events.EPOLLIN = true ↔ Resumes loop sk := by
  cases h with
  | ws_recv hwf hclient hup hrecv henter hopen hfirst hclient' =>
    have hoff' := ws_recv_off hwf hclient hup hrecv hclient' hoff hflush henter hopen
    exact iff_of_false (by simp [hoff']) (by simp [Resumes])
  | pp2_recv hwf hpp hok hrecv hfirst hpp' =>
    have hevents := pp2_recv_events hwf hpp hok hrecv hfirst hpp'
    by_cases hempty : sk.events = {}
    · rw [if_pos hempty] at hevents
      exact iff_of_true (by simp [hevents, EpollEvents.union, EPOLLIN]) (Or.inr ⟨rfl, hempty⟩)
    · rw [if_neg hempty] at hevents
      exact iff_of_false (by simp [hevents, hoff]) (by simp [Resumes, hempty])
  | wssk_ws_recv hrecv hfirst => exact iff_of_true (wssk_ws_recv_on hrecv hfirst hclose hflush) (Or.inl rfl)
  | stdin_recv hrecv hfirst =>
    exact iff_of_false (by simp [stdin_recv_off hrecv hoff hflush]) (by simp [Resumes])

namespace Sample

/-- The websocket socket of wscat with a pong frame to decode and EPOLLIN off. -/
def wssk_pong : Wssk where
  sk := turn_off_events { sk_init 3 0 with recvbuf := Skb.ofBytes [0x8a, 0x00] } EPOLLIN
  stdout := { printed := [], broken := false }
  wsd_errno := .WSD_CHECKERRNO

end Sample

/-- The websocket socket's EPOLLIN is on again after the pong frame. -/
theorem recv_call_resumes_pong : ∃ sk', RecvCall .wssk_ws_recv Sample.wssk_pong.sk sk' ∧
    (sk'.events.EPOLLIN = true ↔ Resumes .wssk_ws_recv Sample.wssk_pong.sk) := by
  obtain ⟨⟨rv, w'⟩, hrecv, hclose, hflush⟩ := Except.exists_ok (x := wssk_ws_recv false Sample.wssk_pong)
    (P := fun r => r.2.sk.close = false ∧ r.2.sk.close_on_write = false) (by decide +kernel)
  obtain ⟨w1, hfirst⟩ := Except.exists_ok_fst (a := 0) (x := wssk_ws_decode_frame false Sample.wssk_pong)
    (by decide +kernel)
  exact ⟨w'.sk, .wssk_ws_recv hrecv hfirst, recv_call_resumes (.wssk_ws_recv hrecv hfirst) rfl hclose hflush⟩

namespace Sample

/-- A binary frame of a million bytes. -/
def large : Frame where
  byte1 := 0x82
  form := .len64
  payload := List.replicate 1000000 0
  rsv := by decide
  fits := by
    rw [List.length_replicate]
    decide

/-- The large frame, and the first bytes of another: as many bytes as a buffer holds. -/
def fill : List UInt8 :=
  large.masked 0 ++ (maskedHeader 0x82 .len64 100000 0 ++ List.replicate 48548 0)

theorem length_fill : fill.length = SKB_SIZE := by
  have hpayload : large.payload.length = 1000000 := List.length_replicate
  have hext : LenForm.extLen .len64 = 8 := rfl
  rw [fill, List.length_append, List.length_append, Frame.length_masked, length_maskedHeader, List.length_replicate,
    hpayload]
  rfl

/-- A client in websocket mode whose receive buffer is full. -/
def full_client : Sk :=
  { sk_init 5 7 with
    recvbuf := Skb.ofBytes fill
    ops := { recv := some .ws_recv, close := some .sk_close }
    proto := {
      decode_handshake := some .ws_decode_handshake
      decode_frame := some .ws_decode_frame
      encode_frame := some .ws_encode_frame
      ping := some .ws_ping
      pong := some .ws_pong
      start_closing_handshake := some .ws_start_closing_handshake } }

def backend : Sk :=
  { sk_init 6 0xffffffffffffffff with
    ops := { recv := some .pp2_recv, close := some .pp2_close }
    proto := {
      decode_frame := some .pp2_decode_frame
      encode_frame := some .pp2_encode_frame
      ping := some .pp2_nop } }

/-- The client after a read event, and the backend. -/
def full_world : World :=
  { World.init with
    clients := Function.update (fun _ => none) 0 (some (turn_off_events full_client EPOLLIN))
    pp2sk := some (1, backend)
    next := 2 }

theorem full_world_wf : full_world.Wf where
  client id sk h := by
    by_cases hid : id = 0
    · subst hid
      cases h
      exact ⟨.ws rfl rfl, by decide⟩
    · simp only [full_world, Function.update_of_ne hid] at h
      cases h
  backend p sk h := by
    cases h
    exact ⟨⟨rfl, rfl⟩, by decide, rfl⟩

/-- The client's frame goes to the backend, and the loop stops at the part of the
    next one. -/
theorem full_client_decode : ∃ c1 c2, ws_decode_frame
      { sk := turn_off_events full_client EPOLLIN, pp2sk := backend, wsd_errno := .WSD_CHECKERRNO } = .ok (0, c1) ∧
    ws_decode_frame c1 = .ok (-1, c2) ∧ c2.sk.close = false ∧ c2.sk.close_on_write = false := by
  have hfill : fill.length ≤ SKB_SIZE := Nat.le_of_eq length_fill
  have hpayload : large.payload.length = 1000000 := List.length_replicate
  have hroom : skb_wrsz backend.sendbuf = SKB_SIZE := Skb.wrsz_zero
  obtain ⟨recvbuf, hdecode, hok, hrest, -⟩ := @ws_decode_frame_data
      { sk := turn_off_events full_client EPOLLIN, pp2sk := backend, wsd_errno := .WSD_CHECKERRNO } large 0 _
    (Skb.ok_ofBytes hfill) Skb.ok_zero rfl (by decide) (Skb.readable_ofBytes hfill)
    (by rw [hpayload, hroom]; decide)
  refine ⟨_, _, hdecode, @ws_decode_frame_payloadCut _ hok 0x82 .len64 100000 0
    (List.replicate 48548 0) (by decide) (by decide) hrest (by rw [List.length_replicate]; decide), rfl, rfl⟩

end Sample

/-- What a full receive buffer stops in the client's loop stays stopped. -/
theorem full_client_stays_off :
    ¬ ∀ (loop : RecvLoop) (full sk sk' : Sk) (read : ReadResult) (wsd_errno : Errno),
      sk_read read full wsd_errno = .ok (-1, sk, .WSD_EAGAIN) → RecvCall loop sk sk' →
      sk'.close = false → sk'.close_on_write = false → sk'.events.EPOLLIN = true := by
  intro h
  have hfill : Sample.fill.length ≤ SKB_SIZE := Nat.le_of_eq Sample.length_fill
  have hrdsz : skb_rdsz (turn_off_events Sample.full_client EPOLLIN).recvbuf = SKB_SIZE :=
    (Skb.rdsz_ofBytes hfill).trans Sample.length_fill
  have hwrsz : skb_wrsz Sample.full_client.recvbuf = 0 := by
    have hok : Sample.full_client.recvbuf.Ok := Skb.ok_ofBytes hfill
    have hpos := (Skb.rdsz_ofBytes hfill).symm.trans hok.rdsz_eq
    rw [hok.wrsz_eq]
    rw [Sample.length_fill] at hpos
    omega
  have hread : sk_read .error Sample.full_client .WSD_CHECKERRNO =
      .ok (-1, turn_off_events Sample.full_client EPOLLIN, .WSD_EAGAIN) := by
    unfold sk_read
    rw [if_pos hwrsz]
    rfl
  obtain ⟨c1, c2, hfirst, hsecond, hclose, hflush⟩ := Sample.full_client_decode
  have hup : Upgraded (turn_off_events Sample.full_client EPOLLIN) := ⟨rfl, rfl, rfl, rfl, rfl⟩
  obtain ⟨hrecv, hframe, henter⟩ := @ws_recv_one Sample.full_world 0 _ Sample.config [] 1 _ _ _ Sample.full_world_wf
      rfl rfl hup (by rw [hrdsz]; decide) hfirst hsecond
  obtain ⟨events, pp2events, hleave⟩ := ws_recv_leave_eq 1 c2
  have hcall : RecvCall .ws_recv (turn_off_events Sample.full_client EPOLLIN) (ws_recv_leave 1 c2).sk :=
    .ws_recv Sample.full_world_wf rfl hup hrecv henter (by decide) hframe (by simp [World.setConn])
  have hflush' : (ws_recv_leave 1 c2).sk.close_on_write = false := by rw [hleave]; exact hflush
  have hon := h .ws_recv _ _ _ .error .WSD_CHECKERRNO hread hcall (by rw [hleave]; exact hclose) hflush'
  have hoff := ws_recv_off Sample.full_world_wf rfl hup hrecv (by simp [World.setConn]) rfl hflush' henter (by decide)
  rw [hoff] at hon
  cases hon

end wsd
