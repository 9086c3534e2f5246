import Wsd.Wschild.Ping
import Wsd.Wscat.Talk

namespace wsd

open Transition

/-- A socket is the one which it was, but for its buffers, its events and its closing flags, if it is open still. -/
def SameSocket (o o' : Option Sk) : Prop :=
  ∀ sk', o' = some sk' → ∃ sk, o = some sk ∧ sk'.core = sk.core

namespace SameSocket

variable {o o1 o' : Option Sk} {sk sk' : Sk}

theorem refl (o : Option Sk) : SameSocket o o :=
  fun sk' hsk' => ⟨sk', hsk', rfl⟩

theorem none (o : Option Sk) : SameSocket o none :=
  fun _ h => nomatch h

theorem some (h : sk'.core = sk.core) : SameSocket (some sk) (some sk') := by
  intro sk1 hsk1
  cases hsk1
  exact ⟨sk, rfl, h⟩

theorem trans (h : SameSocket o o1) (h' : SameSocket o1 o') : SameSocket o o' := by
  intro sk' hsk'
  obtain ⟨sk1, hsk1, hcore'⟩ := h' sk' hsk'
  obtain ⟨sk, hsk, hcore⟩ := h sk1 hsk1
  exact ⟨sk, hsk, hcore'.trans hcore⟩

end SameSocket

section Handlers

variable {s s' : Stdin} {w w' : Wssk} {sk sk' : Sk} {no_handshake : Bool} {rv : Int} {wsd_errno errno' : Errno}

theorem put_ping_pong_core {closing : Assertion} {opcode : UInt8} {do_mask : Bool}
    (h : put_ping_pong closing opcode sk do_mask wsd_errno = .ok (rv, sk', errno')) : sk'.core = sk.core := by
  obtain ⟨-, ⟨-, -, sendbuf, rfl, -⟩ | ⟨-, -, rfl⟩⟩ := put_ping_pong_inv h <;> rfl

theorem pong_core {fn : Option Pong} {do_mask : Bool} (h : pong fn sk do_mask wsd_errno = .ok (rv, sk', errno')) :
    sk'.core = sk.core := by
  cases fn with
  | none => cases h
  | some fn =>
    cases fn
    exact put_ping_pong_core h

theorem start_closing_handshake_core {fn : Option StartClosingHandshake} {status : Nat} {do_mask : Bool}
    (h : start_closing_handshake fn sk status do_mask wsd_errno = .ok (rv, sk', errno')) : sk'.core = sk.core := by
  cases fn with
  | none => cases h
  | some fn =>
    cases fn
    obtain ⟨-, ⟨-, -, sendbuf, rfl, -⟩ | ⟨-, -, rfl⟩⟩ := ws_start_closing_handshake_inv h <;> rfl

theorem wssk_ws_decode_opcode_core {byte1 : UInt8} {len : Nat}
    (h : wssk_ws_decode_opcode no_handshake w byte1 len = .ok (rv, w')) : w'.sk.core = w.sk.core := by
  unfold wssk_ws_decode_opcode at h
  by_cases hdata : IsData (OPCODE byte1)
  · rw [if_pos hdata] at h
    generalize skb_print w.stdout w.sk.recvbuf len w.wsd_errno = printed at h
    obtain ⟨_, -, hret⟩ := Except.bind_eq_ok_iff.mp h
    cases hret
    rfl
  rw [if_neg hdata] at h
  by_cases hclose : OPCODE byte1 = WS_CLOSE_FRAME
  · rw [if_pos hclose] at h
    cases no_handshake with
    | true =>
      cases h
      rfl
    | false =>
      obtain ⟨⟨rv1, sk, e⟩, hfinish, hret⟩ := Except.bind_eq_ok_iff.mp h
      cases hret
      obtain ⟨recvbuf, ⟨-, -, -, rfl⟩ | ⟨-, -, -, status, sendbuf, -, rfl⟩ | ⟨-, -, -, rfl⟩⟩ :=
        ws_finish_closing_handshake_inv hfinish <;> rfl
  rw [if_neg hclose] at h
  by_cases hping : OPCODE byte1 = WS_PING_FRAME
  · rw [if_pos hping] at h
    obtain ⟨⟨rv1, sk, e⟩, hpong, hret⟩ := Except.bind_eq_ok_iff.mp h
    cases hret
    exact (pong_core hpong).trans rfl
  rw [if_neg hping] at h
  split at h
  · cases h
    rfl
  · cases h
    rfl

theorem wssk_ws_decode_frame_core (h : wssk_ws_decode_frame no_handshake w = .ok (rv, w')) : w'.sk.core = w.sk.core := by
  unfold wssk_ws_decode_frame at h
  split at h
  · cases h
    rfl
  generalize skb_get_char w.sk.recvbuf = first at h
  obtain ⟨byte1, b1⟩ := first
  simp only at h
  generalize skb_get_char b1 = second at h
  obtain ⟨byte2, b2⟩ := second
  simp only at h
  split at h
  · cases h
    rfl
  generalize ws_decode_payload_len b2 byte2 w.wsd_errno = decoded at h
  obtain ⟨len, b3, e⟩ := decoded
  simp only at h
  split at h
  · cases h
    rfl
  split at h
  · cases h
    rfl
  split at h
  · cases h
    rfl
  obtain ⟨_, -, h⟩ := Except.bind_eq_ok_iff.mp h
  exact (wssk_ws_decode_opcode_core h).trans rfl

theorem wssk_decode_loop_core {fuel frames frames' : Nat}
    (h : wssk_decode_loop no_handshake fuel frames w = .ok (rv, frames', w')) : w'.sk.core = w.sk.core := by
  induction fuel generalizing frames w with
  | zero => cases h
  | succ fuel ih =>
    obtain ⟨⟨rv1, w1⟩, hframe, h⟩ := Except.bind_eq_ok_iff.mp h
    have hcore := wssk_ws_decode_frame_core hframe
    by_cases hrv : rv1 = 0
    · simp only [if_pos hrv] at h
      exact (ih h).trans hcore
    · simp only [if_neg hrv] at h
      cases h
      exact hcore

theorem wssk_ws_recv_core (h : wssk_ws_recv no_handshake w = .ok (rv, w')) : w'.sk.core = w.sk.core := by
  obtain ⟨_, -, h⟩ := Except.bind_eq_ok_iff.mp h
  obtain ⟨⟨rv1, frames, w1⟩, hloop, hret⟩ := Except.bind_eq_ok_iff.mp h
  cases hret
  obtain ⟨events, hleave⟩ := wssk_ws_recv_leave_same frames w1.sk
  rw [hleave]
  exact (wssk_decode_loop_core hloop).trans rfl

/-- The handlers of the standard input find the websocket open where they use it. -/
theorem stdin_decode_frame_same (h : stdin_decode_frame s = .ok (rv, s')) : SameSocket s.wssk s'.wssk := by
  cases hwssk : s.wssk with
  | some wssk =>
    obtain ⟨sendbuf, hwssk'⟩ := (stdin_decode_frame_kept h).wssk wssk hwssk
    rw [hwssk']
    exact .some rfl
  | none =>
    have hgone : s'.wssk = s.wssk := by
      unfold stdin_decode_frame at h
      split at h
      · cases h
        rfl
      split at h
      · cases h
        rfl
      · obtain ⟨s1, hsave, hencode⟩ := Except.bind_eq_ok_iff.mp h
        obtain ⟨last_input, rfl⟩ := save_last_input_inv hsave
        unfold wssk_ws_encode_frame at hencode
        simp only [hwssk] at hencode
        cases hencode
    rw [hgone, hwssk]
    exact .none _

theorem stdin_decode_loop_same {fuel frames frames' : Nat}
    (h : stdin_decode_loop fuel frames s = .ok (rv, frames', s')) : SameSocket s.wssk s'.wssk := by
  induction fuel generalizing frames s with
  | zero => cases h
  | succ fuel ih =>
    obtain ⟨⟨rv1, s1⟩, hframe, h⟩ := Except.bind_eq_ok_iff.mp h
    have hsame := stdin_decode_frame_same hframe
    by_cases hrv : rv1 = 0
    · simp only [if_pos hrv] at h
      exact hsame.trans (ih h)
    · simp only [if_neg hrv] at h
      cases h
      exact hsame

theorem stdin_recv_leave_same (frames : Nat) (s : Stdin) : SameSocket s.wssk (stdin_recv_leave frames s).wssk := by
  change SameSocket s.wssk (if frames ≠ 0 then s.wssk.map _ else s.wssk)
  split
  · cases s.wssk with
    | none => exact .none _
    | some wssk =>
      refine .some ?_
      dsimp only
      split <;> rfl
  · exact .refl _

theorem stdin_recv_same (h : stdin_recv s = .ok (rv, s')) : SameSocket s.wssk s'.wssk := by
  unfold stdin_recv at h
  obtain ⟨_, -, h⟩ := Except.bind_eq_ok_iff.mp h
  split at h
  · cases h
    exact .refl _
  · obtain ⟨⟨rv1, frames, s1⟩, hloop, hret⟩ := Except.bind_eq_ok_iff.mp h
    cases hret
    exact (stdin_decode_loop_same hloop).trans (stdin_recv_leave_same frames s1)

theorem repeat_loop_same {fuel : Nat} (h : repeat_loop fuel s = .ok (rv, s')) : SameSocket s.wssk s'.wssk := by
  induction fuel generalizing s with
  | zero => cases h
  | succ fuel ih =>
    unfold repeat_loop at h
    split at h
    · cases h
      exact .refl _
    split at h
    · cases h
    split at h
    · cases h
      exact .refl _
    · obtain ⟨⟨rv1, s1⟩, hframe, h⟩ := Except.bind_eq_ok_iff.mp h
      obtain ⟨s2, hwssk, h⟩ : ∃ s2 : Stdin, s2.wssk = s1.wssk ∧ repeat_loop fuel s2 = .ok (rv, s') := by
        refine ⟨_, ?_, h⟩
        split <;> split <;> rfl
      have hrest := ih h
      rw [hwssk] at hrest
      exact (stdin_decode_frame_same hframe).trans hrest

end Handlers

namespace wscat

variable {opt : Options} {read : ReadResult} {write : WriteResult} {now : Timespec} {c c' : Wscat} {sk sk' : Sk}

theorem wssk_ws_ping_same (h : wssk_ws_ping c = .ok c') : SameSocket c.wssk c'.wssk := by
  obtain ⟨sk, hwssk, rfl | ⟨rv, sk', e, hput, rfl⟩⟩ := wssk_ws_ping_inv h
  · exact .refl _
  · rw [hwssk]
    exact .some (put_ping_pong_core hput)

theorem wssk_ws_start_closing_handshake_same (h : wssk_ws_start_closing_handshake c = .ok c') :
    SameSocket c.wssk c'.wssk := by
  obtain ⟨sk, rv, sk', e, hwssk, hstart, rfl⟩ := wssk_ws_start_closing_handshake_inv h
  rw [hwssk]
  exact .some (start_closing_handshake_core hstart)

theorem repeat_last_same (h : repeat_last opt c = .ok c') : SameSocket c.wssk c'.wssk := by
  unfold repeat_last at h
  split at h
  · cases h
  split at h
  · cases h
    exact .refl _
  · obtain ⟨⟨rv, s⟩, hloop, hret⟩ := Except.bind_eq_ok_iff.mp h
    cases hret
    exact repeat_loop_same hloop

theorem try_repeating_last_same (h : try_repeating_last opt c = .ok c') : SameSocket c.wssk c'.wssk := by
  have hleft {c1 c2 : Wscat} (hwssk : c2.wssk = c1.wssk)
      (h : (if c2.repeat_last_num = 0 ∧ opt.idle_timeout = -1 ∧ (!opt.no_handshake) = true then
        wssk_ws_start_closing_handshake c2 else pure c2) = .ok c') : SameSocket c1.wssk c'.wssk := by
    rw [← hwssk]
    split at h
    · exact wssk_ws_start_closing_handshake_same h
    · cases h
      exact .refl _
  unfold try_repeating_last at h
  split at h
  · cases h
    exact .refl _
  split at h
  · cases h
    exact .refl _
  split at h
  · cases h
    exact .refl _
  dsimp only at h
  split at h
  · obtain ⟨c1, hrepeat, h⟩ := Except.bind_eq_ok_iff.mp h
    exact (repeat_last_same hrepeat).trans (hleft (by split <;> rfl) h)
  · exact hleft (by split <;> rfl) h

theorem on_iteration_same_socket (h : on_iteration opt now c = .ok c') : SameSocket c.wssk c'.wssk := by
  obtain ⟨c1, c2, hping, hidle, hrepeat⟩ := on_iteration_inv h
  have hpinged : SameSocket c.wssk c1.wssk := by
    obtain ⟨sk, -, ⟨-, hping⟩ | ⟨-, rfl⟩⟩ := ping_timeout_inv hping
    · exact wssk_ws_ping_same hping
    · exact .refl _
  have hidled : SameSocket c1.wssk c2.wssk := by
    obtain ⟨sk, -, ⟨-, -, hclose⟩ | rfl⟩ := idle_timeout_inv hidle
    · exact wssk_ws_start_closing_handshake_same hclose
    · exact .refl _
  exact (hpinged.trans hidled).trans (try_repeating_last_same hrepeat)

theorem stdin_close_same (h : stdin_close opt c = .ok c') : SameSocket c.wssk c'.wssk := by
  unfold stdin_close at h
  dsimp only at h
  split at h
  · split at h
    · obtain ⟨c1, hclose, hret⟩ := Except.bind_eq_ok_iff.mp h
      cases hret
      have hsame := wssk_ws_start_closing_handshake_same hclose
      exact hsame
    · cases h
      exact .refl _
  split at h
  · obtain ⟨c1, hrepeat, hret⟩ := Except.bind_eq_ok_iff.mp h
    cases hret
    have hsame := repeat_last_same hrepeat
    exact hsame
  · cases h
    exact .refl _

theorem post_stdin_same {rv : Int} (h : wscat.post_stdin opt c sk = .ok (rv, c')) : SameSocket c.wssk c'.wssk := by
  obtain ⟨-, rfl, -⟩ | ⟨s, hstdin, rfl⟩ := post_stdin_inv h
  · exact .refl _
  · exact (stdin_recv_same hstdin).trans (.refl _)

theorem post_read_same {rv : Int} (hwssk : c.wssk = some sk) (h : wscat.post_read opt c sk = .ok (rv, c')) :
    SameSocket c.wssk c'.wssk := by
  rw [hwssk]
  obtain ⟨-, rfl, -⟩ | ⟨-, hhttp⟩ | ⟨-, w, hws, rfl⟩ := post_read_inv h
  · rw [hwssk]
    exact .refl _
  · obtain ⟨-, rfl⟩ | ⟨prev, ⟨-, rfl⟩ | ⟨e, -, -, rfl⟩⟩ := wssk_http_recv_inv hhttp
    · rw [hwssk]
      exact .refl _
    · exact .some rfl
    · exact .some rfl
  · exact .some (wssk_ws_recv_core hws)

/-- An event on the standard input is none on the websocket. -/
theorem OnEvent.fdin_same {events : EpollEvents} (h : OnEvent opt read write now c .fdin events c') :
    SameSocket c.wssk c'.wssk := by
  have hclosed {c1 : Wscat} (h : SameSocket c.wssk c1.wssk) (hclose : close opt c1 .fdin = .ok c') :
      SameSocket c.wssk c'.wssk := h.trans (stdin_close_same hclose)
  cases h with
  | read sk c' hevents hget hwrite hclose hread =>
    cases hread with
    | failed rv sk1 e c' hsk hrv herrno hleft => exact @hclosed (c.noted .fdin sk1 now e) (.refl _) hleft
    | refused rv rv1 sk1 e c1 c' hsk hrv hrecv hrefused hleft => exact hclosed (@post_stdin_same opt (c.noted .fdin sk1 now e) _ _ _ hrecv) hleft
    | received rv rv1 sk1 e c1 c' sk2 hsk hrv hrecv hrefused hget2 hleft =>
      have hsame : SameSocket c.wssk c1.wssk := @post_stdin_same opt (c.noted .fdin sk1 now e) _ _ _ hrecv
      split at hleft
      · exact hclosed hsame hleft
      · rwa [← hleft]
  | write sk rv sk1 e c' hevents hout hget hwrite hleft =>
    obtain hleft | rfl := hleft
    · exact @hclosed (c.noted .fdin sk1 now e) (.refl _) hleft
    · exact .refl _
  | hangup c' hevents hout hopen hleft => exact hclosed (.refl _) hleft
  | nothing hevents hout hopen => exact .refl _

/-- A read or write of the websocket which stays open sets the time of its last input or output. -/
theorem OnEvent.wssk_last_io {events : EpollEvents} (h : OnEvent opt read write now c .wssk events c')
    (hwssk' : c'.wssk = some sk') :
    sk'.ts_last_io = now ∨ ¬ Readable events ∧ events.EPOLLOUT = false ∧ c' = c := by
  cases h with
  | read sk c' hevents hget hwrite hclose hread =>
    cases hread with
    | failed rv sk1 e c' hsk hrv herrno hleft =>
      cases hleft
      cases hwssk'
    | refused rv rv1 sk1 e c1 c' hsk hrv hrecv hrefused hleft =>
      cases hleft
      cases hwssk'
    | received rv rv1 sk1 e c1 c' sk2 hsk hrv hrecv hrefused hget2 hleft =>
      split at hleft
      · cases hleft
        cases hwssk'
      · cases hleft
        have hsame := @post_read_same opt (c.noted .wssk sk1 now e) c' { sk1 with ts_last_io := now } rv1 rfl hrecv
        obtain ⟨sk2, hsk2, hcore⟩ := hsame sk' hwssk'
        cases hsk2
        exact .inl (congrArg Sk.Core.ts_last_io hcore)
  | write sk rv sk1 e c' hevents hout hget hwrite hleft =>
    obtain hleft | rfl := hleft
    · cases hleft
      cases hwssk'
    · cases hwssk'
      exact .inl rfl
  | hangup c' hevents hout hopen hleft =>
    cases hleft
    cases hwssk'
  | nothing hevents hout hopen => exact .inr ⟨hevents, hout, rfl⟩

section Timer

variable {env : Env} {s s' : State} {fd : Int} {request : List UInt8} {broken : Bool} {P : State → Env → Prop}

/-- A step keeps the time of the websocket's last input or output, or sets it to the present. -/
theorem Stepped.last_io (h : Stepped opt env s s') (hwssk' : s'.c.wssk = some sk') :
    (∃ sk, s.c.wssk = some sk ∧ sk'.ts_last_io = sk.ts_last_io) ∨ sk'.ts_last_io = s.now := by
  have hsame (hsame : SameSocket s.c.wssk s'.c.wssk) :
      (∃ sk, s.c.wssk = some sk ∧ sk'.ts_last_io = sk.ts_last_io) ∨ sk'.ts_last_io = s.now := by
    obtain ⟨sk, hwssk, hcore⟩ := hsame sk' hwssk'
    exact .inl ⟨sk, hwssk, congrArg Sk.Core.ts_last_io hcore⟩
  cases h with
  | exit hpc hdone => exact hsame (.refl _)
  | iteration c hpc hdone hc => exact hsame (on_iteration_same_socket hc)
  | interrupted hpc => exact hsame (.refl _)
  | waited events hpc hevents => exact hsame (.refl _)
  | handled hpc => exact hsame (.refl _)
  | on_event source events todo c hpc hevent =>
    cases source with
    | wssk =>
      obtain hnow | ⟨-, -, rfl⟩ := hevent.wssk_last_io hwssk'
      · exact .inr hnow
      · exact hsame (.refl _)
    | fdin => exact hsame hevent.fdin_same

/-- The clock of a run and the time which it has given the websocket. -/
structure State.Timed (s : State) : Prop where
  now : s.now.Normal
  wssk : ∀ sk, s.c.wssk = some sk → sk.ts_last_io.Shown s.now

/-- Only the start of an iteration reads the clock. -/
theorem Stepped.now_cases (h : Stepped opt env s s') :
    s'.now = s.now ∨ s.pc = .iteration ∧ s'.now = env.clock := by
  cases h with
  | iteration c hpc hdone hc => exact .inr ⟨hpc, rfl⟩
  | _ => exact .inl rfl

theorem Stepped.now_le (hvalid : env.Valid s) (h : Stepped opt env s s') : s.now.nanos ≤ s'.now.nanos :=
  nanos_le_of_read h.now_cases hvalid.1

theorem Stepped.timed (htimed : s.Timed) (hvalid : env.Valid s) (h : Stepped opt env s s') : s'.Timed := by
  have hle := h.now_le hvalid
  refine ⟨normal_of_read h.now_cases hvalid.1 htimed.now, fun sk' hwssk' => ?_⟩
  obtain ⟨sk, hwssk, hsame⟩ | hset := h.last_io hwssk'
  · rw [hsame]
    exact (htimed.wssk sk hwssk).later hle
  · rw [hset]
    exact htimed.now.shown.later hle

theorem reach_timed (h : (program opt fd request broken).Reach P s) : s.Timed := by
  refine h.invariant ⟨Timespec.normal_zero, fun sk hwssk => ?_⟩ ?_
  · cases hwssk
    exact Timespec.normal_zero.shown
  · intro s s' env htimed hvalid _ hs
    exact (step_inv hs).timed htimed hvalid

/-- A ping frame is put into the websocket's send buffer at the start of an iteration. -/
def Pings (opt : Options) (m : Move State Env) : Prop :=
  ∃ sk c events, m.before.pc = .iteration ∧ m.before.c.done = false ∧ m.before.c.wssk = some sk ∧
    ping_timeout opt m.input.clock m.before.c = .ok c ∧
    c.wssk = some { sk with sendbuf := skb_put sk.sendbuf (pingPongFrame WS_PING_FRAME true), events }

/-- An event is handled on which the websocket is read or written. -/
def HandlesIo (m : Move State Env) : Prop :=
  ∃ events todo, m.before.pc = .on_event ((.wssk, events) :: todo) ∧
    (Readable events ∨ events.EPOLLOUT = true)

/-- The websocket has had its last input or output at the given time or later, if it has had any. -/
def UsedSince (t : Int) (s : State) : Prop :=
  ∀ sk, s.c.wssk = some sk → sk.ts_last_io ≠ .zero → t ≤ sk.ts_last_io.nanos

theorem HandlesIo.last_io (hstep : step opt env s = .ok s') (h : HandlesIo ⟨s, env, s'⟩) (hwssk' : s'.c.wssk = some sk') :
    sk'.ts_last_io = s.now := by
  obtain ⟨events, todo, hpc, hio⟩ := h
  simp only at hpc
  unfold step at hstep
  simp only [hpc] at hstep
  obtain ⟨c, hevent, hret⟩ := Except.bind_eq_ok_iff.mp hstep
  cases hret
  obtain hnow | ⟨hread, hout, -⟩ := (on_epoll_event_inv hevent).wssk_last_io hwssk'
  · exact hnow
  · obtain hio | hio := hio
    · exact absurd hio hread
    · cases hout.symm.trans hio

/-- A websocket which is pinged has been found to be due. -/
theorem Pings.due (hstep : step opt env s = .ok s') (h : Pings opt ⟨s, env, s'⟩) :
    s.pc = .iteration ∧ s'.now = env.clock ∧ ∃ sk, s.c.wssk = some sk ∧
      wsd.check_timeout sk env.clock opt.ping_interval = true := by
  obtain ⟨sk, c, events, hpc, hdone, hwssk, hping, hwssk'⟩ := h
  simp only at hpc hdone hwssk hping
  unfold step at hstep
  simp only [hpc, hdone, Bool.false_eq_true, if_false] at hstep
  obtain ⟨c1, -, hret⟩ := Except.bind_eq_ok_iff.mp hstep
  cases hret
  refine ⟨hpc, rfl, sk, hwssk, ?_⟩
  obtain ⟨sk1, hwssk1, ⟨hdue, -⟩ | ⟨-, rfl⟩⟩ := ping_timeout_inv hping
  · cases hwssk.symm.trans hwssk1
    exact hdue
  · have hsame := congrArg Sk.sendbuf (Option.some.inj (hwssk'.symm.trans hwssk))
    exact absurd hsame (skb_put_ping_ne sk.sendbuf true)

/-- The timer of the pings is started by the websocket's input and output. -/
theorem ping_timer (opt : Options) (fd : Int) (request : List UInt8) (broken : Bool) (P : State → Env → Prop)
    (hint : opt.ping_interval < 2 ^ 31) :
    (program opt fd request broken).Timer P (fun s => s.now.nanos) UsedSince HandlesIo (Pings opt)
      (opt.ping_interval * 1000000) where
  mono _ hvalid _ hs := (step_inv hs).now_le hvalid
  keeps _ _ _ hs hle hsince sk' hwssk' hne := by
    obtain ⟨sk, hwssk, hsame⟩ | hset := (step_inv hs).last_io hwssk'
    · rw [hsame] at hne ⊢
      exact hsince sk hwssk hne
    · rw [hset]
      exact hle
  starts _ _ _ hs hle hstart sk' hwssk' _ := by
    rw [hstart.last_io hs hwssk']
    exact hle
  rings hreach hvalid _ hs hsince hring := by
    obtain ⟨hpc, hnow, sk, hwssk, hdue⟩ := hring.due hs
    obtain ⟨hclock, hnormal⟩ := hvalid.1 hpc
    have hshown := ((reach_timed hreach).wssk sk hwssk).later hclock
    rw [hnow]
    exact lt_of_check_timeout hshown hnormal hint (hsince sk hwssk) hdue

/-- What is enough for the websocket to be pinged at the given time. -/
def PingDue (opt : Options) (now : Timespec) (s : State) : Prop :=
  s.pc = .iteration ∧ s.c.done = false ∧ ∃ sk ∈ s.c.wssk, sk.proto.ping = some .ws_ping ∧
    wsd.check_timeout sk now opt.ping_interval = true ∧ sk.sendbuf.rdpos ≤ sk.sendbuf.wrpos ∧
    sk.sendbuf.wrpos + (pingPongFrame WS_PING_FRAME true).length ≤ SKB_SIZE

instance (opt : Options) (now : Timespec) (s : State) : Decidable (PingDue opt now s) :=
  inferInstanceAs (Decidable (_ ∧ _ ∧ ∃ sk ∈ s.c.wssk, _ ∧ _ ∧ _ ∧ _))

theorem PingDue.pings (h : PingDue opt env.clock s) : Pings opt ⟨s, env, s'⟩ := by
  obtain ⟨hpc, hdone, sk, hwssk, hproto, hdue, hrd, hwr⟩ := h
  have hclosing := (check_timeout_flags hdue).1
  have hping : ping_timeout opt env.clock s.c = .ok { s.c with wssk := some { sk with
      sendbuf := skb_put sk.sendbuf (pingPongFrame WS_PING_FRAME true)
      events := sk.events.union EPOLLOUT } } := by
    rw [ping_timeout, check_timeout_eq_ok_iff.mpr ⟨sk, hwssk, hdue⟩, Except.ok_bind, if_pos rfl, wssk_ws_ping]
    simp only [Option.mem_def.mp hwssk, hproto, ws_ping_eq s.c.wsd_errno hclosing hrd hwr, Except.ok_bind]
    rfl
  exact ⟨sk, _, sk.events.union EPOLLOUT, hpc, hdone, hwssk, hping, rfl⟩

end Timer

end wscat

end wsd
