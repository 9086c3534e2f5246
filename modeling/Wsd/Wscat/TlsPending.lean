import Wsd.Wscat.TlsEvent

namespace wsd

open Transition

/-- No event of a socket is turned off. -/
def Widens (sk sk' : Sk) : Prop :=
  (sk.events.EPOLLIN = true → sk'.events.EPOLLIN = true) ∧ (sk.events.EPOLLOUT = true → sk'.events.EPOLLOUT = true)

namespace Widens

variable {sk sk1 sk' : Sk}

theorem of_eq (h : sk'.events = sk.events) : Widens sk sk' := by
  unfold Widens
  rw [h]
  exact ⟨id, id⟩

theorem trans (h : Widens sk sk1) (h' : Widens sk1 sk') : Widens sk sk' :=
  ⟨fun hin => h'.1 (h.1 hin), fun hout => h'.2 (h.2 hout)⟩

theorem of_union {events : EpollEvents} (h : sk'.events = sk.events.union events) : Widens sk sk' := by
  unfold Widens
  rw [h]
  exact ⟨fun hin => by simp [EpollEvents.union, hin], fun hout => by simp [EpollEvents.union, hout]⟩

end Widens

section Recv

variable {no_handshake : Bool} {w w' : Wssk} {rv : Int}

theorem wssk_ws_decode_opcode_widens {byte1 : UInt8} {len : Nat}
    (h : wssk_ws_decode_opcode no_handshake w byte1 len = .ok (rv, w')) : Widens w.sk w'.sk := by
  unfold wssk_ws_decode_opcode at h
  by_cases hdata : IsData (OPCODE byte1)
  · rw [if_pos hdata] at h
    generalize skb_print w.stdout w.sk.recvbuf len w.wsd_errno = printed at h
    obtain ⟨_, -, hret⟩ := Except.bind_eq_ok_iff.mp h
    cases hret
    exact .of_eq rfl
  rw [if_neg hdata] at h
  by_cases hclose : OPCODE byte1 = WS_CLOSE_FRAME
  · rw [if_pos hclose] at h
    cases no_handshake with
    | true =>
      cases h
      exact .of_eq rfl
    | false =>
      obtain ⟨⟨rv1, sk, e⟩, hfinish, hret⟩ := Except.bind_eq_ok_iff.mp h
      cases hret
      obtain ⟨recvbuf, ⟨-, -, -, rfl⟩ | ⟨-, -, -, status, sendbuf, -, rfl⟩ | ⟨-, -, -, rfl⟩⟩ :=
        ws_finish_closing_handshake_inv hfinish <;> exact .of_eq rfl
  rw [if_neg hclose] at h
  by_cases hping : OPCODE byte1 = WS_PING_FRAME
  · rw [if_pos hping] at h
    obtain ⟨⟨rv1, sk, e⟩, hpong, hret⟩ := Except.bind_eq_ok_iff.mp h
    cases hret
    have hcompact : Widens w.sk (w.setRecvbuf (skb_compact w.sk.recvbuf)).sk := .of_eq rfl
    apply hcompact.trans
    cases hfn : (w.setRecvbuf (skb_compact w.sk.recvbuf)).sk.proto.pong with
    | none =>
      rw [hfn] at hpong
      cases hpong
    | some fn =>
      rw [hfn] at hpong
      cases fn
      obtain ⟨-, ⟨-, -, sendbuf, rfl, -⟩ | ⟨-, -, rfl⟩⟩ := put_ping_pong_inv hpong
      · exact .of_union rfl
      · exact .of_eq rfl
  rw [if_neg hping] at h
  split at h
  · cases h
    exact .of_eq rfl
  · cases h
    exact .of_eq rfl

theorem wssk_ws_decode_frame_widens (h : wssk_ws_decode_frame no_handshake w = .ok (rv, w')) : Widens w.sk w'.sk := by
  unfold wssk_ws_decode_frame at h
  split at h
  · cases h
    exact .of_eq rfl
  generalize skb_get_char w.sk.recvbuf = first at h
  obtain ⟨byte1, b1⟩ := first
  simp only at h
  generalize skb_get_char b1 = second at h
  obtain ⟨byte2, b2⟩ := second
  simp only at h
  split at h
  · cases h
    exact .of_eq rfl
  generalize ws_decode_payload_len b2 byte2 w.wsd_errno = decoded at h
  obtain ⟨len, b3, e⟩ := decoded
  simp only at h
  split at h
  · cases h
    exact .of_eq rfl
  split at h
  · cases h
    exact .of_eq rfl
  split at h
  · cases h
    exact .of_eq rfl
  obtain ⟨_, -, h⟩ := Except.bind_eq_ok_iff.mp h
  exact (wssk_ws_decode_opcode_widens h).trans (.of_eq rfl)

theorem wssk_decode_loop_widens {fuel frames frames' : Nat}
    (h : wssk_decode_loop no_handshake fuel frames w = .ok (rv, frames', w')) : Widens w.sk w'.sk := by
  induction fuel generalizing frames w with
  | zero => cases h
  | succ fuel ih =>
    obtain ⟨⟨rv1, w1⟩, hframe, h⟩ := Except.bind_eq_ok_iff.mp h
    have hwidens := wssk_ws_decode_frame_widens hframe
    by_cases hrv : rv1 = 0
    · simp only [if_pos hrv] at h
      exact hwidens.trans (ih h)
    · simp only [if_neg hrv] at h
      cases h
      exact hwidens

/-- The end of the receive loop turns EPOLLIN off only on a socket which is to be closed. -/
theorem wssk_ws_recv_leave_events (frames : Nat) (sk : Sk) :
    (sk.events.EPOLLIN = true → (wssk_ws_recv_leave frames sk).events.EPOLLIN = true ∨
        (wssk_ws_recv_leave frames sk).close = true ∨ (wssk_ws_recv_leave frames sk).close_on_write = true) ∧
      (sk.events.EPOLLOUT = true → (wssk_ws_recv_leave frames sk).events.EPOLLOUT = true) := by
  have hoff {sk1 sk2 : Sk} (hsk : sk2 = if sk1.close ∨ sk1.close_on_write then turn_off_events sk1 EPOLLIN else sk1) :
      (sk1.events.EPOLLIN = true → sk2.events.EPOLLIN = true ∨ sk2.close = true ∨ sk2.close_on_write = true) ∧
        (sk1.events.EPOLLOUT = true → sk2.events.EPOLLOUT = true) := by
    subst hsk
    split
    · rename_i hclosing
      exact ⟨fun _ => .inr hclosing, fun hout => by simp [turn_off_events, EpollEvents.diff, EPOLLIN, hout]⟩
    · exact ⟨.inl, id⟩
  have hon (p : Prop) [Decidable p] (events : EpollEvents) (sk1 : Sk) :
      Widens sk1 (if p then turn_on_events sk1 events else sk1) := by
    split
    · exact .of_union rfl
    · exact .of_eq rfl
  have hwrites := hon (frames ≠ 0 ∧ 0 < skb_rdsz sk.sendbuf ∧ !sk.events.EPOLLOUT) EPOLLOUT sk
  obtain ⟨sk1, hsk1⟩ : ∃ sk1, sk1 = if frames ≠ 0 ∧ 0 < skb_rdsz sk.sendbuf ∧ !sk.events.EPOLLOUT then
    turn_on_events sk EPOLLOUT else sk := ⟨_, rfl⟩
  rw [← hsk1] at hwrites
  have hreads := hon (frames ≠ 0 ∧ !sk1.events.EPOLLIN ∧ !sk1.close_on_write) EPOLLIN sk1
  obtain ⟨hin, hout⟩ := @hoff _ (wssk_ws_recv_leave frames sk) (by rw [wssk_ws_recv_leave, ← hsk1])
  exact ⟨fun h => hin (hreads.1 (hwrites.1 h)), fun h => hout (hreads.2 (hwrites.2 h))⟩

theorem wssk_ws_recv_events (h : wssk_ws_recv no_handshake w = .ok (rv, w')) :
    (w.sk.events.EPOLLIN = true → w'.sk.events.EPOLLIN = true ∨ w'.sk.close = true ∨ w'.sk.close_on_write = true) ∧
      (w.sk.events.EPOLLOUT = true → w'.sk.events.EPOLLOUT = true) := by
  obtain ⟨_, -, h⟩ := Except.bind_eq_ok_iff.mp h
  obtain ⟨⟨rv1, frames, w1⟩, hloop, hret⟩ := Except.bind_eq_ok_iff.mp h
  obtain ⟨hin, hout⟩ := wssk_decode_loop_widens hloop
  obtain ⟨hin', hout'⟩ := wssk_ws_recv_leave_events frames w1.sk
  cases hret
  exact ⟨fun h => hin' (hin h), fun h => hout' (hout h)⟩

end Recv

namespace wscat

variable {opt : Options} {now : Timespec} {c c' : Wscat} {sk sk' : Sk}

/-- What the websocket's events are behind its handlers. -/
theorem post_read_events {rv : Int} (hwssk : c.wssk = some sk) (h : wscat.post_read opt c sk = .ok (rv, c'))
    (hwssk' : c'.wssk = some sk') :
    (sk.events.EPOLLIN = true → sk'.events.EPOLLIN = true ∨ sk'.close = true ∨ sk'.close_on_write = true) ∧
      (sk.events.EPOLLOUT = true → sk'.events.EPOLLOUT = true) := by
  obtain ⟨-, rfl, -⟩ | ⟨-, hhttp⟩ | ⟨-, w, hws, rfl⟩ := post_read_inv h
  · cases hwssk.symm.trans hwssk'
    exact ⟨.inl, id⟩
  · obtain ⟨-, rfl⟩ | ⟨prev, ⟨-, rfl⟩ | ⟨e, -, -, rfl⟩⟩ := wssk_http_recv_inv hhttp
    · cases hwssk.symm.trans hwssk'
      exact ⟨.inl, id⟩
    · cases hwssk'
      exact ⟨.inl, id⟩
    · cases hwssk'
      exact ⟨.inl, id⟩
  · cases hwssk'
    exact wssk_ws_recv_events hws

/-- What `on_iteration` leaves of the rest of the program's memory, as long as no input is to be repeated. -/
theorem on_iteration_frame (harmed : c.repeat_last_armed = false) (h : on_iteration opt now c = .ok c') :
    c'.recv = c.recv ∧ c'.fdin = c.fdin ∧ c'.repeat_last_armed = false ∧
      (c'.wsd_errno = c.wsd_errno ∨ c'.wsd_errno = .WSD_ENOMEM) := by
  have hstart {c1 c2 : Wscat} (hclose : wssk_ws_start_closing_handshake c1 = .ok c2) :
      c2.recv = c1.recv ∧ c2.fdin = c1.fdin ∧ c2.repeat_last_armed = c1.repeat_last_armed ∧
        (c2.wsd_errno = c1.wsd_errno ∨ c2.wsd_errno = .WSD_ENOMEM) := by
    obtain ⟨sk, rv, sk', e, -, hcall, rfl⟩ := wssk_ws_start_closing_handshake_inv hclose
    refine ⟨rfl, rfl, rfl, ?_⟩
    cases hfn : sk.proto.start_closing_handshake with
    | none =>
      rw [hfn] at hcall
      cases hcall
    | some fn =>
      rw [hfn] at hcall
      cases fn
      obtain ⟨-, ⟨-, he, -⟩ | ⟨-, he, -⟩⟩ := ws_start_closing_handshake_inv hcall
      · exact .inl he
      · exact .inr he
  obtain ⟨c1, c2, hping, hidle, hrepeat⟩ := on_iteration_inv h
  have hpinged : c1.recv = c.recv ∧ c1.fdin = c.fdin ∧ c1.repeat_last_armed = c.repeat_last_armed ∧
      (c1.wsd_errno = c.wsd_errno ∨ c1.wsd_errno = .WSD_ENOMEM) := by
    obtain ⟨sk, -, ⟨-, hping⟩ | ⟨-, rfl⟩⟩ := ping_timeout_inv hping
    · obtain ⟨sk, -, rfl | ⟨rv, sk', e, hput, rfl⟩⟩ := wssk_ws_ping_inv hping
      · exact ⟨rfl, rfl, rfl, .inl rfl⟩
      · obtain ⟨-, ⟨-, he, -⟩ | ⟨-, he, -⟩⟩ := put_ping_pong_inv hput
        · exact ⟨rfl, rfl, rfl, .inl he⟩
        · exact ⟨rfl, rfl, rfl, .inr he⟩
    · exact ⟨rfl, rfl, rfl, .inl rfl⟩
  obtain ⟨hrecv1, hfdin1, harmed1, herrno1⟩ := hpinged
  have hidled : c2.recv = c1.recv ∧ c2.fdin = c1.fdin ∧ c2.repeat_last_armed = c1.repeat_last_armed ∧
      (c2.wsd_errno = c1.wsd_errno ∨ c2.wsd_errno = .WSD_ENOMEM) := by
    obtain ⟨sk, -, ⟨-, -, hclose⟩ | rfl⟩ := idle_timeout_inv hidle
    · exact hstart hclose
    · exact ⟨rfl, rfl, rfl, .inl rfl⟩
  obtain ⟨hrecv2, hfdin2, harmed2, herrno2⟩ := hidled
  have hdisarmed : c2.repeat_last_armed = false := harmed2.trans (harmed1.trans harmed)
  have hsame : c' = c2 := by
    unfold try_repeating_last at hrepeat
    rw [hdisarmed, if_pos (by decide)] at hrepeat
    cases hrepeat
    rfl
  subst hsame
  refine ⟨hrecv2.trans hrecv1, hfdin2.trans hfdin1, hdisarmed, ?_⟩
  obtain herrno2 | herrno2 := herrno2
  · rw [herrno2]
    exact herrno1
  · exact .inr herrno2

namespace tls

section Waiting

variable {cfg : RequestConfig} {env : Env} {t t' : State}

/-- No handshake has been completed yet. -/
structure Waiting (t : State) : Prop where
  ops : t.ops = .handshake
  recv : t.base.c.recv = .wssk_http_recv
  fdin : t.base.c.fdin = none
  armed : t.base.c.repeat_last_armed = false
  errno : t.base.c.wsd_errno ≠ .WSD_EAGAIN
  wssk : ∀ wssk, t.base.c.wssk = some wssk → skb_rdsz wssk.recvbuf = 0 ∧ wssk.close_on_write = false

/-- A step which completes a handshake. -/
def Completes (m : Move State Env) : Prop :=
  m.before.ops = .handshake ∧ m.after.ops = .transfer

instance (m : Move State Env) : Decidable (Completes m) :=
  inferInstanceAs (Decidable (_ ∧ _))

/-- Nothing has arrived for the handlers of the bytes. -/
theorem post_read_empty {rv : Int} (hempty : skb_rdsz sk.recvbuf = 0) (h : wscat.post_read opt c sk = .ok (rv, c')) :
    c' = c := by
  unfold wscat.post_read at h
  rw [if_pos hempty] at h
  cases h
  rfl

/-- An event on a connection whose handshake is pending. -/
theorem OnEvent.waiting {events : EpollEvents} {ops' : TlsOps} {sk : Sk}
    (h : OnEvent opt cfg env now c .handshake events c' ops') (hget : c.wssk = some sk)
    (hempty : skb_rdsz sk.recvbuf = 0) :
    ops' = .transfer ∨ ops' = .handshake ∧ c'.recv = c.recv ∧ c'.fdin = c.fdin ∧
      c'.repeat_last_armed = c.repeat_last_armed ∧ c'.wsd_errno = c.wsd_errno ∧
      ∀ sk', c'.wssk = some sk' → ∃ events ts_last_io, sk' = { sk with events, ts_last_io } := by
  cases h with
  | failed sk1 rv sk2 _ e hevents hget1 hcall =>
    obtain ⟨rfl, hssl⟩ := ops_read_handshake hcall
    obtain hops | ⟨hops, -⟩ := wssk_tls_handshake_cases hssl
    · exact .inl hops
    · exact .inr ⟨hops, rfl, rfl, rfl, rfl, fun _ h => nomatch h⟩
  | received sk1 rv rv1 sk2 _ e c1 c' hevents hget1 hwrite hclose hcall hrv hrecv hleft =>
    cases hget.symm.trans hget1
    obtain ⟨rfl, hssl⟩ := ops_read_handshake hcall
    obtain hops | ⟨hops, err, events', -, rfl, -⟩ := wssk_tls_handshake_cases hssl
    · exact .inl hops
    · have hsame := post_read_empty (by exact hempty) hrecv
      subst hsame
      obtain rfl | ⟨rfl, -⟩ := hleft
      · exact .inr ⟨hops, rfl, rfl, rfl, rfl, fun _ h => nomatch h⟩
      · refine .inr ⟨hops, rfl, rfl, rfl, rfl, fun sk' hsk' => ?_⟩
        cases hsk'
        exact ⟨events', now, rfl⟩
  | write sk1 rv sk2 _ e c' hevents hout hget1 hcall hleft =>
    cases hget.symm.trans hget1
    obtain ⟨rfl, hssl⟩ := ops_write_handshake hcall
    obtain hops | ⟨hops, err, events', -, rfl, -⟩ := wssk_tls_handshake_cases hssl
    · exact .inl hops
    · obtain rfl | ⟨rfl, -⟩ := hleft
      · exact .inr ⟨hops, rfl, rfl, rfl, rfl, fun _ h => nomatch h⟩
      · refine .inr ⟨hops, rfl, rfl, rfl, rfl, fun sk' hsk' => ?_⟩
        cases hsk'
        exact ⟨events', now, rfl⟩
  | other sk1 c' hevents hout hget1 hleft =>
    cases hget.symm.trans hget1
    obtain rfl | rfl := hleft
    · exact .inr ⟨rfl, rfl, rfl, rfl, rfl, fun _ h => nomatch h⟩
    · refine .inr ⟨rfl, rfl, rfl, rfl, rfl, fun sk' hsk' => ?_⟩
      cases hget.symm.trans hsk'
      exact ⟨sk.events, sk.ts_last_io, rfl⟩

/-- A step completes the handshake, or the program goes on waiting for it. -/
theorem Waiting.next (h : Waiting t) (hstep : step opt cfg env t = .ok t') :
    Completes ⟨t, env, t'⟩ ∨ Waiting t' := by
  cases step_inv hstep with
  | start sk sk1 rv ops1 hstarted hget hcall =>
    obtain hops | ⟨hops, err, events, -, rfl, -⟩ := wssk_tls_handshake_cases hcall
    · exact .inl ⟨h.ops, hops⟩
    · refine .inr ⟨hops, h.recv, h.fdin, h.armed, h.errno, fun wssk hwssk => ?_⟩
      cases hwssk
      exact h.wssk sk hget
  | on_event events todo c' ops' hstarted hpc hevent =>
    obtain ⟨sk, hget⟩ := hevent.exists
    obtain ⟨hempty, hopen⟩ := h.wssk sk hget
    rw [h.ops] at hevent
    obtain hops | ⟨hops, hrecv, hfdin, harmed, herrno, hwssk⟩ := hevent.waiting hget hempty
    · exact .inl ⟨h.ops, hops⟩
    · refine .inr ⟨hops, hrecv.trans h.recv, hfdin.trans h.fdin, harmed.trans h.armed, ?_, fun wssk' hwssk' => ?_⟩
      · exact fun hagain => h.errno (herrno.symm.trans hagain)
      · obtain ⟨events, ts_last_io, rfl⟩ := hwssk wssk' hwssk'
        exact ⟨hempty, hopen⟩
  | base s' hstarted hsource hplain =>
    have hstepped := wscat.step_inv hplain
    have hframe : s'.c.recv = t.base.c.recv ∧ s'.c.fdin = t.base.c.fdin ∧ s'.c.repeat_last_armed = false ∧
        (s'.c.wsd_errno = t.base.c.wsd_errno ∨ s'.c.wsd_errno = .WSD_ENOMEM) := by
      cases hstepped with
      | exit hpc hdone => exact ⟨rfl, rfl, h.armed, .inl rfl⟩
      | iteration c hpc hdone hc => exact on_iteration_frame h.armed hc
      | interrupted hpc => exact ⟨rfl, rfl, h.armed, .inl rfl⟩
      | waited events hpc hevents => exact ⟨rfl, rfl, h.armed, .inl rfl⟩
      | handled hpc => exact ⟨rfl, rfl, h.armed, .inl rfl⟩
      | on_event source events todo c hpc hevent =>
        cases source with
        | wssk =>
          rw [hpc] at hsource
          exact absurd rfl hsource
        | fdin =>
          have hopen : t.base.c.fdin.isSome = true := hevent.isSome
          rw [h.fdin] at hopen
          cases hopen
    obtain ⟨hrecv, hfdin, harmed, herrno⟩ := hframe
    refine .inr ⟨h.ops, hrecv.trans h.recv, hfdin.trans h.fdin, harmed, fun hagain => ?_, fun wssk' hwssk' => ?_⟩
    · obtain herrno | herrno := herrno
      · exact h.errno (herrno.symm.trans hagain)
      · cases herrno.symm.trans hagain
    · obtain ⟨wssk, hwssk, sendbuf, events, closing, rfl, -⟩ := (hstepped.aside hsource).wssk wssk' hwssk'
      exact h.wssk wssk hwssk

/-- Without a completed handshake the program waits for it. -/
theorem path_waiting {fd : Int} {broken : Bool} {P : State → Env → Prop} {path : List (Move State Env)}
    (h : (program opt cfg fd broken).Path P path t) :
    (t.started = false → path = []) ∧ ((∀ m ∈ path, ¬ Completes m) → Waiting t) := by
  refine h.invariant (I := fun path t => (t.started = false → path = []) ∧
    ((∀ m ∈ path, ¬ Completes m) → Waiting t)) ?_ ?_
  · refine ⟨fun _ => rfl, fun _ => ⟨rfl, rfl, rfl, rfl, nofun, fun wssk hwssk => ?_⟩⟩
    cases hwssk
    exact ⟨Skb.rdsz_zero, rfl⟩
  · rintro path t t' env - ⟨-, hwaiting⟩ - - hstep
    refine ⟨fun hstarted' => ?_, fun hnone => ?_⟩
    · cases step_inv hstep with
      | start sk sk1 rv ops1 hstarted hget hcall => cases hstarted'
      | on_event events todo c' ops' hstarted hpc hevent => cases hstarted.symm.trans hstarted'
      | base s' hstarted hsource hplain => cases hstarted.symm.trans hstarted'
    · rw [List.forall_mem_append, List.forall_mem_singleton] at hnone
      exact ((hwaiting hnone.1).next hstep).resolve_left hnone.2

end Waiting

/-- An event on the connection, in an iteration of its own. -/
def Connection.event (events : EpollEvents) (env : Env) : List Env :=
  [{}, { base := { events := some [(.wssk, events)] } }, env, {}]

end tls

end wscat

end wsd
