import Wsd.Wscat.Ping

namespace wsd

/-- What others than its own handlers do to the websocket: bytes are put into its send buffer, events are
    turned on, and its closing may begin. -/
def Beside (sk sk' : Sk) : Prop :=
  ∃ sendbuf events closing, sk' = { sk with sendbuf, events, closing } ∧
    (sk.events.EPOLLIN = true → events.EPOLLIN = true) ∧ (sk.events.EPOLLOUT = true → events.EPOLLOUT = true)

theorem Beside.refl (sk : Sk) : Beside sk sk :=
  ⟨sk.sendbuf, sk.events, sk.closing, rfl, id, id⟩

theorem Beside.trans {sk sk1 sk' : Sk} (h : Beside sk sk1) (h' : Beside sk1 sk') : Beside sk sk' := by
  obtain ⟨sendbuf, events, closing, rfl, hin, hout⟩ := h
  obtain ⟨sendbuf', events', closing', rfl, hin', hout'⟩ := h'
  exact ⟨sendbuf', events', closing', rfl, fun h => hin' (hin h), fun h => hout' (hout h)⟩

theorem Beside.turned_on {sk : Sk} {sendbuf : Skb} {closing : Bool} :
    Beside sk { sk with sendbuf, events := sk.events.union EPOLLOUT, closing } := by
  refine ⟨sendbuf, _, closing, rfl, fun hin => ?_, fun hout => ?_⟩
  · simp [EpollEvents.union, hin]
  · simp [EpollEvents.union, hout]

/-- The websocket is open as before, or has been closed. -/
def BesideOpen (o o' : Option Sk) : Prop :=
  ∀ sk', o' = some sk' → ∃ sk, o = some sk ∧ Beside sk sk'

namespace BesideOpen

variable {o o1 o' : Option Sk} {sk sk' : Sk}

theorem refl (o : Option Sk) : BesideOpen o o :=
  fun sk' hsk' => ⟨sk', hsk', .refl sk'⟩

theorem none (o : Option Sk) : BesideOpen o none :=
  fun _ h => nomatch h

theorem some (h : Beside sk sk') : BesideOpen (some sk) (some sk') := by
  intro sk1 hsk1
  cases hsk1
  exact ⟨sk, rfl, h⟩

theorem trans (h : BesideOpen o o1) (h' : BesideOpen o1 o') : BesideOpen o o' := by
  intro sk' hsk'
  obtain ⟨sk1, hsk1, hbeside'⟩ := h' sk' hsk'
  obtain ⟨sk, hsk, hbeside⟩ := h sk1 hsk1
  exact ⟨sk, hsk, hbeside.trans hbeside'⟩

end BesideOpen

section Handlers

variable {s s' : Stdin} {rv : Int}

theorem stdin_decode_frame_beside (h : stdin_decode_frame s = .ok (rv, s')) : BesideOpen s.wssk s'.wssk := by
  intro wssk' hwssk'
  obtain ⟨wssk, hwssk, -⟩ := stdin_decode_frame_same h wssk' hwssk'
  obtain ⟨sendbuf, hput⟩ := (stdin_decode_frame_kept h).wssk wssk hwssk
  cases hwssk'.symm.trans hput
  exact ⟨wssk, hwssk, sendbuf, wssk.events, wssk.closing, rfl, id, id⟩

theorem stdin_decode_loop_beside {fuel frames frames' : Nat}
    (h : stdin_decode_loop fuel frames s = .ok (rv, frames', s')) : BesideOpen s.wssk s'.wssk := by
  induction fuel generalizing frames s with
  | zero => cases h
  | succ fuel ih =>
    obtain ⟨⟨rv1, s1⟩, hframe, h⟩ := Except.bind_eq_ok_iff.mp h
    have hbeside := stdin_decode_frame_beside hframe
    by_cases hrv : rv1 = 0
    · simp only [if_pos hrv] at h
      exact hbeside.trans (ih h)
    · simp only [if_neg hrv] at h
      cases h
      exact hbeside

theorem stdin_recv_leave_beside (frames : Nat) (s : Stdin) : BesideOpen s.wssk (stdin_recv_leave frames s).wssk := by
  change BesideOpen s.wssk (if frames ≠ 0 then s.wssk.map _ else s.wssk)
  split
  · cases s.wssk with
    | none => exact .none _
    | some wssk =>
      refine .some ?_
      dsimp only
      rw [turn_on_out]
      exact .turned_on
  · exact .refl _

theorem stdin_recv_beside (h : stdin_recv s = .ok (rv, s')) : BesideOpen s.wssk s'.wssk := by
  unfold stdin_recv at h
  obtain ⟨_, -, h⟩ := Except.bind_eq_ok_iff.mp h
  split at h
  · cases h
    exact .refl _
  · obtain ⟨⟨rv1, frames, s1⟩, hloop, hret⟩ := Except.bind_eq_ok_iff.mp h
    cases hret
    exact (stdin_decode_loop_beside hloop).trans (stdin_recv_leave_beside frames s1)

theorem repeat_loop_beside {fuel : Nat} (h : repeat_loop fuel s = .ok (rv, s')) : BesideOpen s.wssk s'.wssk := by
  induction fuel generalizing s with
  | zero => cases h
  | succ fuel ih =>
    unfold repeat_loop at h
    split at h
    · cases h
      exact .refl _
    split at h
    · cases h
    split at h
    · cases h
      exact .refl _
    · obtain ⟨⟨rv1, s1⟩, hframe, h⟩ := Except.bind_eq_ok_iff.mp h
      obtain ⟨s2, hwssk, h⟩ : ∃ s2 : Stdin, s2.wssk = s1.wssk ∧ repeat_loop fuel s2 = .ok (rv, s') := by
        refine ⟨_, ?_, h⟩
        split <;> split <;> rfl
      have hrest := ih h
      rw [hwssk] at hrest
      exact (stdin_decode_frame_beside hframe).trans hrest

end Handlers

namespace wscat

/-- What others than the websocket's own handlers leave alone. -/
structure Aside (c c' : Wscat) : Prop where
  recv : c'.recv = c.recv
  stdout : c'.stdout = c.stdout
  wssk : BesideOpen c.wssk c'.wssk

variable {opt : Options} {read : ReadResult} {write : WriteResult} {now : Timespec} {c c1 c' : Wscat} {sk sk' : Sk}

theorem Aside.refl (c : Wscat) : Aside c c :=
  ⟨rfl, rfl, .refl _⟩

theorem Aside.trans (h : Aside c c1) (h' : Aside c1 c') : Aside c c' :=
  ⟨h'.recv.trans h.recv, h'.stdout.trans h.stdout, h.wssk.trans h'.wssk⟩

theorem Aside.setStdin {s : Stdin} (h : BesideOpen c.wssk s.wssk) : Aside c (c.setStdin s) :=
  ⟨rfl, rfl, h⟩

theorem wssk_ws_ping_aside (h : wssk_ws_ping c = .ok c') : Aside c c' := by
  obtain ⟨sk, hwssk, rfl | ⟨rv, sk', e, hput, rfl⟩⟩ := wssk_ws_ping_inv h
  · exact .refl _
  · refine ⟨rfl, rfl, ?_⟩
    rw [hwssk]
    apply BesideOpen.some
    obtain ⟨-, ⟨-, -, sendbuf, rfl, -⟩ | ⟨-, -, rfl⟩⟩ := put_ping_pong_inv hput
    · exact .turned_on
    · exact .refl _

theorem wssk_ws_start_closing_handshake_aside (h : wssk_ws_start_closing_handshake c = .ok c') : Aside c c' := by
  obtain ⟨sk, rv, sk', e, hwssk, hstart, rfl⟩ := wssk_ws_start_closing_handshake_inv h
  refine ⟨rfl, rfl, ?_⟩
  rw [hwssk]
  apply BesideOpen.some
  cases hfn : sk.proto.start_closing_handshake with
  | none =>
    rw [hfn] at hstart
    cases hstart
  | some fn =>
    rw [hfn] at hstart
    cases fn
    obtain ⟨-, ⟨-, -, sendbuf, rfl, -⟩ | ⟨-, -, rfl⟩⟩ := ws_start_closing_handshake_inv hstart
    · exact .turned_on
    · exact .refl _

theorem repeat_last_aside (h : repeat_last opt c = .ok c') : Aside c c' := by
  unfold repeat_last at h
  split at h
  · cases h
  split at h
  · cases h
    exact ⟨rfl, rfl, .refl _⟩
  · obtain ⟨⟨rv, s⟩, hloop, hret⟩ := Except.bind_eq_ok_iff.mp h
    cases hret
    exact .setStdin (repeat_loop_beside hloop)

theorem try_repeating_last_aside (h : try_repeating_last opt c = .ok c') : Aside c c' := by
  have hleft {c1 c2 : Wscat} (hdisarmed : Aside c1 c2)
      (h : (if c2.repeat_last_num = 0 ∧ opt.idle_timeout = -1 ∧ (!opt.no_handshake) = true then
        wssk_ws_start_closing_handshake c2 else pure c2) = .ok c') : Aside c1 c' := by
    split at h
    · exact hdisarmed.trans (wssk_ws_start_closing_handshake_aside h)
    · cases h
      exact hdisarmed
  have hdisarmed (c1 : Wscat) :
      Aside c1 (if c1.repeat_last_num = 0 then { c1 with repeat_last_armed := false } else c1) := by
    split
    · exact ⟨rfl, rfl, .refl _⟩
    · exact .refl _
  unfold try_repeating_last at h
  split at h
  · cases h
    exact .refl _
  split at h
  · cases h
    exact .refl _
  split at h
  · cases h
    exact .refl _
  dsimp only at h
  split at h
  · obtain ⟨c1, hrepeat, h⟩ := Except.bind_eq_ok_iff.mp h
    exact (repeat_last_aside hrepeat).trans (hleft (hdisarmed c1) h)
  · exact hleft (hdisarmed c) h

theorem on_iteration_aside (h : on_iteration opt now c = .ok c') : Aside c c' := by
  obtain ⟨c1, c2, hping, hnext, hrepeat⟩ := on_iteration_inv h
  have hpinged : Aside c c1 := by
    obtain ⟨sk, -, ⟨-, hping⟩ | ⟨-, rfl⟩⟩ := ping_timeout_inv hping
    · exact wssk_ws_ping_aside hping
    · exact .refl _
  have hnextd : Aside c1 c2 := by
    obtain ⟨sk, -, ⟨-, -, hclose⟩ | rfl⟩ := idle_timeout_inv hnext
    · exact wssk_ws_start_closing_handshake_aside hclose
    · exact .refl _
  exact (hpinged.trans hnextd).trans (try_repeating_last_aside hrepeat)

theorem stdin_close_aside (h : stdin_close opt c = .ok c') : Aside c c' := by
  have hfreed {c1 : Wscat} (h : Aside c c1) : Aside c { c1 with fdin := none } := ⟨h.recv, h.stdout, h.wssk⟩
  unfold stdin_close at h
  dsimp only at h
  split at h
  · split at h
    · obtain ⟨c1, hclose, hret⟩ := Except.bind_eq_ok_iff.mp h
      cases hret
      exact hfreed (wssk_ws_start_closing_handshake_aside hclose)
    · cases h
      exact hfreed (.refl _)
  split at h
  · obtain ⟨c1, hrepeat, hret⟩ := Except.bind_eq_ok_iff.mp h
    cases hret
    have harmed : Aside c { c with repeat_last_armed := true } := ⟨rfl, rfl, .refl _⟩
    exact hfreed (harmed.trans (repeat_last_aside hrepeat))
  · cases h
    exact hfreed (.refl _)

theorem post_stdin_aside {rv : Int} (h : wscat.post_stdin opt c sk = .ok (rv, c')) : Aside c c' := by
  obtain ⟨-, rfl, -⟩ | ⟨s, hstdin, rfl⟩ := post_stdin_inv h
  · exact .refl _
  · exact ⟨rfl, rfl, stdin_recv_beside hstdin⟩

theorem OnEvent.fdin_aside {events : EpollEvents} (h : OnEvent opt read write now c .fdin events c') : Aside c c' := by
  have hnoted (sk1 : Sk) (e : Errno) : Aside c (c.noted .fdin sk1 now e) := ⟨rfl, rfl, .refl _⟩
  have hclosed {c1 : Wscat} (h : Aside c c1) (hclose : close opt c1 .fdin = .ok c') : Aside c c' :=
    h.trans (stdin_close_aside hclose)
  cases h with
  | read sk c' hevents hget hwrite hclose hread =>
    cases hread with
    | failed rv sk1 e c' hsk hrv herrno hleft => exact hclosed (hnoted sk1 e) hleft
    | refused rv rv1 sk1 e c1 c' hsk hrv hrecv hrefused hleft =>
      exact hclosed ((hnoted sk1 e).trans (post_stdin_aside hrecv)) hleft
    | received rv rv1 sk1 e c1 c' sk2 hsk hrv hrecv hrefused hget2 hleft =>
      have haside : Aside c c1 := (hnoted sk1 e).trans (post_stdin_aside hrecv)
      split at hleft
      · exact hclosed haside hleft
      · rwa [← hleft]
  | write sk rv sk1 e c' hevents hout hget hwrite hleft =>
    obtain hleft | rfl := hleft
    · exact hclosed (hnoted sk1 e) hleft
    · exact hnoted sk1 e
  | hangup c' hevents hout hopen hleft => exact hclosed (.refl _) hleft
  | nothing hevents hout hopen => exact .refl _

/-- A step which handles an event on the websocket. -/
theorem Stepped.on_wssk {env : Env} {s s' : State} (h : Stepped opt env s s') (hsource : s.pc.source = some .wssk) :
    ∃ events todo, s.pc = .on_event ((.wssk, events) :: todo) ∧
      OnEvent opt env.read env.write s.now s.c .wssk events s'.c := by
  have hnext {pc : Pc} (hpc : s.pc = pc) : pc.source = some .wssk := by rwa [← hpc]
  cases h with
  | exit hpc hdone => cases hnext hpc
  | iteration c hpc hdone hc => cases hnext hpc
  | interrupted hpc => cases hnext hpc
  | waited events hpc hevents => cases hnext hpc
  | handled hpc => cases hnext hpc
  | on_event source events todo c hpc hevent =>
    cases hnext hpc
    exact ⟨events, todo, hpc, hevent⟩

/-- A step other than an event on the websocket. -/
theorem Stepped.aside {env : Env} {s s' : State} (h : Stepped opt env s s') (hsource : s.pc.source ≠ some .wssk) :
    Aside s.c s'.c := by
  cases h with
  | exit hpc hdone => exact .refl _
  | iteration c hpc hdone hc => exact on_iteration_aside hc
  | interrupted hpc => exact .refl _
  | waited events hpc hevents => exact .refl _
  | handled hpc => exact .refl _
  | on_event source events todo c hpc hevent =>
    cases source with
    | wssk =>
      rw [hpc] at hsource
      exact absurd rfl hsource
    | fdin => exact hevent.fdin_aside

end wscat

end wsd
