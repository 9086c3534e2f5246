import Wsd.Wschild.Multiplex
import Wsd.Wscat.Sound

namespace wsd

open Transition

/-- No frame is empty, so that a stream without bytes has none. -/
theorem maskedStream_eq_nil {frames : List (Frame × UInt32)} (h : maskedStream frames = []) : frames = [] := by
  cases frames with
  | nil => rfl
  | cons f frames =>
    have hlen := congrArg List.length h
    rw [maskedStream, Framing.stream_cons, List.length_append, Frame.length_masked] at hlen
    simp at hlen

/-- The control frames among them. -/
def controls (frames : List (Frame × UInt32)) : List (Frame × UInt32) :=
  frames.filter fun f => ¬ IsData f.1.opcode

namespace wscat

section Parts

variable {opt : Options} {now : Timespec} {c c' : Wscat}

/-- The input is about to be repeated in front of the events of an iteration. -/
def Repeats (c : Wscat) : Prop :=
  c.repeat_last_armed = true ∧ ∃ wssk ∈ c.wssk, wssk.closing = false

instance (c : Wscat) : Decidable (Repeats c) :=
  inferInstanceAs (Decidable (_ ∧ ∃ wssk ∈ c.wssk, _))

theorem ping_timeout_last (h : ping_timeout opt now c = .ok c') :
    c'.last_input = c.last_input ∧ c'.repeat_last_num = c.repeat_last_num := by
  obtain ⟨sk, -, ⟨-, h⟩ | ⟨-, rfl⟩⟩ := ping_timeout_inv h
  · obtain ⟨sk, -, rfl | ⟨rv, sk', e, -, rfl⟩⟩ := wssk_ws_ping_inv h
    · exact ⟨rfl, rfl⟩
    · exact ⟨rfl, rfl⟩
  · exact ⟨rfl, rfl⟩

theorem idle_timeout_last (h : idle_timeout opt now c = .ok c') :
    c'.last_input = c.last_input ∧ c'.repeat_last_num = c.repeat_last_num := by
  obtain ⟨sk, -, ⟨-, -, h⟩ | rfl⟩ := idle_timeout_inv h
  · obtain ⟨sk, rv, sk', e, -, -, rfl⟩ := wssk_ws_start_closing_handshake_inv h
    exact ⟨rfl, rfl⟩
  · exact ⟨rfl, rfl⟩

/-- Before the closing has begun the input is repeated in turn with what else is said. -/
theorem repeat_last_turns (hstored : Stored c) (hopen : ∀ wssk, c.wssk = some wssk → ¬ Begun wssk)
    (hnum : 0 < c.repeat_last_num) (hfits : RepeatContained opt c) (h : repeat_last opt c = .ok c') :
    Turns InTurn c c' := by
  obtain ⟨hrecv, hfdin, hkeeps, hlast, hfed⟩ := repeat_last_fed hstored hnum hfits h
  refine ⟨hrecv, hfdin, fun _ => hkeeps, hlast, fun wssk' hwssk' => ?_⟩
  obtain ⟨wssk, frames, hwssk, hframes⟩ := hfed wssk' hwssk'
  obtain ⟨hok, hsteady⟩ := hstored.wssk wssk hwssk
  exact ⟨wssk, frames, hwssk, (hframes.puts hok).1, hframes.steady hsteady, hframes.puts,
    (hframes.ordered (hopen wssk hwssk)).2⟩

/-- The end of `try_repeating_last`. -/
theorem finish_turns (hstored : Stored c)
    (h : (if c.repeat_last_num = 0 ∧ opt.idle_timeout = -1 ∧ (!opt.no_handshake) = true then
        wssk_ws_start_closing_handshake c else Except.ok c) = .ok c') : Turns InTurn c c' := by
  split at h
  · obtain ⟨htimes, hlast, hnum⟩ := start_turns (fun wssk hwssk => (hstored.wssk wssk hwssk).2) h
    exact htimes.turns hstored hlast hnum
  · cases h
    exact (Times.refl c).turns hstored rfl rfl

theorem try_repeating_turns (hstored : Stored c) (hfits : Repeats c → RepeatContained opt c)
    (h : try_repeating_last opt c = .ok c') : Turns InTurn c c' := by
  have hsame : Turns InTurn c c := (Times.refl c).turns hstored rfl rfl
  unfold try_repeating_last at h
  cases harmed : c.repeat_last_armed with
  | false =>
    rw [harmed, if_pos (by decide)] at h
    cases h
    exact hsame
  | true =>
    rw [harmed, if_neg (by decide)] at h
    cases hwssk : c.wssk with
    | none =>
      simp only [hwssk] at h
      cases h
      exact hsame
    | some wssk =>
      simp only [hwssk] at h
      cases hclosing : wssk.closing with
      | true =>
        rw [hclosing, if_pos rfl] at h
        cases h
        exact hsame
      | false =>
        rw [hclosing, if_neg (by decide)] at h
        have hopen : ∀ sk, c.wssk = some sk → ¬ Begun sk := by
          intro sk hsk
          cases hwssk.symm.trans hsk
          exact not_begun_of_steady (hstored.wssk wssk hwssk).2 hclosing
        have hrest {c1 : Wscat} (hturns : Turns InTurn c c1)
            (h1 : (let c2 : Wscat := if c1.repeat_last_num = 0 then { c1 with repeat_last_armed := false } else c1
              if c2.repeat_last_num = 0 ∧ opt.idle_timeout = -1 ∧ (!opt.no_handshake) = true then
                wssk_ws_start_closing_handshake c2 else Except.ok c2) = .ok c') : Turns InTurn c c' := by
          refine hturns.trans ?_
          have hstored1 := hturns.stored
          split at h1
          · have hdone := @finish_turns opt { c1 with repeat_last_armed := false } c'
              ⟨hstored1.1, hstored1.2, hstored1.3⟩ h1
            exact ⟨hdone.1, hdone.2, hdone.3, hdone.4, hdone.5⟩
          · exact finish_turns hstored1 h1
        split at h
        · rename_i hnum
          obtain ⟨c1, hrepeat, h1⟩ := Except.bind_eq_ok_iff.mp h
          refine hrest (repeat_last_turns hstored hopen hnum (hfits ⟨harmed, wssk, hwssk, hclosing⟩) hrepeat) ?_
          exact h1
        · exact hrest hsame h

/-- What the websocket says in front of the events of an iteration is in order. -/
theorem on_iteration_turns (hstored : Stored c)
    (hfits : ∀ c1, (ping_timeout opt now c >>= idle_timeout opt now) = .ok c1 → Repeats c1 → RepeatContained opt c1)
    (h : on_iteration opt now c = .ok c') : Turns InTurn c c' := by
  obtain ⟨c1, c2, hping, hidle, hrepeat⟩ := on_iteration_inv h
  obtain ⟨hlast1, hnum1⟩ := ping_timeout_last hping
  obtain ⟨hlast2, hnum2⟩ := idle_timeout_last hidle
  have hfirst := (ping_timeout_times hping).turns hstored hlast1 hnum1
  have hsecond := (idle_timeout_times hidle).turns hfirst.stored hlast2 hnum2
  refine (hfirst.trans hsecond).trans (try_repeating_turns hsecond.stored (hfits c2 ?_) hrepeat)
  rw [hping, Except.ok_bind, hidle]

end Parts

section Events

variable {opt : Options} {read : ReadResult} {write : WriteResult} {now : Timespec} {events : EpollEvents}
  {c c' : Wscat}

/-- What an event makes of the program, in which the websocket utters frames. -/
structure Handles (c c' : Wscat) : Prop where
  sound : Sound c'
  recv : c'.recv = c.recv
  utters : ∀ wssk', c'.wssk = some wssk' → ∃ wssk frames, c.wssk = some wssk ∧ Utters wssk frames wssk'

/-- Two states which differ in the standard input only. -/
structure BesideStdin (c c1 : Wscat) : Prop where
  wssk : c1.wssk = c.wssk
  recv : c1.recv = c.recv
  last : c1.last_input = c.last_input
  num : c1.repeat_last_num = c.repeat_last_num

theorem BesideStdin.stored {c1 : Wscat} (h : BesideStdin c c1) (hstored : Stored c) : Stored c1 := by
  refine ⟨?_, ?_, ?_⟩
  · rw [h.wssk]
    exact hstored.wssk
  · rw [h.last]
    exact hstored.last
  · rw [h.num, h.last]
    exact hstored.keeps

theorem BesideStdin.contained {c1 : Wscat} (h : BesideStdin c c1) (hfits : RepeatContained opt c) :
    RepeatContained opt c1 := by
  unfold RepeatContained repeat_fuel room lastInput at *
  rw [h.num, h.wssk, h.last]
  exact hfits

/-- The standard input is closed. -/
theorem Handles.closed {c1 : Wscat} (hstored : Stored c) (hbeside : BesideStdin c c1)
    (hfits : RepeatContained opt c) (h : stdin_close opt c1 = .ok c') : Handles c c' := by
  obtain ⟨c2, hturns, rfl⟩ := stdin_close_turns (hbeside.stored hstored) (hbeside.contained hfits) h
  have hstored2 := hturns.stored
  refine ⟨⟨⟨hstored2.1, hstored2.2, hstored2.3⟩, fun _ => rfl, fun sk hsk => ?_⟩, hturns.recv.trans hbeside.recv,
    fun wssk' hwssk' => ?_⟩
  · cases hsk
  · obtain ⟨wssk, frames, hwssk, -, -, hutters⟩ := hturns.utters wssk' hwssk'
    exact ⟨wssk, frames, hbeside.wssk.symm.trans hwssk, hutters⟩

/-- The standard input stays open, and nothing is said. -/
theorem Handles.waits {sk : Sk} (hstored : Stored c) (hbeside : BesideStdin c c') (hspeaking : c.recv ≠ .wssk_http_recv)
    (hfdin : c'.fdin = some sk) (hsk : sk.recvbuf.Ok ∧ sk.close = false ∧ sk.close_on_write = false) : Handles c c' := by
  refine ⟨⟨hbeside.stored hstored, fun hhttp => absurd (hbeside.recv.symm.trans hhttp) hspeaking, fun sk' hsk' => ?_⟩,
    hbeside.recv, fun wssk' hwssk' => ?_⟩
  · cases hfdin.symm.trans hsk'
    exact hsk
  · exact ⟨wssk', [], hbeside.wssk.symm.trans hwssk', .of_eq rfl, .inl (.of_flags rfl rfl rfl)⟩

theorem on_event_fdin_handles (hsound : Sound c) (hlen : ∀ sk, c.fdin = some sk → read.len ≤ skb_wrsz sk.recvbuf)
    (hfits : Readable events → ∀ sk wssk, c.fdin = some sk → c.wssk = some wssk →
      InputFits opt.is_json ((sk.recvbuf.readable ++ read.bytes).length + 1) (skb_wrsz wssk.sendbuf)
        (sk.recvbuf.readable ++ read.bytes))
    (hrepeat : c'.fdin = none → RepeatContained opt c) (h : OnEvent opt read write now c .fdin events c') :
    Handles c c' := by
  have hspeaking : c.recv ≠ .wssk_http_recv := by
    intro hhttp
    have hopen : c.fdin.isSome = true := h.isSome
    rw [hsound.http hhttp] at hopen
    cases hopen
  have hclosed (c1 : Wscat) (hbeside : BesideStdin c c1) (hclose : stdin_close opt c1 = .ok c') : Handles c c' := by
    refine .closed hsound.toStored hbeside (hrepeat ?_) hclose
    unfold stdin_close at hclose
    split at hclose
    · split at hclose
      · obtain ⟨c2, -, hret⟩ := Except.bind_eq_ok_iff.mp hclose
        cases hret
        rfl
      · cases hclose
        rfl
    split at hclose
    · obtain ⟨c2, -, hret⟩ := Except.bind_eq_ok_iff.mp hclose
      cases hret
      rfl
    · cases hclose
      rfl
  cases h with
  | read sk c' hevents hget hwrite hclose hread =>
    cases hread with
    | failed rv sk1 e c' hsk hrv herrno hleft => exact hclosed (c.noted .fdin sk1 now e) ⟨rfl, rfl, rfl, rfl⟩ hleft
    | refused rv rv1 sk1 e c1 c' hsk hrv hrecv hrefused hleft =>
      obtain ⟨hclose1, hwrite1, -⟩ := sk_read_flags hsk
      obtain ⟨hzero, -, -⟩ | ⟨s, hstdin, rfl⟩ := post_stdin_inv hrecv
      · exact absurd hrefused.1 (by rw [hzero]; decide)
      obtain ⟨-, hnone, rfl⟩ | ⟨hzero, -⟩ := stdin_recv_inv hstdin (hclose1.trans hclose) (hwrite1.trans hwrite)
      · exact hclosed (c.noted .fdin sk1 now e) ⟨rfl, rfl, rfl, rfl⟩ hleft
      · exact absurd hrefused.1 (by rw [hzero]; decide)
    | received rv rv1 sk1 e c1 c' sk2 hsk hrv hrecv hrefused hget2 hleft =>
      obtain ⟨hclose1, hwrite1, -⟩ := sk_read_flags hsk
      have hclose2 := hclose1.trans hclose
      have hwrite2 := hwrite1.trans hwrite
      obtain ⟨hok1, hread1⟩ := sk_read_bytes (hsound.fdin sk hget).1 (hlen sk hget) hsk hrv
      cases hwssk : c.wssk with
      | none =>
        -- Without the websocket the bytes stay where they are.
        have hstays {s : Stdin} (hs : s = (c.noted .fdin sk1 now e).stdin opt { sk1 with ts_last_io := now }) :
            Handles c { (c.noted .fdin sk1 now e).setStdin s with fdin := some s.sk } := by
          subst hs
          exact .waits hsound.toStored ⟨rfl, rfl, rfl, rfl⟩ hspeaking rfl ⟨hok1, hclose2, hwrite2⟩
        obtain ⟨-, rfl, -⟩ | ⟨s, hstdin, rfl⟩ := post_stdin_inv hrecv
        · cases hget2
          rw [if_neg (by simp [hclose2])] at hleft
          cases hleft
          exact .waits hsound.toStored ⟨rfl, rfl, rfl, rfl⟩ hspeaking rfl ⟨hok1, hclose2, hwrite2⟩
        obtain ⟨-, -, hs⟩ | ⟨-, hsome, -⟩ := stdin_recv_inv hstdin hclose2 hwrite2
        · cases hget2
          rw [if_neg (by simp [hs, Wscat.stdin, hclose2])] at hleft
          cases hleft
          exact hstays hs
        · have hsome' : c.wssk.isSome = true := hsome
          rw [hwssk] at hsome'
          cases hsome'
      | some wssk =>
        obtain ⟨hsend, hsteady⟩ := hsound.wssk wssk hwssk
        have hfits1 := hfits hevents sk wssk hget hwssk
        rw [← hread1] at hfits1
        obtain ⟨-, frames, hpumped⟩ := @post_stdin_pumped opt (c.noted .fdin sk1 now e) c1 { sk1 with ts_last_io := now }
          wssk rv1 rfl hwssk hok1 hsend hsound.keeps hclose2 hwrite2 hfits1 hrecv
        have hlast := @post_stdin_last opt (c.noted .fdin sk1 now e) c1 { sk1 with ts_last_io := now }
          wssk rv1 hwssk hok1 hsend hsound.keeps hsound.last hclose2 hwrite2 hfits1 hrecv
        obtain ⟨last_input, recvbuf, sendbuf, events, e', hkept, hrok, -, hsok, hread, -, rfl⟩ := hpumped.state
        cases hget2
        rw [if_neg (by simp [hclose2])] at hleft
        cases hleft
        have hfed : Fed wssk frames { wssk with sendbuf, events } :=
          ⟨⟨sendbuf, events, rfl⟩, fun _ => ⟨hsok, hread⟩, hpumped.text⟩
        refine ⟨⟨⟨fun wssk' hwssk' => ?_, hlast, fun hnum => hkept.trans (hsound.keeps hnum)⟩,
          fun hhttp => absurd hhttp hspeaking, fun sk' hsk' => ?_⟩, rfl, fun wssk' hwssk' => ?_⟩
        · cases hwssk'
          exact ⟨hsok, hfed.steady hsteady⟩
        · cases hsk'
          exact ⟨hrok, hclose2, hwrite2⟩
        · cases hwssk'
          exact ⟨wssk, frames, hwssk, hfed.utters⟩
  | write sk rv sk1 e c' hevents hout hget hwrite hleft =>
    obtain ⟨hclose1, hwrite1, -⟩ := sk_write_flags hwrite
    obtain ⟨hok, hclose, hopen⟩ := hsound.fdin sk hget
    obtain hleft | rfl := hleft
    · exact hclosed (c.noted .fdin sk1 now e) ⟨rfl, rfl, rfl, rfl⟩ hleft
    · have hwritten := sk_write_written write now sk c.wsd_errno
      rw [hwrite] at hwritten
      refine .waits hsound.toStored ⟨rfl, rfl, rfl, rfl⟩ hspeaking rfl ⟨?_, hclose1.trans hclose, hwrite1.trans hopen⟩
      rw [hwritten.recvbuf_eq]
      exact hok
  | hangup c' hevents hout hopen hleft => exact hclosed c ⟨rfl, rfl, rfl, rfl⟩ hleft
  | nothing hevents hout hopen =>
    obtain ⟨sk, hget⟩ := Option.isSome_iff_exists.mp hopen
    exact .waits hsound.toStored ⟨rfl, rfl, rfl, rfl⟩ hspeaking hget (hsound.fdin sk hget)

/-- The handlers of the websocket's bytes open the standard input or leave it alone, and leave the kept
    input alone. -/
theorem post_read_session {sk : Sk} {rv : Int} (h : wscat.post_read opt c sk = .ok (rv, c')) :
    SameSession c c' ∧ c'.last_input = c.last_input ∧ c'.repeat_last_num = c.repeat_last_num := by
  obtain ⟨-, rfl, -⟩ | ⟨hhttp, h⟩ | ⟨-, w, -, rfl⟩ := post_read_inv h
  · exact ⟨.inl ⟨rfl, rfl⟩, rfl, rfl⟩
  · obtain ⟨-, rfl⟩ | ⟨prev, ⟨-, rfl⟩ | ⟨e, -, -, rfl⟩⟩ := wssk_http_recv_inv h
    · exact ⟨.inl ⟨rfl, rfl⟩, rfl, rfl⟩
    · exact ⟨.inl ⟨rfl, rfl⟩, rfl, rfl⟩
    · exact ⟨.inr ⟨hhttp, rfl, rfl⟩, rfl, rfl⟩
  · exact ⟨.inl ⟨rfl, rfl⟩, rfl, rfl⟩

/-- An event on the websocket leaves the kept input alone. -/
theorem on_event_wssk_last (h : OnEvent opt read write now c .wssk events c') : c'.last_input = c.last_input := by
  cases h with
  | read sk c' hevents hget hwrite hclose hread =>
    cases hread with
    | failed rv sk1 e c' hsk hrv herrno hleft =>
      cases hleft
      rfl
    | refused rv rv1 sk1 e c1 c' hsk hrv hpost hrefused hleft =>
      cases hleft
      exact (post_read_session hpost).2.1
    | received rv rv1 sk1 e c1 c' sk2 hsk hrv hpost hrefused hget2 hleft =>
      split at hleft
      · cases hleft
        exact (post_read_session hpost).2.1
      · cases hleft
        exact (post_read_session hpost).2.1
  | write sk rv sk1 e c' hevents hout hget hwrite hleft =>
    obtain hleft | rfl := hleft
    · cases hleft
      rfl
    · rfl
  | hangup c' hevents hout hopen hleft =>
    cases hleft
    rfl
  | nothing hevents hout hopen => rfl

theorem SameSession.http (h : SameSession c c') (hhttp : c'.recv = .wssk_http_recv) : c.recv = .wssk_http_recv := by
  obtain ⟨hrecv, -⟩ | ⟨hrecv, -⟩ := h
  · exact hrecv.symm.trans hhttp
  · exact hrecv

/-- What the websocket's events do to the rest of the program's memory keeps it in order. -/
theorem Sound.session (hsound : Sound c) (hsession : SameSession c c') (hlast : c'.last_input = c.last_input)
    (hnum : c'.repeat_last_num = c.repeat_last_num)
    (hwssk : ∀ wssk', c'.wssk = some wssk' → wssk'.sendbuf.Ok ∧ Steady wssk') : Sound c' := by
  refine ⟨⟨hwssk, ?_, ?_⟩, fun hhttp => ?_, fun sk hsk => ?_⟩
  · rw [hlast]
    exact hsound.last
  · rw [hlast, hnum]
    exact hsound.keeps
  · obtain ⟨hrecv, hfdin⟩ | ⟨-, hrecv, -⟩ := hsession
    · exact hfdin.trans (hsound.http (hrecv.symm.trans hhttp))
    · rw [hrecv] at hhttp
      cases hhttp
  · obtain ⟨-, hfdin⟩ | ⟨-, -, hfdin⟩ := hsession
    · exact hsound.fdin sk (hfdin.symm.trans hsk)
    · cases hfdin.symm.trans hsk
      exact ⟨Skb.ok_zero, rfl, rfl⟩

/-- What an event on the websocket makes it say, or take from its send buffer. -/
structure Answers (c : Wscat) (events : EpollEvents) (write : WriteResult) (c' : Wscat) : Prop where
  sound : Sound c'
  session : c'.recv = .wssk_http_recv → c.recv = .wssk_http_recv
  said : ∀ wssk', c'.wssk = some wssk' → ∃ wssk said, c.wssk = some wssk ∧ Ordered wssk said wssk' ∧
    (c.recv = .wssk_http_recv → said = []) ∧
    (if ¬ Readable events ∧ events.EPOLLOUT = true then wssk.sendbuf.readable.take write.len else []) ++
      wssk'.sendbuf.readable = wssk.sendbuf.readable ++ maskedStream said

theorem on_event_wssk_answers (hsound : Sound c) (hlen : ∀ sk, c.wssk = some sk → write.len ≤ skb_rdsz sk.sendbuf)
    (h : OnEvent opt read write now c .wssk events c') : Answers c events write c' := by
  have hsession := on_event_wssk_session h
  obtain ⟨hnum, -, -⟩ := on_event_wssk h
  have hlast := on_event_wssk_last h
  have hone {wssk' : Sk} (hwssk' : c'.wssk = some wssk') : ∃ wssk said, c.wssk = some wssk ∧ wssk'.sendbuf.Ok ∧
      Steady wssk' ∧ Ordered wssk said wssk' ∧ (c.recv = .wssk_http_recv → said = []) ∧
      (if ¬ Readable events ∧ events.EPOLLOUT = true then wssk.sendbuf.readable.take write.len else []) ++
        wssk'.sendbuf.readable = wssk.sendbuf.readable ++ maskedStream said := by
    obtain ⟨sk, hsk, -, ⟨hkind, hreplies⟩ | ⟨hevents, hout, rv, sk1, e, hwrite, hsame⟩⟩ := on_event_wssk_replies h hwssk'
    · obtain ⟨⟨frames, hspeaks, hhttp⟩, hsteady⟩ := hreplies
      obtain ⟨hok, hset⟩ := hsound.wssk sk hsk
      obtain ⟨hok', hread⟩ := hspeaks.puts hok
      refine ⟨sk, frames, hsk, hok', hsteady hset, hspeaks.order, hhttp, ?_⟩
      rw [if_neg fun hboth => ?_, List.nil_append, hread]
      obtain hin | hnot := hkind
      · exact hboth.1 hin
      · rw [hnot] at hboth
        exact absurd hboth.2 (by decide)
    · subst hsame
      obtain ⟨hok, hset⟩ := hsound.wssk sk hsk
      obtain ⟨hclose1, hwrite1, hclosing1⟩ := sk_write_flags hwrite
      have hbytes := hlen sk hsk
      rw [← hok.length_readable_eq] at hbytes
      obtain ⟨rv2, sendbuf, events2, e2, hwrite2, hok2, hread2⟩ := sk_write_takes hok hbytes c.wsd_errno
      cases hwrite.symm.trans hwrite2
      refine ⟨sk, [], hsk, hok2, hset.of_flags rfl rfl rfl, .of_flags rfl rfl rfl, fun _ => rfl, ?_⟩
      rw [if_pos ⟨hevents, hout⟩, maskedStream_nil, List.append_nil]
      exact hread2
  refine ⟨hsound.session hsession hlast hnum fun wssk' hwssk' => ?_, hsession.http, fun wssk' hwssk' => ?_⟩
  · obtain ⟨_, _, -, hok, hsteady, -⟩ := hone hwssk'
    exact ⟨hok, hsteady⟩
  · obtain ⟨wssk, said, hwssk, -, -, hsaid⟩ := hone hwssk'
    exact ⟨wssk, said, hwssk, hsaid⟩

end Events

section Account

variable {request : List UInt8} {path : List (Move State Env)} {s s' : State} {env : Env}
  {frames : List (Frame × UInt32)} {unsent : List UInt8}

/-- The standard input's handler has put bytes into the send buffer although the closing had begun. -/
def FeedsClosing (m : Move State Env) : Prop :=
  m.before.pc.source = some .fdin ∧ (∃ wssk ∈ m.before.c.wssk, Begun wssk) ∧ outgoing m.after.c ≠ outgoing m.before.c

instance (m : Move State Env) : Decidable (FeedsClosing m) :=
  inferInstanceAs (Decidable (_ ∧ (∃ wssk ∈ m.before.c.wssk, Begun wssk) ∧ _))

/-- A timer has put bytes into the send buffer before the response had been processed. -/
def Premature (m : Move State Env) : Prop :=
  m.before.c.recv = .wssk_http_recv ∧ m.before.pc = .iteration ∧ outgoing m.after.c ≠ outgoing m.before.c

instance (m : Move State Env) : Decidable (Premature m) :=
  inferInstanceAs (Decidable (_ ∧ _ ∧ _))

/-- What has been written to the server and what still waits is the request and these frames. No
    control frame follows the close frame, and no frame at all unless the standard input has fed a
    closing websocket. No frame precedes the response, unless a timer was ahead of it. -/
structure Outgoing (request : List UInt8) (path : List (Move State Env)) (s : State)
    (frames : List (Frame × UInt32)) (unsent : List UInt8) : Prop where
  stream : written path ++ unsent = request ++ maskedStream frames
  rest : ∀ wssk, s.c.wssk = some wssk → wssk.sendbuf.readable = unsent
  control : (controls frames).Pairwise fun f _ => NoClose f
  order : (∀ m ∈ path, ¬ FeedsClosing m) → frames.Pairwise fun f _ => NoClose f
  http : s.c.recv = .wssk_http_recv → (∀ m ∈ path, ¬ Premature m) → frames = []

/-- A websocket which is not closing has not said so. -/
def Unclosed (s : State) (frames : List (Frame × UInt32)) : Prop :=
  ∀ wssk, s.c.wssk = some wssk → ¬ Begun wssk → ∀ f ∈ frames, NoClose f

/-- Frames are in order, or the standard input has put them behind the beginning of the closing. -/
def Follows (s : State) (wssk : Sk) (said : List (Frame × UInt32)) (wssk' : Sk) : Prop :=
  Ordered wssk said wssk' ∨
    s.pc.source = some .fdin ∧ Begun wssk ∧ Begun wssk' ∧ ∀ f ∈ said, f.1.opcode = WS_TEXT_FRAME

/-- What a step makes the websocket say. -/
structure Tells (s : State) (env : Env) (s' : State) : Prop where
  recv : s'.c.recv = .wssk_http_recv → s.c.recv = .wssk_http_recv
  said : ∀ wssk', s'.c.wssk = some wssk' → ∃ wssk said, s.c.wssk = some wssk ∧
    handed s env ++ wssk'.sendbuf.readable = wssk.sendbuf.readable ++ maskedStream said ∧
    Follows s wssk said wssk' ∧ (s.c.recv = .wssk_http_recv → s.pc = .iteration ∨ said = [])

theorem handed_none (h : s.c.wssk = none) : handed s env = [] := by
  simp [handed, h]

theorem handed_prefix {wssk : Sk} (h : s.c.wssk = some wssk) : ∃ rest, handed s env ++ rest = wssk.sendbuf.readable := by
  unfold handed
  rw [h]
  split
  · rename_i hsome hwrite
    cases hsome
    split
    · exact ⟨_, List.take_append_drop ..⟩
    · exact ⟨_, rfl⟩
  · exact ⟨_, rfl⟩

theorem handed_eq_nil (h : s.pc.source ≠ some .wssk) : handed s env = [] := by
  unfold handed
  split
  · rename_i hpc _ _
    rw [hpc] at h
    exact absurd rfl h
  · rfl

/-- Without bytes for the kernel, frames are what the send buffer has more than before. -/
theorem said_eq_nil {wssk wssk' : Sk} {said : List (Frame × UInt32)} (hwssk : s.c.wssk = some wssk)
    (hwssk' : s'.c.wssk = some wssk') (hhanded : handed s env = [])
    (hsaid : handed s env ++ wssk'.sendbuf.readable = wssk.sendbuf.readable ++ maskedStream said)
    (hsame : outgoing s'.c = outgoing s.c) : said = [] := by
  rw [outgoing, outgoing, hwssk, hwssk', Option.map_some, Option.map_some, Option.some.injEq] at hsame
  rw [hhanded, List.nil_append, hsame] at hsaid
  exact maskedStream_eq_nil (List.self_eq_append_right.mp hsaid)

theorem controls_append (fs gs : List (Frame × UInt32)) : controls (fs ++ gs) = controls fs ++ controls gs :=
  List.filter_append ..

theorem controls_of_text {fs : List (Frame × UInt32)} (h : ∀ f ∈ fs, f.1.opcode = WS_TEXT_FRAME) : controls fs = [] := by
  rw [controls, List.filter_eq_nil_iff]
  intro f hf
  rw [h f hf]
  decide

namespace Follows

variable {wssk wssk' : Sk} {said : List (Frame × UInt32)}

/-- No control frame follows the close frame. -/
theorem control (h : Follows s wssk said wssk') (hunclosed : ¬ Begun wssk → ∀ f ∈ frames, NoClose f)
    (hcontrol : (controls frames).Pairwise fun f _ => NoClose f) :
    (controls (frames ++ said)).Pairwise fun f _ => NoClose f := by
  rw [controls_append]
  obtain hordered | ⟨-, -, -, htext⟩ := h
  · by_cases hbegun : Begun wssk
    · rw [(hordered.begun hbegun).1]
      exact (List.append_nil _).symm ▸ hcontrol
    · exact Ordered.append_last (fun f hf => hunclosed hbegun f (List.mem_of_mem_filter hf)) (hordered.last.filter _)
  · rw [controls_of_text htext, List.append_nil]
    exact hcontrol

/-- No frame follows the close frame, if the standard input puts none. -/
theorem order (h : Follows s wssk said wssk') (hunclosed : ¬ Begun wssk → ∀ f ∈ frames, NoClose f)
    (horder : frames.Pairwise fun f _ => NoClose f) (hfed : s.pc.source = some .fdin → Begun wssk → said = []) :
    (frames ++ said).Pairwise fun f _ => NoClose f := by
  have hquiet (hnil : said = []) : (frames ++ said).Pairwise fun f _ => NoClose f := by
    rw [hnil, List.append_nil]
    exact horder
  obtain hordered | ⟨hsource, hbegun, -, -⟩ := h
  · by_cases hbegun : Begun wssk
    · exact hquiet (hordered.begun hbegun).1
    · exact Ordered.append_last (hunclosed hbegun) hordered.last
  · exact hquiet (hfed hsource hbegun)

theorem unclosed (h : Follows s wssk said wssk') (hunclosed : ¬ Begun wssk → ∀ f ∈ frames, NoClose f)
    (hopen : ¬ Begun wssk') : ∀ f ∈ frames ++ said, NoClose f := by
  obtain hordered | ⟨-, -, hbegun, -⟩ := h
  · rw [List.forall_mem_append]
    exact ⟨hunclosed fun hbegun => hopen (hordered.begun hbegun).2, hordered.open_ hopen⟩
  · exact absurd hbegun hopen

end Follows

/-- The account of a run goes on with the next step. -/
theorem Outgoing.next (h : Outgoing request path s frames unsent) (hunclosed : Unclosed s frames) (htells : Tells s env s') :
    ∃ frames' unsent', Outgoing request (path ++ [⟨s, env, s'⟩]) s' frames' unsent' ∧ Unclosed s' frames' := by
  have hfeeds (hnone : ∀ m ∈ path ++ [⟨s, env, s'⟩], ¬ FeedsClosing m) :
      (∀ m ∈ path, ¬ FeedsClosing m) ∧ ¬ FeedsClosing ⟨s, env, s'⟩ := by
    rwa [List.forall_mem_append, List.forall_mem_singleton] at hnone
  have hearly (hnone : ∀ m ∈ path ++ [⟨s, env, s'⟩], ¬ Premature m) :
      (∀ m ∈ path, ¬ Premature m) ∧ ¬ Premature ⟨s, env, s'⟩ := by
    rwa [List.forall_mem_append, List.forall_mem_singleton] at hnone
  cases hwssk' : s'.c.wssk with
  | none =>
    obtain ⟨unsent', hrest⟩ : ∃ unsent', handed s env ++ unsent' = unsent := by
      cases hwssk : s.c.wssk with
      | none => exact ⟨unsent, by rw [handed_none hwssk, List.nil_append]⟩
      | some wssk =>
        rw [← h.rest wssk hwssk]
        exact handed_prefix hwssk
    refine ⟨frames, unsent', ⟨?_, fun wssk hwssk => ?_, h.control, fun hnone => h.order (hfeeds hnone).1,
      fun hhttp hnone => h.http (htells.recv hhttp) (hearly hnone).1⟩, fun wssk hwssk => ?_⟩
    · rw [written_snoc, List.append_assoc, hrest, h.stream]
    · cases hwssk'.symm.trans hwssk
    · cases hwssk'.symm.trans hwssk
  | some wssk' =>
    obtain ⟨wssk, said, hwssk, hsaid, hkind, hhttp⟩ := htells.said wssk' hwssk'
    refine ⟨frames ++ said, wssk'.sendbuf.readable, ⟨?_, fun wssk1 hwssk1 => ?_, ?_, fun hnone => ?_, fun hrecv hnone => ?_⟩,
      fun wssk1 hwssk1 hnot => ?_⟩
    · rw [written_snoc, List.append_assoc, hsaid, h.rest wssk hwssk, ← List.append_assoc, h.stream, maskedStream_append,
        List.append_assoc]
    · cases hwssk'.symm.trans hwssk1
      rfl
    · exact hkind.control (hunclosed wssk hwssk) h.control
    · obtain ⟨hbefore, hnot⟩ := hfeeds hnone
      refine hkind.order (hunclosed wssk hwssk) (h.order hbefore) fun hsource hbegun => ?_
      have hhanded : handed s env = [] := handed_eq_nil (by rw [hsource]; decide)
      apply said_eq_nil hwssk hwssk' hhanded hsaid
      by_contra hmore
      exact hnot ⟨hsource, ⟨wssk, hwssk, hbegun⟩, hmore⟩
    · obtain ⟨hbefore, hnot⟩ := hearly hnone
      have hrecv' := htells.recv hrecv
      rw [h.http hrecv' hbefore, List.nil_append]
      obtain hpc | hnil := hhttp hrecv'
      · apply said_eq_nil hwssk hwssk' (handed_eq_nil (by rw [hpc]; decide)) hsaid
        by_contra hmore
        exact hnot ⟨hrecv', hpc, hmore⟩
      · exact hnil
    · cases hwssk'.symm.trans hwssk1
      exact hkind.unclosed (hunclosed wssk hwssk) hnot

end Account

section Run

variable {opt : Options} {fd : Int} {request : List UInt8} {broken : Bool} {path : List (Move State Env)} {s s' : State}
  {env : Env}

/-- No frame of a step is written over the end of the send buffer: neither one of the input which
    is read nor one of input which is repeated. -/
def Within (opt : Options) (s : State) (env : Env) : Prop :=
  Contained opt s env ∧
    (∀ s' ∈ (step opt env s).toOption, ClosesStdin s.c s'.c → RepeatContained opt s.c) ∧
    (s.pc = .iteration → ∀ c ∈ (ping_timeout opt env.clock s.c >>= idle_timeout opt env.clock).toOption,
      Repeats c → RepeatContained opt c)

instance (opt : Options) (s : State) (env : Env) : Decidable (Within opt s env) :=
  inferInstanceAs (Decidable (_ ∧ _ ∧ _))

theorem tells_of_same (hhanded : handed s env = []) (hc : s'.c = s.c) : Tells s env s' := by
  refine ⟨fun hhttp => by rwa [hc] at hhttp, fun wssk' hwssk' => ?_⟩
  rw [hc] at hwssk'
  refine ⟨wssk', [], hwssk', ?_, .inl (.of_flags rfl rfl rfl), fun _ => .inr rfl⟩
  rw [hhanded, maskedStream_nil, List.append_nil, List.nil_append]

/-- What a step makes of the program without overwritten memory. -/
theorem step_tells (hsound : Sound s.c) (hvalid : env.Valid s) (hwithin : Within opt s env)
    (hstep : step opt env s = .ok s') : Sound s'.c ∧ Tells s env s' := by
  have hsame (hsource : s.pc.source = none) (hc : s'.c = s.c) : Sound s'.c ∧ Tells s env s' := by
    refine ⟨by rwa [hc], tells_of_same (handed_eq_nil ?_) hc⟩
    rw [hsource]
    decide
  obtain ⟨hinput, hends, hrepeating⟩ := hwithin
  have hclosing := hends s' (by rw [hstep]; rfl)
  cases step_inv hstep with
  | exit hpc hdone => exact hsame (by rw [hpc]; rfl) rfl
  | iteration c hpc hdone hc =>
    have hturns := on_iteration_turns hsound.toStored (fun c1 hc1 => hrepeating hpc c1 (by rw [hc1]; rfl)) hc
    refine ⟨hturns.sound hsound, fun hhttp => hturns.recv.symm.trans hhttp, fun wssk' hwssk' => ?_⟩
    obtain ⟨wssk, said, hwssk, -, -, hturn⟩ := hturns.utters wssk' hwssk'
    refine ⟨wssk, said, hwssk, ?_, .inl hturn.order, fun _ => .inl hpc⟩
    rw [handed_eq_nil (by rw [hpc]; decide), List.nil_append]
    exact (hturn.puts (hsound.wssk wssk hwssk).1).2
  | interrupted hpc => exact hsame (by rw [hpc]; rfl) rfl
  | waited events hpc hevents => exact hsame (by rw [hpc]; rfl) rfl
  | handled hpc => exact hsame (by rw [hpc]; rfl) rfl
  | on_event source events todo c hpc hevent =>
    have hlen := hvalid.2.2 source (by rw [hpc]; rfl)
    cases source with
    | wssk =>
      have hanswers := on_event_wssk_answers hsound (fun sk hsk => (hlen sk hsk).2) hevent
      refine ⟨hanswers.sound, hanswers.session, fun wssk' hwssk' => ?_⟩
      obtain ⟨wssk, said, hwssk, hordered, hhttp, hread⟩ := hanswers.said wssk' hwssk'
      refine ⟨wssk, said, hwssk, ?_, .inl hordered, fun hrecv => .inr (hhttp hrecv)⟩
      rw [← hread]
      congr 1
      unfold handed
      rw [hpc, hwssk]
      cases env.write with
      | error => simp [WriteResult.len]
      | ok len => rfl
    | fdin =>
      have hopen : s.c.fdin.isSome = true := hevent.isSome
      have hspeaking : s.c.recv ≠ .wssk_http_recv := by
        intro hhttp
        rw [hsound.http hhttp] at hopen
        cases hopen
      have hhandles := on_event_fdin_handles hsound (fun sk hsk => (hlen sk hsk).1) (fun hreadable sk wssk hsk hwssk => ?_)
        (fun hnone => hclosing ⟨hopen, hnone⟩) hevent
      · refine ⟨hhandles.sound, fun hhttp => absurd (hhandles.recv.symm.trans hhttp) hspeaking, fun wssk' hwssk' => ?_⟩
        obtain ⟨wssk, said, hwssk, hutters⟩ := hhandles.utters wssk' hwssk'
        refine ⟨wssk, said, hwssk, ?_, hutters.order.imp_right fun hfed => ⟨by rw [hpc]; rfl, hfed⟩,
          fun hhttp => absurd hhttp hspeaking⟩
        rw [handed_of_fdin hpc, List.nil_append]
        exact (hutters.puts (hsound.wssk wssk hwssk).1).2
      · have hfits := hinput ⟨events, by rw [hpc]; rfl, hreadable⟩
        have hdelivered : delivered s env = env.read.bytes := by
          unfold delivered
          rw [hpc]
          cases env.read with
          | error => rfl
          | ok bytes => exact if_pos hreadable
        rw [hdelivered, pending, show s.c.fdin = some sk from hsk, room, hwssk] at hfits
        exact hfits

theorem sound_init (hrequest : request.length ≤ SKB_SIZE) : Sound (.init opt fd request broken) := by
  have hroom : request.length ≤ skb_wrsz Skb.zero := by rwa [Skb.wrsz_zero]
  refine ⟨⟨fun wssk hwssk => ?_, fun li hli => ?_, fun hnum => ?_⟩, fun _ => rfl, fun sk hsk => (by cases hsk)⟩
  · cases hwssk
    exact ⟨Skb.ok_zero.put hroom, rfl, fun h => by cases h⟩
  · have hlast : (if 0 < opt.repeat_last_num then some Skb.zero else none) = some li := hli
    split at hlast
    · cases hlast
      exact Skb.ok_zero
    · cases hlast
  · have hset : 0 < opt.repeat_last_num := hnum
    exact congrArg Option.isSome (if_pos hset)

/-- What wscat sends is its request and whole frames, of which the control frames end with the
    close frame, for all options and all orders of input, messages and timeouts. -/
theorem outgoing_stream (opt : Options) (fd : Int) (request : List UInt8) (hrequest : request.length ≤ SKB_SIZE)
    (broken : Bool) (path : List (Move State Env)) (s : State)
    (h : (program opt fd request broken).Path (Within opt) path s) :
    ∃ frames unsent, Outgoing request path s frames unsent := by
  have haccount : Sound s.c ∧ ∃ frames unsent, Outgoing request path s frames unsent ∧ Unclosed s frames := by
    refine h.invariant
      (I := fun path s => Sound s.c ∧ ∃ frames unsent, Outgoing request path s frames unsent ∧ Unclosed s frames) ?_ ?_
    · have hroom : request.length ≤ skb_wrsz Skb.zero := by rwa [Skb.wrsz_zero]
      refine ⟨sound_init hrequest, [], request, ⟨?_, fun wssk hwssk => ?_, .nil, fun _ => .nil, fun _ _ => rfl⟩, by simp [Unclosed]⟩
      · rw [maskedStream_nil, List.append_nil]
        rfl
      · cases hwssk
        exact (Skb.ok_zero.readable_put hroom).trans (by rw [Skb.readable_zero, List.nil_append])
    · rintro path s s' env - ⟨hsound, frames, unsent, hout, hunclosed⟩ hvalid hwithin hstep
      obtain ⟨hsound', htells⟩ := step_tells hsound hvalid hwithin hstep
      exact ⟨hsound', hout.next hunclosed htells⟩
  obtain ⟨-, frames, unsent, hout, -⟩ := haccount
  exact ⟨frames, unsent, hout⟩

end Run

namespace Session

/-- The input which ended is repeated twice, and the closing handshake follows in the next iteration. -/
def repeated : List Env :=
  typed ++ [{ clock := { tv_sec := 9, tv_nsec := 0 } }]

end Session

open Session

/-- The input is repeated twice, and the close frame waits behind it. -/
theorem outgoing_stream_repeated :
    ∃ (path : List (Move State Env)) (s : State), (∃ m ∈ path, ClosesStdin m.before.c m.after.c) ∧
      (∃ wssk ∈ s.c.wssk, wssk.closing = true) ∧ s.c.repeat_last_num = 0 ∧
      ∃ frames unsent, Outgoing (ascii "GET") path s frames unsent := by
  obtain ⟨path, s, hpath, hcloses, hclosing, hnum⟩ :=
    @System.exists_path _ _ _ (Within (options false false (-1) (-1) 2))
      (program (options false false (-1) (-1) 2) 3 (ascii "GET") false) _ _
      (fun path s => (∃ m ∈ path, ClosesStdin m.before.c m.after.c) ∧ (∃ wssk ∈ s.c.wssk, wssk.closing = true) ∧
        s.c.repeat_last_num = 0) _ repeated (by decide +kernel)
  exact ⟨path, s, hcloses, hclosing, hnum, outgoing_stream _ 3 (ascii "GET") (by decide) false path s hpath⟩

end wscat

end wsd
