import Wsd.Wscat.Inversion

namespace wsd

open Transition

/-- What the handlers of the standard input leave alone. -/
structure Stdin.Kept (s s' : Stdin) : Prop where
  repeat_last_num : s'.repeat_last_num = s.repeat_last_num
  sk : ∃ recvbuf, s'.sk = { s.sk with recvbuf }
  wssk : ∀ wssk, s.wssk = some wssk → ∃ sendbuf, s'.wssk = some { wssk with sendbuf }

namespace Stdin.Kept

theorem refl (s : Stdin) : s.Kept s :=
  ⟨rfl, ⟨s.sk.recvbuf, rfl⟩, fun wssk hwssk => ⟨wssk.sendbuf, hwssk⟩⟩

theorem trans {s s1 s2 : Stdin} (h : s.Kept s1) (h' : s1.Kept s2) : s.Kept s2 := by
  obtain ⟨recvbuf, hsk⟩ := h.sk
  obtain ⟨recvbuf', hsk'⟩ := h'.sk
  refine ⟨h'.repeat_last_num.trans h.repeat_last_num, ⟨recvbuf', by rw [hsk', hsk]⟩, fun wssk hwssk => ?_⟩
  obtain ⟨sendbuf, hwssk1⟩ := h.wssk wssk hwssk
  obtain ⟨sendbuf', hwssk2⟩ := h'.wssk _ hwssk1
  exact ⟨sendbuf', hwssk2⟩

end Stdin.Kept

theorem save_last_input_inv {s s' : Stdin} {n : Nat} (h : save_last_input s n = .ok s') :
    ∃ last_input, s' = { s with last_input } := by
  unfold save_last_input at h
  split at h
  · split at h
    · cases h
    · cases h
      exact ⟨_, rfl⟩
  · cases h
    exact ⟨s.last_input, rfl⟩

theorem stdin_decode_frame_kept {s s' : Stdin} {rv : Int} (h : stdin_decode_frame s = .ok (rv, s')) : s.Kept s' := by
  unfold stdin_decode_frame at h
  by_cases hempty : skb_rdsz s.sk.recvbuf = 0
  · rw [if_pos hempty] at h
    cases h
    exact ⟨rfl, ⟨s.sk.recvbuf, rfl⟩, fun wssk hwssk => ⟨wssk.sendbuf, hwssk⟩⟩
  rw [if_neg hempty] at h
  cases hlen : stdin_payload_len s with
  | none =>
    rw [hlen] at h
    cases h
    exact ⟨rfl, ⟨s.sk.recvbuf, rfl⟩, fun wssk hwssk => ⟨wssk.sendbuf, hwssk⟩⟩
  | some payload_len =>
    rw [hlen] at h
    obtain ⟨s1, hsave, hencode⟩ := Except.bind_eq_ok_iff.mp h
    obtain ⟨last_input, rfl⟩ := save_last_input_inv hsave
    unfold wssk_ws_encode_frame at hencode
    cases hwssk : s.wssk with
    | none =>
      simp only [hwssk] at hencode
      cases hencode
    | some wssk =>
      simp only [hwssk] at hencode
      obtain ⟨⟨rv', sendbuf, recvbuf, e⟩, -, hret⟩ := Except.bind_eq_ok_iff.mp hencode
      cases hret
      refine ⟨rfl, ⟨recvbuf, rfl⟩, fun wssk' hwssk' => ?_⟩
      cases hwssk.symm.trans hwssk'
      exact ⟨sendbuf, rfl⟩

theorem stdin_decode_loop_kept {fuel frames frames' : Nat} {s s' : Stdin} {rv : Int}
    (h : stdin_decode_loop fuel frames s = .ok (rv, frames', s')) : s.Kept s' := by
  induction fuel generalizing frames s with
  | zero => cases h
  | succ fuel ih =>
    obtain ⟨⟨rv1, s1⟩, hframe, h⟩ := Except.bind_eq_ok_iff.mp h
    have hkept := stdin_decode_frame_kept hframe
    by_cases hrv : rv1 = 0
    · simp only [if_pos hrv] at h
      exact hkept.trans (ih h)
    · simp only [if_neg hrv] at h
      cases h
      exact hkept

/-- The standard input's own flags are never set, so that its end changes its events only
    where frames were sent, and then those of the websocket. -/
theorem stdin_recv_leave_eq {frames : Nat} {s : Stdin} (hclose : s.sk.close = false)
    (hwrite : s.sk.close_on_write = false) :
    stdin_recv_leave frames s =
      { s with wssk := if frames ≠ 0 then s.wssk.map fun wssk => { wssk with events := wssk.events.union EPOLLOUT }
        else s.wssk } := by
  unfold stdin_recv_leave
  simp only [turn_on_out, hclose, hwrite, Bool.false_eq_true, and_false, false_and, or_self, if_false]

/-- The handler of the standard input refuses bytes only when the websocket is gone. -/
theorem stdin_recv_inv {s s' : Stdin} {rv : Int} (h : stdin_recv s = .ok (rv, s')) (hclose : s.sk.close = false)
    (hwrite : s.sk.close_on_write = false) :
    (rv = -1 ∧ s.wssk = none ∧ s' = s) ∨
      (rv = 0 ∧ s.wssk.isSome = true ∧ s'.repeat_last_num = s.repeat_last_num ∧
        ∃ recvbuf, s'.sk = { s.sk with recvbuf }) := by
  unfold stdin_recv at h
  obtain ⟨_, -, h⟩ := Except.bind_eq_ok_iff.mp h
  cases hwssk : s.wssk with
  | none =>
    rw [hwssk] at h
    cases h
    exact .inl ⟨rfl, rfl, rfl⟩
  | some wssk =>
    simp only [hwssk, Option.isNone_some, Bool.false_eq_true, if_false] at h
    obtain ⟨⟨rv1, frames, s1⟩, hloop, h⟩ := Except.bind_eq_ok_iff.mp h
    have hkept := stdin_decode_loop_kept hloop
    obtain ⟨recvbuf, hsk⟩ := hkept.sk
    rw [stdin_recv_leave_eq (by rw [hsk]; exact hclose) (by rw [hsk]; exact hwrite)] at h
    cases h
    exact .inr ⟨rfl, rfl, hkept.repeat_last_num, recvbuf, hsk⟩

namespace wscat

variable {opt : Options} {env : Env} {now : Timespec} {c c' : Wscat} {s s' : State}

/-- Nothing is repeated, and nothing but its end closes the standard input. -/
structure Plain (c : Wscat) : Prop where
  repeat_last_num : c.repeat_last_num = -1
  repeat_last_armed : c.repeat_last_armed = false
  fdin : ∀ sk, c.fdin = some sk → sk.close = false ∧ sk.close_on_write = false

/-- The states which differ only in the websocket's part. -/
def SameInput (c c' : Wscat) : Prop :=
  c'.repeat_last_num = c.repeat_last_num ∧ c'.repeat_last_armed = c.repeat_last_armed ∧ c'.fdin = c.fdin

theorem SameInput.plain (h : SameInput c c') (hplain : Plain c) : Plain c' :=
  ⟨h.1.trans hplain.1, h.2.1.trans hplain.2, fun sk hsk => hplain.3 sk (h.2.2.symm.trans hsk)⟩

theorem SameInput.trans {c1 : Wscat} (h : SameInput c c1) (h' : SameInput c1 c') : SameInput c c' :=
  ⟨h'.1.trans h.1, h'.2.1.trans h.2.1, h'.2.2.trans h.2.2⟩

theorem ping_timeout_same (h : ping_timeout opt now c = .ok c') : SameInput c c' := by
  obtain ⟨sk, -, ⟨-, h⟩ | ⟨-, rfl⟩⟩ := ping_timeout_inv h
  · obtain ⟨sk, -, rfl | ⟨rv, sk', e, -, rfl⟩⟩ := wssk_ws_ping_inv h
    · exact ⟨rfl, rfl, rfl⟩
    · exact ⟨rfl, rfl, rfl⟩
  · exact ⟨rfl, rfl, rfl⟩

theorem idle_timeout_same (h : idle_timeout opt now c = .ok c') : SameInput c c' := by
  obtain ⟨sk, -, ⟨-, -, h⟩ | rfl⟩ := idle_timeout_inv h
  · obtain ⟨sk, rv, sk', e, -, -, rfl⟩ := wssk_ws_start_closing_handshake_inv h
    exact ⟨rfl, rfl, rfl⟩
  · exact ⟨rfl, rfl, rfl⟩

theorem on_iteration_same (hplain : Plain c) (h : on_iteration opt now c = .ok c') : SameInput c c' := by
  obtain ⟨c1, c2, hping, hidle, hrepeat⟩ := on_iteration_inv h
  have hsame := (ping_timeout_same hping).trans (idle_timeout_same hidle)
  unfold try_repeating_last at hrepeat
  rw [hsame.2.1, hplain.repeat_last_armed, if_pos (by decide)] at hrepeat
  cases hrepeat
  exact hsame

/-- Without the option -R the end of the input leaves the websocket alone: no ping interval
    is -1 after its conversion to milliseconds. -/
theorem stdin_close_plain (is_json no_handshake : Bool) (idle ping : Int) (hnum : c.repeat_last_num = -1) :
    stdin_close (options is_json no_handshake idle ping (-1)) c = .ok { c with fdin := none } := by
  unfold stdin_close
  have hfirst : ¬ ((options is_json no_handshake idle ping (-1)).idle_timeout = -1 ∧
      (options is_json no_handshake idle ping (-1)).ping_interval = -1 ∧ c.repeat_last_num = -1) := by
    rintro ⟨-, hping, -⟩
    have hmillis : ping * 1000 = -1 := hping
    omega
  have hsecond : ¬ 0 < c.repeat_last_num := by
    rw [hnum]
    decide
  rw [if_neg hfirst, if_neg hsecond]
  rfl

/-- The websocket's handlers open the standard input or leave it alone. -/
theorem recv_wssk_same {sk : Sk} {rv : Int} (h : wscat.post_read opt c sk = .ok (rv, c')) :
    c'.repeat_last_num = c.repeat_last_num ∧ c'.repeat_last_armed = c.repeat_last_armed ∧
      (c'.fdin = c.fdin ∨ c'.fdin = some (sk_init 0 0)) := by
  obtain ⟨-, rfl, -⟩ | ⟨-, hhttp⟩ | ⟨-, w, -, rfl⟩ := post_read_inv h
  · exact ⟨rfl, rfl, .inl rfl⟩
  · obtain ⟨-, rfl⟩ | ⟨prev, ⟨-, rfl⟩ | ⟨e, -, -, rfl⟩⟩ := wssk_http_recv_inv hhttp
    · exact ⟨rfl, rfl, .inl rfl⟩
    · exact ⟨rfl, rfl, .inl rfl⟩
    · exact ⟨rfl, rfl, .inr rfl⟩
  · exact ⟨rfl, rfl, .inl rfl⟩

/-- An event on the websocket does not close the standard input. -/
theorem on_event_wssk {read : ReadResult} {write : WriteResult} {events : EpollEvents}
    (h : OnEvent opt read write now c .wssk events c') :
    c'.repeat_last_num = c.repeat_last_num ∧ c'.repeat_last_armed = c.repeat_last_armed ∧
      (c'.fdin = c.fdin ∨ c'.fdin = some (sk_init 0 0)) := by
  cases h with
  | read sk c' hevents hget hwrite hclose hread =>
    cases hread with
    | failed rv sk1 e c' hsk hrv herrno hleft =>
      cases hleft
      exact ⟨rfl, rfl, .inl rfl⟩
    | refused rv rv1 sk1 e c1 c' hsk hrv hrecv hrefused hleft =>
      cases hleft
      exact @recv_wssk_same opt (c.noted .wssk sk1 now e) c1 _ rv1 hrecv
    | received rv rv1 sk1 e c1 c' sk2 hsk hrv hrecv hrefused hget2 hleft =>
      split at hleft
      · cases hleft
        exact @recv_wssk_same opt (c.noted .wssk sk1 now e) c1 _ rv1 hrecv
      · cases hleft
        exact @recv_wssk_same opt (c.noted .wssk sk1 now e) c' _ rv1 hrecv
  | write sk rv sk1 e c' hevents hout hget hwrite hleft =>
    obtain hleft | rfl := hleft
    · cases hleft
      exact ⟨rfl, rfl, .inl rfl⟩
    · exact ⟨rfl, rfl, .inl rfl⟩
  | hangup c' hevents hout hopen hleft =>
    cases hleft
    exact ⟨rfl, rfl, .inl rfl⟩
  | nothing hevents hout hopen => exact ⟨rfl, rfl, .inl rfl⟩

/-- An event on the standard input closes it only as `stdin_close` does, and not in a step
    which sends frames. -/
theorem on_event_fdin {is_json no_handshake : Bool} {idle ping : Int} {read : ReadResult} {write : WriteResult}
    {events : EpollEvents} (hplain : Plain c) (h : OnEvent (options is_json no_handshake idle ping (-1)) read write now c .fdin events c') :
    Plain c' ∧ (c'.fdin = none → c'.wssk = c.wssk) := by
  have hclosed (c1 : Wscat) (hnum : c1.repeat_last_num = -1) (harmed : c1.repeat_last_armed = false)
      (hwssk : c1.wssk = c.wssk) (hclose : stdin_close (options is_json no_handshake idle ping (-1)) c1 = .ok c') :
      Plain c' ∧ (c'.fdin = none → c'.wssk = c.wssk) := by
    rw [stdin_close_plain is_json no_handshake idle ping hnum] at hclose
    cases hclose
    exact ⟨⟨hnum, harmed, fun sk hsk => by cases hsk⟩, fun _ => hwssk⟩
  have hopen (c1 : Wscat) (sk2 : Sk) (hnum : c1.repeat_last_num = -1) (harmed : c1.repeat_last_armed = false)
      (hsk : c1.fdin = some sk2) (hclose : sk2.close = false) (hwrite : sk2.close_on_write = false) (hc : c' = c1) :
      Plain c' ∧ (c'.fdin = none → c'.wssk = c.wssk) := by
    subst hc
    refine ⟨⟨hnum, harmed, fun sk hsk' => ?_⟩, fun hnone => absurd (hsk.symm.trans hnone) (by simp)⟩
    cases hsk.symm.trans hsk'
    exact ⟨hclose, hwrite⟩
  cases h with
  | read sk c' hevents hget hwrite hclose hread =>
    cases hread with
    | failed rv sk1 e c' hsk hrv herrno hleft => exact hclosed (c.noted .fdin sk1 now e) hplain.1 hplain.2 rfl hleft
    | refused rv rv1 sk1 e c1 c' hsk hrv hrecv hrefused hleft =>
      obtain ⟨hclose1, hwrite1, -⟩ := sk_read_flags hsk
      obtain ⟨hzero, -, -⟩ | ⟨s, hstdin, rfl⟩ := post_stdin_inv hrecv
      · exact absurd hrefused.1 (by rw [hzero]; decide)
      obtain ⟨-, hwssk, rfl⟩ | ⟨hzero, -⟩ := stdin_recv_inv hstdin (hclose1.trans hclose) (hwrite1.trans hwrite)
      · exact hclosed (c.noted .fdin sk1 now e) hplain.1 hplain.2 rfl hleft
      · exact absurd hrefused.1 (by rw [hzero]; decide)
    | received rv rv1 sk1 e c1 c' sk2 hsk hrv hrecv hrefused hget2 hleft =>
      obtain ⟨hclose1, hwrite1, -⟩ := sk_read_flags hsk
      have hclose2 := hclose1.trans hclose
      have hwrite2 := hwrite1.trans hwrite
      obtain ⟨-, rfl, -⟩ | ⟨s, hstdin, rfl⟩ := post_stdin_inv hrecv
      · cases hget2
        rw [if_neg (by simp [hclose2])] at hleft
        exact hopen (c.noted .fdin sk1 now e) _ hplain.1 hplain.2 rfl hclose2 hwrite2 hleft.symm
      cases hget2
      obtain ⟨-, -, rfl⟩ | ⟨-, -, hnum, recvbuf, hrest⟩ := stdin_recv_inv hstdin hclose2 hwrite2
      · rw [if_neg (by simp [Wscat.stdin, hclose2])] at hleft
        exact hopen (c.noted .fdin sk1 now e) _ hplain.1 hplain.2 rfl hclose2 hwrite2 hleft.symm
      · rw [if_neg (by simp [hrest, Wscat.stdin, hclose2])] at hleft
        refine hopen { (c.noted .fdin sk1 now e).setStdin s with fdin := some s.sk } s.sk (hnum.trans hplain.1) hplain.2
          rfl ?_ ?_ hleft.symm
        · rw [hrest]
          exact hclose2
        · rw [hrest]
          exact hwrite2
  | write sk rv sk1 e c' hevents hout hget hwrite hleft =>
    obtain ⟨hclose1, hwrite1, -⟩ := sk_write_flags hwrite
    obtain ⟨hclose, hwrite⟩ := hplain.fdin sk hget
    obtain hleft | hleft := hleft
    · exact hclosed (c.noted .fdin sk1 now e) hplain.1 hplain.2 rfl hleft
    · exact hopen (c.noted .fdin sk1 now e) _ hplain.1 hplain.2 rfl (hclose1.trans hclose) (hwrite1.trans hwrite) hleft
  | hangup c' hevents hout hopen hleft => exact hclosed c hplain.1 hplain.2 rfl hleft
  | nothing hevents hout hopen => exact ⟨hplain, fun _ => rfl⟩

/-- The standard input is closed in a step. -/
def ClosesStdin (c c' : Wscat) : Prop :=
  c.fdin.isSome = true ∧ c'.fdin = none

instance (c c' : Wscat) : Decidable (ClosesStdin c c') :=
  inferInstanceAs (Decidable (_ ∧ _))

/-- The websocket is open and none of its three flags says that its closing has begun. -/
def AwaitsClose (c : Wscat) : Prop :=
  ∃ sk ∈ c.wssk, sk.closing = false ∧ sk.close = false ∧ sk.close_on_write = false

instance (c : Wscat) : Decidable (AwaitsClose c) :=
  inferInstanceAs (Decidable (∃ sk ∈ c.wssk, _ ∧ _ ∧ _))

/-- What the websocket has in its send buffer, if it is open. -/
def outgoing (c : Wscat) : Option (List UInt8) :=
  c.wssk.map fun sk => sk.sendbuf.readable

/-- The end of the input starts the closing handshake which is awaited, and appends nothing otherwise. -/
def EndsStream (c c' : Wscat) : Prop :=
  outgoing c' = (outgoing c).map fun bytes => bytes ++ if AwaitsClose c then closeFrame WS_1000 true else []

instance (c c' : Wscat) : Decidable (EndsStream c c') :=
  inferInstanceAs (Decidable (_ = _))

theorem endsStream_iff (h : c'.wssk = c.wssk) : EndsStream c c' ↔ ¬ AwaitsClose c := by
  have houtgoing : outgoing c' = outgoing c := by
    rw [outgoing, h, outgoing]
  unfold EndsStream
  rw [houtgoing]
  by_cases hawaits : AwaitsClose c
  · obtain ⟨sk, hsk, -⟩ := id hawaits
    have hsome : outgoing c = some sk.sendbuf.readable := by
      rw [outgoing, hsk]
      rfl
    have hne : sk.sendbuf.readable ≠ sk.sendbuf.readable ++ closeFrame WS_1000 true := by
      intro heq
      have hlen := congrArg List.length heq
      rw [List.length_append, length_closeFrame] at hlen
      simp [WS_MASKED_FRAME_LEN] at hlen
    simp only [hawaits, if_true, hsome, Option.map_some, Option.some.injEq, not_true_eq_false, iff_false]
    exact hne
  · simp only [hawaits, if_false, List.append_nil, not_false_eq_true, iff_true]
    cases outgoing c <;> rfl

theorem step_plain {is_json no_handshake : Bool} {idle ping : Int} (hplain : Plain s.c)
    (h : step (options is_json no_handshake idle ping (-1)) env s = .ok s') :
    Plain s'.c ∧ (ClosesStdin s.c s'.c → s'.c.wssk = s.c.wssk) := by
  have hkept {c' : Wscat} (hfdin : c'.fdin = s.c.fdin) : ClosesStdin s.c c' → c'.wssk = s.c.wssk := by
    rintro ⟨hopen, hnone⟩
    rw [← hfdin, hnone] at hopen
    cases hopen
  cases step_inv h with
  | exit hpc hdone => exact ⟨hplain, hkept rfl⟩
  | iteration c hpc hdone hc =>
    have hsame := on_iteration_same hplain hc
    exact ⟨hsame.plain hplain, hkept hsame.2.2⟩
  | interrupted hpc => exact ⟨hplain, hkept rfl⟩
  | waited events hpc hevents => exact ⟨hplain, hkept rfl⟩
  | handled hpc => exact ⟨hplain, hkept rfl⟩
  | on_event source events todo c hpc hevent =>
    cases source with
    | wssk =>
      obtain ⟨hnum, harmed, hfdin | hfdin⟩ := on_event_wssk hevent
      · exact ⟨SameInput.plain ⟨hnum, harmed, hfdin⟩ hplain, hkept hfdin⟩
      · refine ⟨⟨hnum.trans hplain.1, harmed.trans hplain.2, fun sk hsk => ?_⟩, fun hcloses => ?_⟩
        · cases hfdin.symm.trans hsk
          exact ⟨rfl, rfl⟩
        · exact absurd (hfdin.symm.trans hcloses.2) (by simp)
    | fdin =>
      obtain ⟨hplain', hwssk⟩ := on_event_fdin hplain hevent
      exact ⟨hplain', fun hcloses => hwssk hcloses.2⟩

theorem reach_plain {is_json no_handshake : Bool} {idle ping : Int} {fd : Int} {request : List UInt8} {broken : Bool}
    (h : (program (options is_json no_handshake idle ping (-1)) fd request broken).Reach (fun _ _ => True) s) : Plain s.c := by
  refine h.invariant (I := fun s => Plain s.c) ⟨rfl, rfl, fun sk hsk => by cases hsk⟩ ?_
  intro s s' env hplain _ _ hstep
  exact (step_plain hplain hstep).1

/-- Without the options -i, -p, -R and -N the end of the standard input does what it is for
    exactly where the websocket awaits no closing handshake: it never fails, and it never
    starts one. -/
theorem stdin_end_iff (is_json : Bool) (fd : Int) (request : List UInt8) (broken : Bool)
    (path : List (Move State Env)) (s : State)
    (h : (program (options is_json false (-1) (-1) (-1)) fd request broken).Path (fun _ _ => True) path s) :
    ((∃ c', stdin_close (options is_json false (-1) (-1) (-1)) s.c = .ok c') ∧
      ∀ m ∈ path, ClosesStdin m.before.c m.after.c → EndsStream m.before.c m.after.c) ↔
      ∀ m ∈ path, ClosesStdin m.before.c m.after.c → ¬ AwaitsClose m.before.c := by
  have hmoves : ∀ m ∈ path, ClosesStdin m.before.c m.after.c →
      (EndsStream m.before.c m.after.c ↔ ¬ AwaitsClose m.before.c) := by
    refine h.forall_move (I := fun m => ClosesStdin m.before.c m.after.c →
      (EndsStream m.before.c m.after.c ↔ ¬ AwaitsClose m.before.c)) ?_
    intro s s' env hreach _ _ hstep hcloses
    exact endsStream_iff ((step_plain (reach_plain hreach) hstep).2 hcloses)
  have hreturns := stdin_close_plain is_json false (-1) (-1) (reach_plain h.reach).repeat_last_num
  constructor
  · rintro ⟨-, hends⟩ m hm hcloses
    exact (hmoves m hm hcloses).mp (hends m hm hcloses)
  · intro hawaits
    exact ⟨⟨_, hreturns⟩, fun m hm hcloses => (hmoves m hm hcloses).mpr (hawaits m hm hcloses)⟩

namespace Session

def response : List UInt8 :=
  ascii ("HTTP/1.1 101 Switching Protocols\r\nUpgrade: websocket\r\nConnection: Upgrade\r\n" ++
    "Sec-WebSocket-Accept: k\r\n\r\n")

/-- The inputs of an iteration at the given second with one event. -/
def iteration (second : Int) (source : Source) (events : EpollEvents) (handled : Env) : List Env :=
  [{ clock := { tv_sec := second, tv_nsec := 0 } }, { events := some [(source, events)] }, handled, {}]

/-- The server's response arrives. -/
def connected : List Env :=
  iteration 9 .wssk EPOLLIN { read := .ok response }

/-- The standard input ends behind it. -/
def ended : List Env :=
  connected ++ iteration 9 .fdin EPOLLIN { read := .ok [] }

/-- The server's close frame arrives, and then the standard input ends. -/
def closed : List Env :=
  connected ++ iteration 9 .wssk EPOLLIN { read := .ok [0x88, 0] } ++ iteration 9 .fdin EPOLLIN { read := .ok [] }

end Session

open Session

theorem stdin_end_iff_closed :
    ∃ (path : List (Move State Env)) (s : State),
      (∃ m ∈ path, ClosesStdin m.before.c m.after.c ∧ ¬ AwaitsClose m.before.c) ∧
      (((∃ c', stdin_close (options false false (-1) (-1) (-1)) s.c = .ok c') ∧
        ∀ m ∈ path, ClosesStdin m.before.c m.after.c → EndsStream m.before.c m.after.c) ↔
        ∀ m ∈ path, ClosesStdin m.before.c m.after.c → ¬ AwaitsClose m.before.c) := by
  obtain ⟨path, s, hpath, hcloses⟩ :=
    @System.exists_path _ _ _ (fun _ _ => True) (program (options false false (-1) (-1) (-1)) 3 (ascii "GET") false) _ _
      (fun path _ => ∃ m ∈ path, ClosesStdin m.before.c m.after.c ∧ ¬ AwaitsClose m.before.c) _ closed
      (by decide +kernel)
  exact ⟨path, s, hcloses, stdin_end_iff false 3 (ascii "GET") false path s hpath⟩

/-- The standard input ends behind the server's response, and no close frame is sent. -/
theorem stdin_end_silent :
    ¬ ∀ (is_json : Bool) (fd : Int) (request : List UInt8) (broken : Bool) (path : List (Move State Env)) (s : State),
      (program (options is_json false (-1) (-1) (-1)) fd request broken).Path (fun _ _ => True) path s →
      (∃ c', stdin_close (options is_json false (-1) (-1) (-1)) s.c = .ok c') ∧
        ∀ m ∈ path, ClosesStdin m.before.c m.after.c → EndsStream m.before.c m.after.c := by
  intro hall
  obtain ⟨path, s, hpath, m, hm, hcloses, hends⟩ :=
    @System.exists_path _ _ _ (fun _ _ => True) (program (options false false (-1) (-1) (-1)) 3 (ascii "GET") false) _ _
      (fun path _ => ∃ m ∈ path, ClosesStdin m.before.c m.after.c ∧ ¬ EndsStream m.before.c m.after.c) _ ended
      (by decide +kernel)
  exact hends ((hall false 3 (ascii "GET") false path s hpath).2 m hm hcloses)

end wscat

end wsd
