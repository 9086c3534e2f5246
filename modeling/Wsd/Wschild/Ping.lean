import Wsd.Transition.Timer
import Wsd.Wschild.Invariant

namespace wsd

open Transition

section Clock

variable {t now now' clock : Timespec} {reads : Prop} {timeout : Int} {sk : Sk}

theorem Timespec.normal_zero : Timespec.zero.Normal := by
  decide

theorem Timespec.Normal.nanos_nonneg (h : t.Normal) : 0 ≤ t.nanos := by
  obtain ⟨hsec, hnsec, -⟩ := h
  unfold Timespec.nanos
  omega

/-- A time which the clock has shown by now. -/
structure Timespec.Shown (t now : Timespec) : Prop where
  normal : t.Normal
  le : t.nanos ≤ now.nanos

theorem Timespec.Normal.shown (h : now.Normal) : now.Shown now :=
  ⟨h, Int.le_refl _⟩

theorem Timespec.Shown.later (h : t.Shown now) (hle : now.nanos ≤ now'.nanos) : t.Shown now' :=
  ⟨h.normal, Int.le_trans h.le hle⟩

theorem Timespec.Normal.zero_shown (h : now.Normal) : Timespec.zero.Shown now :=
  ⟨normal_zero, h.nanos_nonneg⟩

/-- A step reads the clock, or leaves the last reading as it is. -/
theorem nanos_le_of_read (h : now' = now ∨ reads ∧ now' = clock)
    (hclock : reads → now.nanos ≤ clock.nanos ∧ clock.Normal) : now.nanos ≤ now'.nanos := by
  obtain rfl | ⟨hreads, rfl⟩ := h
  · exact Int.le_refl _
  · exact (hclock hreads).1

theorem normal_of_read (h : now' = now ∨ reads ∧ now' = clock)
    (hclock : reads → now.nanos ≤ clock.nanos ∧ clock.Normal) (hnow : now.Normal) : now'.Normal := by
  obtain rfl | ⟨hreads, rfl⟩ := h
  · exact hnow
  · exact (hclock hreads).2

/-- The division rounds towards zero. -/
theorem tdiv_million (n : Int) :
    n.tdiv 1000000 * 1000000 < n + 1000000 ∧ n - 1000000 < n.tdiv 1000000 * 1000000 := by
  have hsum := Int.tdiv_mul_add_tmod n 1000000
  have hlt := Int.tmod_lt_of_pos n (show (0 : Int) < 1000000 by decide)
  have hgt := Int.lt_tmod_of_pos n (show (0 : Int) < 1000000 by decide)
  omega

/-- More than the timeout has passed between two readings of the clock which are found to lie
    further apart, as the rounding is less than the next millisecond. -/
theorem lt_of_has_timed_out (ht : t.Shown now) (hnow : now.Normal) (hint : timeout < 2 ^ 31)
    (h : has_timed_out t now timeout = true) : timeout * 1000000 < now.nanos - t.nanos := by
  obtain ⟨⟨-, ht0, ht1⟩, hle⟩ := ht
  obtain ⟨-, hnow0, hnow1⟩ := hnow
  have hround := tdiv_million (now.tv_nsec - t.tv_nsec)
  have hmillis := of_decide_eq_true h
  rw [Int.emod_add_emod] at hmillis
  unfold Timespec.nanos at hle ⊢
  generalize (now.tv_nsec - t.tv_nsec).tdiv 1000000 = q at hround hmillis
  omega

/-- A socket is found to have timed out only by its last input or output. -/
theorem check_timeout_last_io (h : check_timeout sk now timeout = true) :
    sk.ts_last_io ≠ .zero ∧ has_timed_out sk.ts_last_io now timeout = true := by
  unfold check_timeout at h
  split at h
  · cases h
  split at h
  · cases h
  split at h
  · cases h
  · rename_i hzero
    refine ⟨fun heq => hzero ?_, h⟩
    rw [heq]
    exact ⟨rfl, rfl⟩

/-- A socket with input or output at time `t` or later times out only when more than the timeout has passed since. -/
theorem lt_of_check_timeout {t : Int} (hstamp : sk.ts_last_io.Shown now) (hnow : now.Normal) (hint : timeout < 2 ^ 31)
    (hsince : sk.ts_last_io ≠ .zero → t ≤ sk.ts_last_io.nanos) (h : check_timeout sk now timeout = true) :
    timeout * 1000000 < now.nanos - t := by
  obtain ⟨hne, hout⟩ := check_timeout_last_io h
  have hpassed := lt_of_has_timed_out hstamp hnow hint hout
  have ht := hsince hne
  omega

end Clock

section LastIo

variable {cfg : Config} {ssl : Openssl} {env : Env} {s s' : State} {pc : Pc} {w w' : World} {id : Nat} {sk sk' : Sk}

theorem Written.last_io {write : WriteResult} {now : Timespec} (h : Written write now sk sk') : sk'.ts_last_io = now := by
  cases h <;> rfl

/-- A step keeps the time of a socket's last input or output, or sets it to the present; it is zero at first. -/
theorem SocketStep.last_io {o o' : Option Sk} (h : SocketStep cfg env s pc id o o') (hsk' : o' = some sk') :
    (∃ sk, o = some sk ∧ sk'.ts_last_io = sk.ts_last_io) ∨ sk'.ts_last_io = s.now ∨ sk'.ts_last_io = .zero := by
  have hcore {sk sk1 : Sk} (h : sk1.core = sk.core) : sk1.ts_last_io = sk.ts_last_io := congrArg Sk.Core.ts_last_io h
  cases h with
  | same => exact .inl ⟨sk', hsk', rfl⟩
  | accepted a events todo hpc =>
    cases hsk'
    exact .inr (.inr rfl)
  | opened fd id' todo hpc =>
    cases hsk'
    exact .inr (.inr rfl)
  | handshakeFailed todo sk sk1 rv wsd_errno hpc hrecv hfailed =>
    cases hsk'
    refine .inl ⟨sk, rfl, ?_⟩
    rw [hfailed.sk_eq]
  | handshakeDone todo sk sk1 rv hpc hrecv hdone =>
    cases hsk'
    refine .inl ⟨sk, rfl, ?_⟩
    rw [hdone.sk_eq]
    rfl
  | decoded frames todo sk p pp2sk rv c' hpc hclient hup hpp hdecoded hnext =>
    cases hsk'
    obtain ⟨events, hleave⟩ := ws_recv_leave_sk rv frames c'
    rw [hleave]
    exact .inl ⟨sk, rfl, hcore hdecoded.core.1⟩
  | forwarded id' frames todo sk pp2sk rv c' hpc hclient hpp hdecoded =>
    cases hsk'
    obtain ⟨events, hleave⟩ := ws_recv_leave_pp2sk rv frames c'
    rw [hleave]
    exact .inl ⟨pp2sk, rfl, hcore hdecoded.core.2⟩
  | demuxed frames todo pp2sk rv m' hpc hpp hdemuxed =>
    cases hsk'
    obtain ⟨events, hleave⟩ := pp2_recv_leave_sk rv frames m'.pp2sk
    rw [hleave]
    exact .inl ⟨pp2sk, rfl, hcore hdemuxed.core⟩
  | delivered p frames todo pp2sk sk sk1 rv m' hpc hpp hne hdemuxed hclient hclient' =>
    cases hsk'
    obtain ⟨cl, hcl, hcl'⟩ := hdemuxed.clients_core hclient'
    cases hclient.symm.trans hcl
    exact .inl ⟨sk, rfl, hcore hcl'⟩
  | started todo sk sendbuf hpc hquiet hproto hsend =>
    cases hsk'
    exact .inl ⟨sk, rfl, rfl⟩
  | pinged todo sk sendbuf hpc hquiet hproto hsend =>
    cases hsk'
    exact .inl ⟨sk, rfl, rfl⟩
  | read events todo sk bytes hpc hflag hclose hread hne hroom =>
    cases hsk'
    exact .inr (.inl rfl)
  | readFull events todo sk hpc hflag hclose hroom =>
    cases hsk'
    exact .inr (.inl rfl)
  | readFailed events todo sk retries hpc hflag hclose =>
    cases hsk'
    exact .inr (.inl rfl)
  | written events todo sk sk1 hpc hwritten hclose hdrained =>
    cases hsk'
    exact .inr (.inl hwritten.last_io)
  | gone => cases hsk'

/-- The clock of a run and the times which it has given the sockets. -/
structure State.Timed (s : State) : Prop where
  now : s.now.Normal
  socket : ∀ id sk, s.world.get id = some sk → sk.ts_last_io.Shown s.now

/-- Only the start of an iteration reads the clock. -/
theorem Stepped.now_cases (h : Stepped cfg ssl env s s') : s'.now = s.now ∨ s.pc = .iteration ∧ s'.now = env.clock := by
  cases h with
  | iteration hpc hdone => exact .inr ⟨hpc, rfl⟩
  | _ => exact .inl rfl

theorem Stepped.now_le (hvalid : env.Valid cfg s) (h : Stepped cfg ssl env s s') : s.now.nanos ≤ s'.now.nanos :=
  nanos_le_of_read h.now_cases hvalid.1

theorem Stepped.timed (hwf : s.Wf) (htimed : s.Timed) (hvalid : env.Valid cfg s) (h : Stepped cfg ssl env s s') :
    s'.Timed := by
  have hnow := normal_of_read h.now_cases hvalid.1 htimed.now
  have hle := h.now_le hvalid
  refine ⟨hnow, fun id sk' hget' => ?_⟩
  obtain ⟨sk, hget, hsame⟩ | hset | hzero := (h.socket hwf id).last_io hget'
  · rw [hsame]
    exact (htimed.socket id sk hget).later hle
  · rw [hset]
    exact htimed.now.shown.later hle
  · rw [hzero]
    exact hnow.zero_shown

theorem reach_timed {P : State → Env → Prop} (h : (daemon cfg ssl).Reach P s) : s.Timed := by
  refine reach_invariant h ⟨Timespec.normal_zero, fun id sk hget => nomatch hget⟩ ?_
  intro s s' env hwf htimed hvalid hP hstepped
  exact hstepped.timed hwf htimed hvalid

end LastIo

section Checks

variable {cfg : Config} {ssl : Openssl} {now : Timespec} {env : Env} {s s' : State}
  {w w' : World} {id : Nat} {sk : Sk}

/-- A ping frame is put into the send buffer of a socket whose timeouts are checked. -/
def Pings (id : Nat) (m : Move State Env) : Prop :=
  ∃ todo sk events, m.before.pc = .check_timeouts (id :: todo) ∧ m.before.world.get id = some sk ∧
    m.after.world.get id =
      some { sk with sendbuf := skb_put sk.sendbuf (pingPongFrame WS_PING_FRAME false), events }

/-- An event is handled on which a socket is read or written. -/
def HandlesIo (id : Nat) (m : Move State Env) : Prop :=
  ∃ events todo, m.before.pc = .on_event ((some id, events) :: todo) ∧
    (events.EPOLLIN = true ∨ events.EPOLLPRI = true ∨ events.EPOLLOUT = true)

theorem length_pingPongFrame (opcode : UInt8) (do_mask : Bool) :
    (pingPongFrame opcode do_mask).length = if do_mask then WS_MASKED_FRAME_LEN else WS_UNMASKED_FRAME_LEN := by
  cases do_mask <;> rfl

/-- A frame moves the write position. -/
theorem skb_put_ping_ne (b : Skb) (do_mask : Bool) : skb_put b (pingPongFrame WS_PING_FRAME do_mask) ≠ b := by
  intro heq
  have hpos : u32 (b.wrpos + (pingPongFrame WS_PING_FRAME do_mask).length) = b.wrpos := congrArg Skb.wrpos heq
  rw [length_pingPongFrame] at hpos
  unfold u32 at hpos
  cases do_mask with
  | false =>
    simp only [WS_UNMASKED_FRAME_LEN, Bool.false_eq_true, if_false] at hpos
    omega
  | true =>
    simp only [WS_MASKED_FRAME_LEN, if_true] at hpos
    omega

/-- Without a ping the check leaves a socket alone, starts its closing handshake or closes it. -/
theorem check_timeouts_silent (hwf : w.Wf) (hget : w.get id = some sk)
    (hdue : check_timeout sk now cfg.ping_interval = false) (h : check_timeouts cfg now w id = .ok w') :
    w'.get id = none ∨ w'.get id = some sk ∨ ∃ sk', w'.get id = some sk' ∧ sk'.closing ≠ sk.closing := by
  unfold check_timeouts at h
  obtain ⟨sk0, hderef, h⟩ := Except.bind_eq_ok_iff.mp h
  cases (World.deref_eq_ok hderef).symm.trans hget
  obtain ⟨⟨idle, sk1, e⟩, hidle, hrest⟩ := Except.bind_eq_ok_iff.mp h
  simp only at hrest
  have hkind : sk1.ops = sk.ops ∧ sk1.proto = sk.proto := by
    obtain ⟨-, rfl⟩ | ⟨-, rfl, -⟩ | ⟨-, -, -, sendbuf, -, rfl⟩ := check_idle_inv hidle <;> exact ⟨rfl, rfl⟩
  have hset := hwf.set hget (fun hc => hc.of_eq hkind.1 hkind.2) (fun hb => hb.of_eq hkind.1 hkind.2)
  have hclosed (hclose : close { w.set id sk1 with wsd_errno := e } id = .ok w') : w'.get id = none := by
    have hclosed := @close_get { w.set id sk1 with wsd_errno := e } w' id sk1 ⟨hset.client, hset.backend⟩
      (World.get_set_self w id sk1) hclose
    rw [hclosed.get_eq, Function.update_self]
  cases idle with
  | true =>
    rw [if_pos rfl] at hrest
    exact .inl (hclosed hrest)
  | false =>
    rw [if_neg (by decide)] at hrest
    obtain ⟨timedOut, htimeout, hrest⟩ := Except.bind_eq_ok_iff.mp hrest
    cases timedOut with
    | true =>
      rw [if_pos rfl] at hrest
      exact .inl (hclosed hrest)
    | false =>
      rw [if_neg (by decide)] at hrest
      obtain ⟨-, rfl⟩ | ⟨hno, -⟩ | ⟨-, hquiet, -, sendbuf, -, rfl⟩ := check_idle_inv hidle
      · rw [hdue, if_neg (by decide)] at hrest
        cases hrest
        exact .inr (.inl (World.get_set_self w id sk1))
      · cases hno
      · -- The closing handshake has just been started.
        have hsilent (sk' : Sk) (hclosing : sk'.closing = true) : check_timeout sk' now cfg.ping_interval = false := by
          simp [check_timeout, hclosing]
        rw [hsilent _ rfl, if_neg (by decide)] at hrest
        cases hrest
        refine .inr (.inr ⟨_, World.get_set_self w id _, fun heq => ?_⟩)
        rw [hquiet.1] at heq
        cases heq

/-- A socket which is pinged has been found to be due. -/
theorem Pings.due (hwf : s.Wf) (hstep : step cfg ssl env s = .ok s') (h : Pings id ⟨s, env, s'⟩) :
    s'.now = s.now ∧ ∃ sk, s.world.get id = some sk ∧ check_timeout sk s.now cfg.ping_interval = true := by
  obtain ⟨todo, sk, events, hpc, hget, hget'⟩ := h
  simp only at hpc hget hget'
  unfold step at hstep
  simp only [hpc] at hstep
  obtain ⟨world, hcheck, hret⟩ := Except.bind_eq_ok_iff.mp hstep
  cases hret
  refine ⟨rfl, sk, hget, ?_⟩
  cases hdue : check_timeout sk s.now cfg.ping_interval with
  | true => rfl
  | false =>
    have hsilent := check_timeouts_silent hwf.world hget hdue hcheck
    rw [hget'] at hsilent
    obtain hnone | hsame | ⟨sk', hsk', hclosing⟩ := hsilent
    · cases hnone
    · exact absurd (congrArg Sk.sendbuf (Option.some.inj hsame)) (skb_put_ping_ne sk.sendbuf false)
    · cases hsk'
      exact absurd rfl hclosing

/-- Every read or write of a socket which stays open sets the time of its last input or output. -/
theorem on_epoll_event_last_io {events : EpollEvents} {sk' : Sk} (hwf : w.Wf)
    (hio : events.EPOLLIN = true ∨ events.EPOLLPRI = true ∨ events.EPOLLOUT = true)
    (h : on_epoll_event cfg env.read env.write env.retry now w id events = .ok w') (hget' : w'.get id = some sk') :
    sk'.ts_last_io = now := by
  have hset {sk1 : Sk} (hlast : sk1.ts_last_io = now) (hsame : w'.get id = (w.set id sk1).get id) :
      sk'.ts_last_io = now := by
    rw [World.get_set_self] at hsame
    cases hsame.symm.trans hget'
    exact hlast
  have hgone {w1 : World} {sk1 : Sk} (hclosed : Closed w1 id sk1 w') : sk'.ts_last_io = now := by
    rw [hclosed.get_eq, Function.update_self] at hget'
    cases hget'
  unfold on_epoll_event at h
  obtain ⟨sk, -, h⟩ := Except.bind_eq_ok_iff.mp h
  obtain ⟨-, -, h⟩ := Except.bind_eq_ok_iff.mp h
  by_cases hread : events.EPOLLIN = true ∨ events.EPOLLPRI = true
  · rw [if_pos hread] at h
    obtain ⟨sk, hget, -, -, hread⟩ := on_read_inv hwf h
    cases hread with
    | bytes bytes wsd_errno w' hread hne hroom hposted =>
      obtain ⟨linked, -, rfl⟩ := hposted
      exact @hset { sk with recvbuf := skb_put sk.recvbuf bytes, ts_last_io := now } rfl rfl
    | full wsd_errno w' hroom hposted =>
      obtain ⟨linked, -, rfl⟩ := hposted
      exact @hset { turn_off_events sk EPOLLIN with ts_last_io := now } rfl rfl
    | retry retries wsd_errno num => exact @hset { sk with ts_last_io := now, retries } rfl rfl
    | closed retries wsd_errno num w' hfails hclosed => exact hgone hclosed
  · rw [if_neg hread] at h
    have hout : events.EPOLLOUT = true := by
      obtain hin | hpri | hout := hio
      · exact absurd (.inl hin) hread
      · exact absurd (.inr hpri) hread
      · exact hout
    rw [if_pos hout] at h
    obtain ⟨sk, sk1, wsd_errno, hget, hwritten, ⟨rfl, -, -⟩ | ⟨-, hclosed⟩⟩ := on_write_inv hwf h
    · exact hset hwritten.last_io rfl
    · exact hgone hclosed

theorem HandlesIo.last_io {sk' : Sk} (hwf : s.Wf) (hstep : step cfg ssl env s = .ok s')
    (h : HandlesIo id ⟨s, env, s'⟩) (hget' : s'.world.get id = some sk') : sk'.ts_last_io = s.now := by
  obtain ⟨events, todo, hpc, hio⟩ := h
  simp only at hpc
  unfold step at hstep
  simp only [hpc] at hstep
  obtain ⟨world, hevent, hret⟩ := Except.bind_eq_ok_iff.mp hstep
  cases hret
  exact on_epoll_event_last_io hwf.world hio hevent hget'

/-- The socket has had its last input or output at the given time or later, if it has had any. -/
def UsedSince (id : Nat) (t : Int) (s : State) : Prop :=
  ∀ sk, s.world.get id = some sk → sk.ts_last_io ≠ .zero → t ≤ sk.ts_last_io.nanos

/-- The timer of a socket's pings is started by its input and output. -/
theorem ping_timer (cfg : Config) (ssl : Openssl) (P : State → Env → Prop) (id : Nat) (hint : cfg.ping_interval < 2 ^ 31) :
    (daemon cfg ssl).Timer P (fun s => s.now.nanos) (UsedSince id) (HandlesIo id) (Pings id)
      (cfg.ping_interval * 1000000) where
  mono hreach hvalid _ hs := (step_inv (reach_wf hreach) hs).now_le hvalid
  keeps hreach hvalid _ hs hle hsince sk' hget' hne := by
    have hwf := reach_wf hreach
    obtain ⟨sk, hget, hsame⟩ | hset | hzero := ((step_inv hwf hs).socket hwf id).last_io hget'
    · rw [hsame] at hne ⊢
      exact hsince sk hget hne
    · rw [hset]
      exact hle
    · exact absurd hzero hne
  starts hreach _ _ hs hle hstart sk' hget' _ := by
    rw [hstart.last_io (reach_wf hreach) hs hget']
    exact hle
  rings hreach _ _ hs hsince hring := by
    obtain ⟨hnow, sk, hget, hdue⟩ := hring.due (reach_wf hreach) hs
    have htimed := reach_timed hreach
    rw [hnow]
    exact lt_of_check_timeout (htimed.socket id sk hget) htimed.now hint (hsince sk hget) hdue

/-- A socket whose closing has not begun gets the whole frame if there is room for it. -/
theorem ws_ping_eq {do_mask : Bool} (wsd_errno : Errno) (hclosing : sk.closing = false)
    (hrd : sk.sendbuf.rdpos ≤ sk.sendbuf.wrpos)
    (hwr : sk.sendbuf.wrpos + (pingPongFrame WS_PING_FRAME do_mask).length ≤ SKB_SIZE) :
    ws_ping sk do_mask wsd_errno = .ok (0, { sk with
      sendbuf := skb_put sk.sendbuf (pingPongFrame WS_PING_FRAME do_mask)
      events := sk.events.union EPOLLOUT }, wsd_errno) := by
  have hok : sk.sendbuf.Ok := ⟨hrd, Nat.le_trans (Nat.le_add_right _ _) hwr⟩
  have hroom : ¬ skb_wrsz sk.sendbuf < (pingPongFrame WS_PING_FRAME do_mask).length := by
    rw [hok.wrsz_eq]
    omega
  have hopen : assert .ws_ping_closing (!sk.closing) = .ok () := by
    rw [hclosing]
    exact assert_true _
  unfold ws_ping put_ping_pong
  rw [hopen, Except.ok_bind, encode_ping_pong_frame_eq WS_PING_FRAME do_mask wsd_errno hok, if_neg hroom, Except.ok_bind]
  simp only [true_and, Except.pure_eq_ok, Except.ok.injEq, Prod.mk.injEq, and_true]
  exact turn_on_out { sk with sendbuf := skb_put sk.sendbuf (pingPongFrame WS_PING_FRAME do_mask) }

/-- The address of the socket whose timeouts are checked next. -/
def Pc.checked : Pc → Option Nat
  | .check_timeouts (id :: _) => some id
  | _ => none

/-- What is enough for the next step to ping the socket. -/
def PingDue (cfg : Config) (id : Nat) (s : State) : Prop :=
  s.pc.checked = some id ∧ cfg.idle_timeout = -1 ∧ ∃ sk ∈ s.world.get id, sk.proto.ping = some .ws_ping ∧
    check_timeout sk s.now cfg.ping_interval = true ∧ sk.sendbuf.rdpos ≤ sk.sendbuf.wrpos ∧
    sk.sendbuf.wrpos + (pingPongFrame WS_PING_FRAME false).length ≤ SKB_SIZE

instance (cfg : Config) (id : Nat) (s : State) : Decidable (PingDue cfg id s) :=
  inferInstanceAs (Decidable (_ ∧ _ ∧ ∃ sk ∈ s.world.get id, _ ∧ _ ∧ _ ∧ _))

theorem PingDue.pings (h : PingDue cfg id s) (hstep : step cfg ssl env s = .ok s') : Pings id ⟨s, env, s'⟩ := by
  obtain ⟨hpc, hidle, sk, hget, hproto, hdue, hrd, hwr⟩ := h
  obtain ⟨todo, hpc⟩ : ∃ todo, s.pc = .check_timeouts (id :: todo) := by
    unfold Pc.checked at hpc
    split at hpc
    · rename_i id' todo heq
      cases hpc
      exact ⟨todo, heq⟩
    · cases hpc
  unfold step at hstep
  simp only [hpc] at hstep
  obtain ⟨world, hcheck, hret⟩ := Except.bind_eq_ok_iff.mp hstep
  cases hret
  unfold check_timeouts at hcheck
  obtain ⟨sk0, hderef, hcheck⟩ := Except.bind_eq_ok_iff.mp hcheck
  cases (World.deref_eq_ok hderef).symm.trans hget
  rw [check_idle, if_neg (fun h => h.1 hidle), Except.ok_bind] at hcheck
  obtain ⟨timedOut, htimeout, hcheck⟩ := Except.bind_eq_ok_iff.mp hcheck
  have hclosing := (check_timeout_flags hdue).1
  obtain rfl : timedOut = false := by
    rw [(check_closing_handshake_timeout_inv htimeout).2, hclosing, Bool.false_and]
  simp only [Bool.false_eq_true, if_false, hdue, if_true, hproto, ping,
    ws_ping_eq s.world.wsd_errno hclosing hrd hwr, Except.ok_bind, World.set_set, Except.pure_eq_ok, Except.ok.injEq]
    at hcheck
  subst hcheck
  exact ⟨todo, sk, sk.events.union EPOLLOUT, hpc, hget, World.get_set_self _ id _⟩

end Checks

end wsd
