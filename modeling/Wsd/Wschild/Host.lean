import Wsd.RoundRobin
import Wsd.Wschild.Invariant

namespace wsd

/-- The number of the host behind the given one. -/
def next_num (cfg : Config) : Nat → Nat :=
  RoundRobin.next cfg.fhostname_num.toNat

/-- The socket on which a read fails in a step: it reports an error or the end of the
    stream. -/
def State.failing (s : State) (env : Env) : Option (Nat × Sk) :=
  match s.pc with
  | .on_event ((some id, events) :: _) =>
    match s.world.get id with
    | none => none
    | some sk =>
      if (events.EPOLLIN ∨ events.EPOLLPRI) ∧ skb_wrsz sk.recvbuf ≠ 0 ∧ env.read.len = 0 then some (id, sk) else none
  | _ => none

/-- A client's frames are about to be received while the backend's socket is closed. -/
def State.opening (s : State) : Bool :=
  match s.pc with
  | .try_recv (id :: _) =>
    match s.world.get id with
    | none => false
    | some sk => sk.ops.recv = some .ws_recv ∧ s.world.pp2sk = none
  | _ => false

/-- The number of hosts, from the first attempt on, whose name cannot be resolved. -/
def unresolved : List OpenResult → Nat → Nat
  | _, 0 => 0
  | opens, retries + 1 => if opens.headD .no_socket = .no_address then unresolved opens.tail retries + 1 else 0

/-- How many hosts a step goes on. -/
def State.turns (cfg : Config) (s : State) (env : Env) : Nat :=
  if (s.failing env).isSome then (if env.retry then 1 else 0)
  else if s.opening then unresolved env.opens cfg.fhostname_num.toNat else 0

/-- The hosts to which `open_loop` applies `sk_open`. -/
def open_hosts (cfg : Config) : List OpenResult → Nat → Nat → List Nat
  | _, 0, _ => []
  | opens, retries + 1, num =>
    num :: if opens.headD .no_socket = .no_address then open_hosts cfg opens.tail retries (next_num cfg num) else []

/-- The backend's socket is the same one, whatever its fields are, or it is closed. -/
def KeepsBackend (w w' : World) : Prop :=
  w'.pp2sk = none ∨ w'.pp2sk.map Prod.fst = w.pp2sk.map Prod.fst

section Num

variable {cfg : Config} {ssl : Openssl} {env : Env} {s s' : State} {w w' : World} {id : Nat} {sk : Sk}
  {pc : Pc}

theorem next_host_num : (next_host cfg w).num = next_num cfg w.num := rfl

@[simp] theorem World.num_set (w : World) (id : Nat) (sk : Sk) : (w.set id sk).num = w.num := by
  obtain ⟨clients, pp2sk, h⟩ := w.set_eq id sk
  rw [h]

/-- Each host whose name cannot be resolved makes `open_loop` go on with the next one. -/
theorem open_loop_num (opens : List OpenResult) (retries : Nat) (w : World) :
    (open_loop cfg opens retries w).2.num = (next_num cfg)^[unresolved opens retries] w.num := by
  induction retries generalizing opens w with
  | zero => rfl
  | succ retries ih =>
    unfold open_loop unresolved
    cases hopen : opens.headD .no_socket with
    | no_address =>
      simp only [sk_open, show (-1 : Int) < 0 by decide, and_self, if_true, ih, next_host_num, Function.iterate_succ,
        Function.comp_apply]
    | _ => simp [sk_open]

theorem Closed.num_eq (h : Closed w id sk w') : w'.num = w.num := by
  cases h <;> rfl

theorem TryRecv.num_eq {rv : Int} (h : TryRecv w id rv w') : w'.num = w.num := by
  cases h with
  | closed sk w' hrv hinput hagain hget hclose hclosed => exact hclosed.num_eq
  | _ => rfl

theorem WsRecvStep.num_eq {frames : Nat} {todo : List Nat} {c : Conn}
    (h : WsRecvStep w id frames todo c w' pc) : w'.num = w.num := by
  cases h with
  | frame => rfl
  | done rv c' w' hrv hdecoded htry => exact htry.num_eq

theorem Pp2RecvStep.num_eq {frames : Nat} {todo : List Nat} {m : Mux}
    (h : Pp2RecvStep w id frames todo m w' pc) : w'.num = w.num := by
  cases h with
  | frame => rfl
  | done rv m' w' hrv hdemuxed htry => exact htry.num_eq

theorem CheckTimeouts.num_eq {now : Timespec} (h : CheckTimeouts cfg now w id sk w') : w'.num = w.num := by
  cases h with
  | idle wsd_errno w' hquiet hidle hclosed => exact hclosed.num_eq.trans (World.num_set ..)
  | timedOut wsd_errno w' hclosing htimedOut hclosed => exact hclosed.num_eq.trans (World.num_set ..)
  | _ => exact World.num_set ..

/-- A failing read with one of the four errors turns to the next host; the socket is
    closed with the last of its attempts, or when the error is another one. -/
theorem on_read_failed {read : ReadResult} {retry : Bool} {now : Timespec} (hwf : w.Wf) (hget : w.get id = some sk)
    (hroom : skb_wrsz sk.recvbuf ≠ 0) (hread : read.len = 0) (h : on_read cfg read retry now w id = .ok w') :
    w'.num = (if retry then next_num cfg w.num else w.num) ∧
      w'.get id = if retry ∧ sk.retries + 1 < cfg.fhostname_num then
        some { sk with ts_last_io := now, retries := sk.retries + 1 } else none := by
  unfold on_read at h
  obtain ⟨sk0, hderef, h⟩ := Except.bind_eq_ok_iff.mp h
  have hsk : sk0 = sk := Option.some.inj ((World.deref_eq_ok hderef).symm.trans hget)
  subst hsk
  obtain ⟨_, _, h⟩ := Except.bind_eq_ok_iff.mp h
  obtain ⟨_, _, h⟩ := Except.bind_eq_ok_iff.mp h
  obtain ⟨⟨rv, sk1, e⟩, hsk_read, hrest⟩ := Except.bind_eq_ok_iff.mp h
  simp only at hrest
  obtain ⟨bytes, rfl, hne, -⟩ | ⟨hfull, -⟩ | ⟨rfl, rfl, rfl, -, -⟩ := sk_read_cases hsk_read
  · exact absurd (List.length_eq_zero_iff.mp hread) hne
  · exact absurd hfull hroom
  rw [if_pos ⟨by decide, by decide⟩, if_pos rfl] at hrest
  have hclosed (retries : UInt8) (num : Nat)
      (hclose : close { w.set id { sk1 with ts_last_io := now, retries } with wsd_errno := .WSD_CHECKERRNO, num } id =
        .ok w') : w'.num = num ∧ w'.get id = none := by
    have hset := @World.Wf.set _ _ _ { sk1 with ts_last_io := now, retries } hwf hget (fun hc => hc.of_eq rfl rfl)
      (fun hb => hb.of_eq rfl rfl)
    have hclosed := @close_get
      { w.set id { sk1 with ts_last_io := now, retries } with wsd_errno := .WSD_CHECKERRNO, num } w' id
      { sk1 with ts_last_io := now, retries } ⟨hset.client, hset.backend⟩ (World.get_set_self w id _) hclose
    refine ⟨hclosed.num_eq, ?_⟩
    rw [hclosed.get_eq, Function.update_self]
  cases retry with
  | false =>
    simp only [check_errno, Bool.false_eq_true, if_false, show ¬ (-1 : Int) = 0 by decide] at hrest
    simp only [Bool.false_eq_true, false_and, if_false]
    exact (World.num_set w id _) ▸ hclosed sk1.retries _ hrest
  | true =>
    simp only [check_errno, if_true, next_host, World.set_set_num, World.num_set] at hrest
    simp only [if_true, true_and]
    by_cases hless : sk1.retries + 1 < cfg.fhostname_num
    · rw [if_pos hless] at hrest ⊢
      cases hrest
      exact ⟨rfl, World.get_set_self w id _⟩
    · rw [if_neg hless] at hrest ⊢
      exact hclosed (sk1.retries + 1) _ hrest

theorem Written.retries_eq {write : WriteResult} {now : Timespec} {sk' : Sk} (h : Written write now sk sk') :
    sk'.retries = sk.retries := by
  cases h <;> rfl

theorem Posted.num_eq (h : Posted w id sk w') : w'.num = w.num := by
  obtain ⟨linked, -, rfl⟩ := h
  rfl

theorem Posted.get_eq (h : Posted w id sk w') : w'.get = w.get := by
  obtain ⟨linked, -, rfl⟩ := h
  rfl

/-- A read which does not fail leaves the number of the host alone. -/
theorem on_read_kept {read : ReadResult} {retry : Bool} {now : Timespec} (hget : w.get id = some sk)
    (hkept : ¬ (skb_wrsz sk.recvbuf ≠ 0 ∧ read.len = 0)) (h : on_read cfg read retry now w id = .ok w') :
    w'.num = w.num ∧ ∃ sk', w'.get id = some sk' ∧ sk'.retries = sk.retries := by
  unfold on_read at h
  obtain ⟨sk0, hderef, h⟩ := Except.bind_eq_ok_iff.mp h
  have hsk : sk0 = sk := Option.some.inj ((World.deref_eq_ok hderef).symm.trans hget)
  subst hsk
  obtain ⟨_, _, h⟩ := Except.bind_eq_ok_iff.mp h
  obtain ⟨_, hclose, h⟩ := Except.bind_eq_ok_iff.mp h
  have hopen : sk0.close = false := by simpa using assert_eq_ok_iff.mp hclose
  obtain ⟨⟨rv, sk1, e⟩, hsk_read, hrest⟩ := Except.bind_eq_ok_iff.mp h
  simp only at hrest
  have hposted (hrv : ¬ (rv < 0 ∧ e ≠ .WSD_EAGAIN)) (hkeeps : sk1.close = false ∧ sk1.retries = sk0.retries) :
      w'.num = w.num ∧ ∃ sk', w'.get id = some sk' ∧ sk'.retries = sk0.retries := by
    rw [if_neg hrv] at hrest
    obtain ⟨w1, hpost, hret⟩ := Except.bind_eq_ok_iff.mp hrest
    rw [hkeeps.1, if_neg (by decide)] at hret
    cases hret
    have hposted := post_read_inv (w := { w.set id { sk1 with ts_last_io := now } with wsd_errno := e })
      (World.get_set_self w id _) hpost
    refine ⟨hposted.num_eq.trans (World.num_set ..), { sk1 with ts_last_io := now }, ?_, hkeeps.2⟩
    rw [hposted.get_eq]
    exact World.get_set_self w id _
  obtain ⟨bytes, -, -, -, hrv, hsk⟩ | ⟨-, he, hsk⟩ | ⟨-, -, -, hroom, hend⟩ := sk_read_cases hsk_read
  · rw [hsk] at hposted
    exact hposted (by simp [hrv]) ⟨hopen, rfl⟩
  · rw [hsk] at hposted
    exact hposted (by simp [he]) ⟨hopen, rfl⟩
  · refine absurd ⟨hroom, ?_⟩ hkept
    obtain rfl | rfl := hend
    · rfl
    · rfl

theorem on_epoll_event_num {now : Timespec} {events : EpollEvents} (hwf : w.Wf) (hget : w.get id = some sk)
    (h : on_epoll_event cfg env.read env.write env.retry now w id events = .ok w') :
    if (events.EPOLLIN ∨ events.EPOLLPRI) ∧ skb_wrsz sk.recvbuf ≠ 0 ∧ env.read.len = 0 then
      w'.num = (if env.retry then next_num cfg w.num else w.num) ∧
        w'.get id = if env.retry ∧ sk.retries + 1 < cfg.fhostname_num then
          some { sk with ts_last_io := now, retries := sk.retries + 1 } else none
    else
      w'.num = w.num ∧ ∀ sk', w'.get id = some sk' → sk'.retries = sk.retries := by
  have hevent := on_epoll_event_inv hwf h
  unfold on_epoll_event at h
  obtain ⟨sk0, hderef, h⟩ := Except.bind_eq_ok_iff.mp h
  have hsk : sk0 = sk := Option.some.inj ((World.deref_eq_ok hderef).symm.trans hget)
  subst hsk
  obtain ⟨_, _, h⟩ := Except.bind_eq_ok_iff.mp h
  by_cases hin : events.EPOLLIN = true ∨ events.EPOLLPRI = true
  · rw [if_pos hin] at h
    by_cases hfail : skb_wrsz sk0.recvbuf ≠ 0 ∧ env.read.len = 0
    · rw [if_pos ⟨hin, hfail⟩]
      exact on_read_failed hwf hget hfail.1 hfail.2 h
    · rw [if_neg fun hall => hfail hall.2]
      obtain ⟨hnum, sk', hget', hretries⟩ := on_read_kept hget hfail h
      refine ⟨hnum, fun sk1 hsk1 => ?_⟩
      rw [hget'] at hsk1
      cases hsk1
      exact hretries
  · rw [if_neg fun hall => hin hall.1]
    obtain ⟨sk1, hget1, hevent⟩ := hevent
    have hsk : sk1 = sk0 := Option.some.inj (hget1.symm.trans hget)
    subst hsk
    cases hevent with
    | read w' hevents => exact absurd hevents hin
    | write sk' wsd_errno hwritten =>
      refine ⟨World.num_set .., fun sk2 hsk2 => ?_⟩
      have hsk : sk' = sk2 := Option.some.inj ((World.get_set_self w id sk').symm.trans hsk2)
      subst hsk
      exact hwritten.retries_eq
    | writeClosed sk' wsd_errno w' hevents hends hwritten hclosed =>
      refine ⟨hclosed.num_eq.trans (World.num_set ..), fun sk2 hsk2 => ?_⟩
      rw [hclosed.get_eq, Function.update_self] at hsk2
      cases hsk2
    | closed w' hevents hclosed =>
      refine ⟨hclosed.num_eq, fun sk2 hsk2 => ?_⟩
      rw [hclosed.get_eq, Function.update_self] at hsk2
      cases hsk2
    | unchanged =>
      refine ⟨rfl, fun sk2 hsk2 => ?_⟩
      rw [hget] at hsk2
      cases hsk2
      rfl

/-- The opening of the backend's socket, whatever the receive loop finds afterwards. -/
theorem recv_step_num {todo : List Nat} (hwf : w.Wf) (hget : w.get id = some sk)
    (h : recv_step cfg ssl env w id todo = .ok (w', pc)) :
    w'.num = if sk.ops.recv = some .ws_recv ∧ w.pp2sk = none then
      (next_num cfg)^[unresolved env.opens cfg.fhostname_num.toNat] w.num else w.num := by
  have hrecv := recv_step_inv hwf h
  obtain ⟨sk0, hget0, hrecv⟩ := hrecv
  have hsk : sk0 = sk := Option.some.inj (hget0.symm.trans hget)
  subst hsk
  by_cases hopening : sk0.ops.recv = some .ws_recv ∧ w.pp2sk = none
  · rw [if_pos hopening, ← open_loop_num]
    unfold recv_step at h
    obtain ⟨sk1, hderef, h⟩ := Except.bind_eq_ok_iff.mp h
    have hsk : sk1 = sk0 := Option.some.inj ((World.deref_eq_ok hderef).symm.trans hget)
    subst hsk
    rw [hopening.1] at h
    obtain ⟨⟨rv, w1⟩, henter, hrest⟩ := Except.bind_eq_ok_iff.mp h
    have hopen := (ws_recv_enter_inv hget henter).2
    rw [hopening.2, Option.isNone_none, if_pos rfl] at hopen
    rw [hopen]
    by_cases hrv : rv < 0
    · simp only [if_pos hrv] at hrest
      obtain ⟨w2, htry, hret⟩ := Except.bind_eq_ok_iff.mp hrest
      cases hret
      obtain ⟨-, e, num, hw1⟩ | ⟨hzero, -⟩ := open_loop_inv hopen
      · rw [hw1] at htry ⊢
        exact (try_recv_result_inv (w := { w with wsd_errno := e, num }) ⟨hwf.client, hwf.backend⟩ htry).num_eq
      · rw [hzero] at hrv
        exact absurd hrv (by decide)
    · simp only [if_neg hrv] at hrest
      cases hrest
      rfl
  · rw [if_neg hopening]
    cases hrecv with
    | http sk' statics wsd_errno rv w' hrecv hhttp htry => exact htry.num_eq.trans (World.num_set ..)
    | opened fd wsd_errno num hrecv hrdsz hpp => exact absurd ⟨hrecv, hpp⟩ hopening
    | notOpened wsd_errno num w' hrecv hrdsz hpp => exact absurd ⟨hrecv, hpp⟩ hopening
    | _ => rfl

theorem State.failing_eq_some (h : s.failing env = some (id, sk)) : ∃ events todo,
    s.pc = .on_event ((some id, events) :: todo) ∧ s.world.get id = some sk ∧
      (events.EPOLLIN ∨ events.EPOLLPRI) ∧ skb_wrsz sk.recvbuf ≠ 0 ∧ env.read.len = 0 := by
  unfold State.failing at h
  split at h
  · rename_i id' events todo hpc
    split at h
    · cases h
    · rename_i sk' hget
      split at h
      · rename_i hfails
        cases h
        exact ⟨events, todo, hpc, hget, hfails⟩
      · cases h
  · cases h

theorem State.failing_on_event {events : EpollEvents} {todo : List (Option Nat × EpollEvents)}
    (hpc : s.pc = .on_event ((some id, events) :: todo)) (hget : s.world.get id = some sk) :
    s.failing env = if (events.EPOLLIN ∨ events.EPOLLPRI) ∧ skb_wrsz sk.recvbuf ≠ 0 ∧ env.read.len = 0 then
      some (id, sk) else none := by
  simp only [State.failing, hpc, hget]

theorem State.opening_try_recv {todo : List Nat} (hpc : s.pc = .try_recv (id :: todo))
    (hget : s.world.get id = some sk) :
    s.opening = decide (sk.ops.recv = some .ws_recv ∧ s.world.pp2sk = none) := by
  simp only [State.opening, hpc, hget]

/-- The handler's call in a step which handles an event. -/
theorem step_on_event {events : EpollEvents} {todo : List (Option Nat × EpollEvents)}
    (hpc : s.pc = .on_event ((some id, events) :: todo)) (h : step cfg ssl env s = .ok s') :
    on_epoll_event cfg env.read env.write env.retry s.now s.world id events = .ok s'.world := by
  unfold step at h
  simp only [hpc] at h
  obtain ⟨world, hevent, hret⟩ := Except.bind_eq_ok_iff.mp h
  cases hret
  exact hevent

/-- The number of the host changes by the hosts which a step goes on. -/
theorem step_num (hwf : s.Wf) (h : step cfg ssl env s = .ok s') :
    s'.world.num = (next_num cfg)^[s.turns cfg env] s.world.num := by
  cases step_inv hwf h with
  | try_recv id todo sk world pc hpc hget hrecv =>
    unfold step at h
    simp only [hpc] at h
    obtain ⟨⟨w', pc'⟩, hrecv_step, hret⟩ := Except.bind_eq_ok_iff.mp h
    cases hret
    have hnum := recv_step_num hwf.world hget hrecv_step
    simp only [State.turns, State.failing, hpc, Option.isSome_none, Bool.false_eq_true, if_false,
      State.opening_try_recv hpc hget, decide_eq_true_eq]
    split at hnum
    · rename_i hopening
      rw [if_pos hopening]
      exact hnum
    · rename_i hopening
      rw [if_neg hopening]
      exact hnum
  | on_event id events todo sk world hpc hget hevent =>
    have hnum := on_epoll_event_num hwf.world hget (step_on_event hpc h)
    simp only [State.turns, State.failing_on_event hpc hget, State.opening, hpc, Bool.false_eq_true, if_false]
    split at hnum
    · rename_i hcond
      rw [hnum.1, if_pos hcond]
      cases env.retry <;> rfl
    · rename_i hcond
      rw [if_neg hcond]
      exact hnum.1
  | ws_recv id frames todo sk p pp2sk world pc hpc hclient hup hpp hrecv =>
    simp only [State.turns, State.failing, State.opening, hpc]
    exact hrecv.num_eq
  | pp2_recv id frames todo sk world pc hpc hpp hrecv =>
    simp only [State.turns, State.failing, State.opening, hpc]
    exact hrecv.num_eq
  | check_timeouts id todo sk world hpc hget hcheck =>
    simp only [State.turns, State.failing, State.opening, hpc]
    exact hcheck.num_eq
  | shutdown id todo sk world hpc hget hclosed =>
    simp only [State.turns, State.failing, State.opening, hpc]
    exact hclosed.num_eq
  | done hpc => simp [State.turns, State.failing, State.opening, hpc]
  | iteration hpc => simp [State.turns, State.failing, State.opening, hpc]
  | received hpc => simp [State.turns, State.failing, State.opening, hpc]
  | checked hpc => simp [State.turns, State.failing, State.opening, hpc]
  | interrupted hpc => simp [State.turns, State.failing, State.opening, hpc]
  | waited events hpc => simp [State.turns, State.failing, State.opening, hpc]
  | handled hpc => simp [State.turns, State.failing, State.opening, hpc]
  | accepted a events todo hpc => simp [State.turns, State.failing, State.opening, hpc, World.accept]
  | exit hpc => simp [State.turns, State.failing, State.opening, hpc]

/-- A read which fails counts an attempt of its socket, or closes it. -/
theorem step_failing (hwf : s.Wf) (hfails : s.failing env = some (id, sk)) (h : step cfg ssl env s = .ok s') :
    s'.world.get id = if env.retry ∧ sk.retries + 1 < cfg.fhostname_num then
      some { sk with ts_last_io := s.now, retries := sk.retries + 1 } else none := by
  obtain ⟨events, todo, hpc, hget, hcond⟩ := State.failing_eq_some hfails
  have hnum := on_epoll_event_num hwf.world hget (step_on_event hpc h)
  rw [if_pos hcond] at hnum
  exact hnum.2

/-- A socket's attempts are counted by its failing reads only. -/
theorem SocketStep.retries_eq {o : Option Sk} {sk' : Sk} (h : SocketStep cfg env s pc id o (some sk'))
    (hpc : ∀ events todo, s.pc ≠ .on_event ((some id, events) :: todo)) :
    sk'.retries = (o.map Sk.retries).getD 0 := by
  cases h with
  | same => rfl
  | accepted => rfl
  | opened => rfl
  | handshakeFailed todo sk sk' rv wsd_errno hpc hrecv hfailed =>
    rw [hfailed.sk_eq]
    rfl
  | handshakeDone todo sk sk' rv hpc hrecv hdone =>
    rw [hdone.sk_eq]
    rfl
  | decoded frames todo sk p pp2sk rv c' hpc hclient hup hpp hdecoded =>
    obtain ⟨events, hleave⟩ := ws_recv_leave_sk rv frames c'
    rw [hleave]
    exact congrArg Sk.Core.retries hdecoded.core.1
  | forwarded id' frames todo sk pp2sk rv c' hpc hclient hpp hdecoded =>
    obtain ⟨events, hleave⟩ := ws_recv_leave_pp2sk rv frames c'
    rw [hleave]
    exact congrArg Sk.Core.retries hdecoded.core.2
  | demuxed frames todo pp2sk rv m' hpc hpp hdemuxed =>
    obtain ⟨events, hleave⟩ := pp2_recv_leave_sk rv frames m'.pp2sk
    rw [hleave]
    exact congrArg Sk.Core.retries hdemuxed.core
  | delivered p frames todo pp2sk sk sk' rv m' hpc hpp hne hdemuxed hclient hclient' =>
    obtain ⟨cl, hcl, hcore⟩ := hdemuxed.clients_core hclient'
    have hsk : cl = sk := Option.some.inj (hcl.symm.trans hclient)
    rw [← hsk]
    exact congrArg Sk.Core.retries hcore
  | started => rfl
  | pinged => rfl
  | read events todo sk bytes hpc' => exact absurd hpc' (hpc events todo)
  | readFull events todo sk hpc' => exact absurd hpc' (hpc events todo)
  | readFailed events todo sk retries hpc' => exact absurd hpc' (hpc events todo)
  | written events todo sk sk1 hpc' => exact absurd hpc' (hpc events todo)

/-- The attempts of a socket behind a step. -/
theorem step_retries (hwf : s.Wf) (h : step cfg ssl env s = .ok s') {sk' : Sk} (hget' : s'.world.get id = some sk') :
    sk'.retries = ((s.world.get id).map Sk.retries).getD 0 ∨
      ∃ sk, s.failing env = some (id, sk) ∧ env.retry = true ∧ sk.retries + 1 < cfg.fhostname_num ∧
        sk'.retries = sk.retries + 1 := by
  have hsocket := (step_inv hwf h).socket hwf id
  rw [hget'] at hsocket
  by_cases hpc : ∃ events todo, s.pc = .on_event ((some id, events) :: todo)
  · obtain ⟨events, todo, hpc⟩ := hpc
    have hevent := step_on_event hpc h
    obtain ⟨sk, hget, -⟩ := on_epoll_event_inv hwf.world hevent
    have hnum := on_epoll_event_num hwf.world hget hevent
    split at hnum
    · rename_i hcond
      have hfails := @State.failing_on_event env _ _ _ _ _ hpc hget
      rw [if_pos hcond] at hfails
      have hget'' := hnum.2
      rw [hget'] at hget''
      split at hget''
      · rename_i hretry
        cases hget''
        exact Or.inr ⟨sk, hfails, hretry.1, hretry.2, rfl⟩
      · cases hget''
    · rw [hget]
      exact Or.inl (hnum.2 sk' hget')
  · exact Or.inl (hsocket.retries_eq fun events todo hpc' => hpc ⟨events, todo, hpc'⟩)

theorem World.map_pp2sk_set (w : World) (id : Nat) (sk : Sk) :
    (w.set id sk).pp2sk.map Prod.fst = w.pp2sk.map Prod.fst := by
  cases hpp : w.pp2sk with
  | none => simp [World.set, hpp]
  | some pp => by_cases hid : id = pp.1 <;> simp [World.set, hpp, hid]

theorem Closed.keepsBackend (h : Closed w id sk w') : KeepsBackend w w' := by
  cases h with
  | client => exact Or.inr rfl
  | backend => exact Or.inl rfl

theorem Closed.keepsBackend_set {sk' : Sk} {wsd_errno : Errno} {num : Nat}
    (h : Closed { w.set id sk with wsd_errno, num } id sk' w') : KeepsBackend w w' := by
  obtain hnone | hsame := h.keepsBackend
  · exact Or.inl hnone
  · exact Or.inr (hsame.trans (w.map_pp2sk_set id sk))

theorem TryRecv.keepsBackend {rv : Int} (h : TryRecv w id rv w') : KeepsBackend w w' := by
  cases h with
  | closed sk w' hrv hinput hagain hget hclose hclosed => exact hclosed.keepsBackend
  | _ => exact Or.inr rfl

theorem KeepsBackend.trans_map {w1 : World} (h : KeepsBackend w1 w')
    (hsame : w1.pp2sk.map Prod.fst = w.pp2sk.map Prod.fst) : KeepsBackend w w' := by
  obtain hnone | hkept := h
  · exact Or.inl hnone
  · exact Or.inr (hkept.trans hsame)

theorem RecvStep.keepsBackend {todo : List Nat} (h : RecvStep cfg ssl env w id sk todo w' pc) :
    w.pp2sk = none ∨ KeepsBackend w w' := by
  cases h with
  | http sk' statics wsd_errno rv w' hrecv hhttp htry =>
    exact Or.inr (htry.keepsBackend.trans_map (w.map_pp2sk_set id sk'))
  | ws => exact Or.inr (Or.inr rfl)
  | opened fd wsd_errno num hrecv hrdsz hpp => exact Or.inl hpp
  | notOpened wsd_errno num w' hrecv hrdsz hpp => exact Or.inl hpp
  | pp2 => exact Or.inr (Or.inr rfl)

theorem WsRecvStep.keepsBackend {frames : Nat} {todo : List Nat} {c : Conn}
    (h : WsRecvStep w id frames todo c w' pc) : KeepsBackend w w' := by
  have hmap (c' : Conn) : (w.setConn id c').pp2sk.map Prod.fst = w.pp2sk.map Prod.fst := by
    simp only [World.setConn, Option.map_map]
    rfl
  cases h with
  | frame c' => exact Or.inr (hmap c')
  | done rv c' w' hrv hdecoded htry => exact htry.keepsBackend.trans_map (hmap _)

theorem Pp2RecvStep.keepsBackend {frames : Nat} {todo : List Nat} {m : Mux}
    (h : Pp2RecvStep w id frames todo m w' pc) : KeepsBackend w w' := by
  have hmap (m' : Mux) : (w.setMux m').pp2sk.map Prod.fst = w.pp2sk.map Prod.fst := by
    simp only [World.setMux, Option.map_map]
    rfl
  cases h with
  | frame m' => exact Or.inr (hmap m')
  | done rv m' w' hrv hdemuxed htry => exact htry.keepsBackend.trans_map (hmap _)

theorem CheckTimeouts.keepsBackend {now : Timespec} (h : CheckTimeouts cfg now w id sk w') : KeepsBackend w w' := by
  cases h with
  | idle wsd_errno w' hquiet hidle hclosed => exact hclosed.keepsBackend_set
  | timedOut wsd_errno w' hclosing htimedOut hclosed => exact hclosed.keepsBackend_set
  | _ => exact Or.inr (w.map_pp2sk_set id _)

theorem OnEvent.keepsBackend {now : Timespec} {events : EpollEvents} (h : OnEvent cfg env now w id events sk w') :
    KeepsBackend w w' := by
  cases h with
  | read w' hevents hclose_on_write hclose hread =>
    cases hread with
    | bytes bytes wsd_errno w' hread hne hroom hposted =>
      obtain ⟨linked, -, rfl⟩ := hposted
      exact Or.inr (w.map_pp2sk_set id _)
    | full wsd_errno w' hroom hposted =>
      obtain ⟨linked, -, rfl⟩ := hposted
      exact Or.inr (w.map_pp2sk_set id _)
    | retry retries wsd_errno num => exact Or.inr (w.map_pp2sk_set id _)
    | closed retries wsd_errno num w' hfails hclosed => exact hclosed.keepsBackend_set
  | write sk' => exact Or.inr (w.map_pp2sk_set id sk')
  | writeClosed sk' wsd_errno w' hevents hends hwritten hclosed => exact hclosed.keepsBackend_set
  | closed w' hevents hclosed => exact hclosed.keepsBackend
  | unchanged => exact Or.inr rfl

/-- A step opens the backend's socket while it is closed, and replaces it at no other time. -/
theorem Stepped.keepsBackend (h : Stepped cfg ssl env s s') :
    s.world.pp2sk = none ∨ KeepsBackend s.world s'.world := by
  cases h with
  | try_recv id todo sk world pc hpc hget hrecv => exact hrecv.keepsBackend
  | ws_recv id frames todo sk p pp2sk world pc hpc hclient hup hpp hrecv => exact Or.inr hrecv.keepsBackend
  | pp2_recv id frames todo sk world pc hpc hpp hrecv => exact Or.inr hrecv.keepsBackend
  | check_timeouts id todo sk world hpc hget hcheck => exact Or.inr hcheck.keepsBackend
  | on_event id events todo sk world hpc hget hevent => exact Or.inr hevent.keepsBackend
  | shutdown id todo sk world hpc hget hclosed => exact Or.inr hclosed.keepsBackend
  | _ => exact Or.inr (Or.inr rfl)

end Num

end wsd
