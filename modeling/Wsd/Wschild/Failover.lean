import Wsd.Transition.Path
import Wsd.Wschild.Host

namespace wsd

open Transition

/-- A read on a client fails in a step. -/
def State.ClientFails (s : State) (env : Env) (id : Nat) : Prop :=
  (s.failing env).map Prod.fst = some id ∧ (s.world.clients id).isSome = true

instance (s : State) (env : Env) (id : Nat) : Decidable (s.ClientFails env id) :=
  inferInstanceAs (Decidable (_ ∧ _))

/-- What happens to the backend and decides about the host: a read on its socket fails
    with one of the four errors, or the socket is opened with the results of its attempts. -/
inductive HostEvent
  | read_failed
  | opened (results : List OpenResult)

def State.hostEvent (s : State) (env : Env) : Option HostEvent :=
  match s.failing env with
  | some (id, _) => if s.world.pp2sk.map Prod.fst = some id ∧ env.retry then some .read_failed else none
  | none => if s.opening then some (.opened env.opens) else none

/-- The hosts to which a step applies `sk_open`. -/
def State.tried (cfg : Config) (s : State) (env : Env) : List Nat :=
  if s.opening then open_hosts cfg env.opens cfg.fhostname_num.toNat s.world.num else []

namespace HostEvent

def turn (cfg : Config) (num : Nat) : HostEvent → Nat
  | .read_failed => next_num cfg num
  | .opened results => (next_num cfg)^[unresolved results cfg.fhostname_num.toNat] num

def tries (cfg : Config) (num : Nat) : HostEvent → List Nat
  | .read_failed => []
  | .opened results => open_hosts cfg results cfg.fhostname_num.toNat num

end HostEvent

/-- The hosts which are tried when nothing but the backend decides about them. -/
def hosts (cfg : Config) : List HostEvent → Nat → List Nat
  | [], _ => []
  | event :: events, num => event.tries cfg num ++ hosts cfg events (event.turn cfg num)

namespace Sample

def twoHosts : Config :=
  { config with fhostname_num := 2 }

/-- A client's frame makes the daemon open the backend with the given results, and the
    backend's reads fail until its socket is closed. -/
def failingBackend (results : List OpenResult) : List Env :=
  [{ clock := { tv_sec := 9, tv_nsec := 0 } }, { opens := results }] ++ List.replicate 6 ({} : Env) ++
    [{ events := some [(some 1, EPOLLIN)] }, { read := .ok [], retry := true }, ({} : Env)] ++
    iteration 9 4 (some 1) EPOLLIN { read := .error, retry := true }

/-- A client's frames, behind which the backend is opened once, fails, and is opened again. -/
def reopened (results : List OpenResult) : List Env :=
  connected request ++ iteration 9 4 (some 0) EPOLLIN { read := .ok [0x81, 0x80, 0, 0, 0, 0] } ++
    failingBackend results ++ iteration 9 3 (some 0) EPOLLIN { read := .ok [0x81, 0x80, 0, 0, 0, 0] } ++
    [{ clock := { tv_sec := 9, tv_nsec := 0 } }, { opens := results }]

end Sample

section Clients

variable {cfg : Config} {ssl : Openssl} {env : Env} {s s' : State} {id : Nat} {P : State → Env → Prop}
  {path : List (Move State Env)}

theorem hosts_append (events events' : List HostEvent) (num : Nat) : hosts cfg (events ++ events') num =
    hosts cfg events num ++ hosts cfg events' (events.foldl (HostEvent.turn cfg) num) := by
  induction events generalizing num with
  | nil => rfl
  | cons event events ih => simp only [List.cons_append, hosts, ih, List.foldl_cons, List.append_assoc]

/-- The number of the host is that of a configured one. -/
theorem reach_num (h : (daemon cfg ssl).Reach P s) : s.world.num = 0 ∨ s.world.num < cfg.fhostname_num.toNat := by
  refine (h.invariant (I := fun s => s.Wf ∧ (s.world.num = 0 ∨ s.world.num < cfg.fhostname_num.toNat))
    ⟨init_wf, Or.inl rfl⟩ ?_).2
  intro s s' env hs hvalid _ hstep
  refine ⟨(step_inv hs.1 hstep).wf hs.1 hvalid, ?_⟩
  rw [step_num hs.1 hstep]
  have hturn (num : Nat) (h : num = 0 ∨ num < cfg.fhostname_num.toNat) :
      next_num cfg num = 0 ∨ next_num cfg num < cfg.fhostname_num.toNat := by
    unfold next_num RoundRobin.next
    split <;> omega
  exact Function.Iterate.rec (fun num => num = 0 ∨ num < cfg.fhostname_num.toNat) hs.2 hturn _

/-- A socket has been left fewer attempts than there are hosts. -/
theorem reach_retries (h : (daemon cfg ssl).Reach P s) {sk : Sk} (hget : s.world.get id = some sk) :
    sk.retries = 0 ∨ sk.retries < cfg.fhostname_num := by
  refine (h.invariant (I := fun s => s.Wf ∧ ∀ id sk, s.world.get id = some sk → sk.retries = 0 ∨
    sk.retries < cfg.fhostname_num) ⟨init_wf, ?_⟩ ?_).2 id sk hget
  · intro id sk hget
    cases hget
  · intro s s' env hs hvalid _ hstep
    refine ⟨(step_inv hs.1 hstep).wf hs.1 hvalid, fun id sk' hget' => ?_⟩
    obtain hsame | ⟨sk, -, -, hless, hretries⟩ := step_retries hs.1 hstep hget'
    · rw [hsame]
      cases hget : s.world.get id with
      | none => exact Or.inl rfl
      | some sk => exact hs.2 id sk hget
    · rw [hretries]
      exact Or.inr hless

/-- A client is closed with the first read which fails, and the host stays, if the error
    is none of the four or there is no other host; otherwise the host does not stay. -/
theorem closes_client_iff (hreach : (daemon cfg ssl).Reach P s) (hfails : s.ClientFails env id)
    (h : step cfg ssl env s = .ok s') : s'.world.get id = none ∧ s'.world.num = s.world.num ↔
      env.retry = false ∨ cfg.fhostname_num.toNat ≤ 1 := by
  have hwf := reach_wf hreach
  obtain ⟨⟨id', sk⟩, hfailing, hid⟩ := Option.map_eq_some_iff.mp hfails.1
  cases hid
  have hget' := step_failing hwf hfailing h
  have hnum' := step_num hwf h
  simp only [State.turns, hfailing, Option.isSome_some, if_true] at hnum'
  cases hretry : env.retry with
  | false =>
    simp only [hretry, Bool.false_eq_true, false_and, if_false, Function.iterate_zero, id_eq] at hget' hnum'
    exact ⟨fun _ => Or.inl rfl, fun _ => ⟨hget', hnum'⟩⟩
  | true =>
    simp only [hretry, true_and, if_true, Function.iterate_one] at hget' hnum'
    by_cases hone : cfg.fhostname_num.toNat ≤ 1
    · obtain ⟨events, todo, -, hget, -⟩ := State.failing_eq_some hfailing
      have hretries : sk.retries = 0 := by
        obtain hzero | hless := reach_retries hreach hget
        · exact hzero
        · rw [UInt8.lt_iff_toNat_lt] at hless
          exact UInt8.toNat_inj.mp (by simp; omega)
      have hlast : ¬ sk.retries + 1 < cfg.fhostname_num := by
        rw [hretries, UInt8.lt_iff_toNat_lt]
        simp
        omega
      rw [if_neg hlast] at hget'
      refine ⟨fun _ => Or.inr hone, fun _ => ⟨hget', ?_⟩⟩
      have hnum := reach_num hreach
      rw [hnum', next_num, RoundRobin.next, if_pos (by omega)]
      omega
    · refine ⟨fun hkept => ?_, fun hcond => absurd hcond (by simpa using hone)⟩
      exact absurd (hnum'.symm.trans hkept.2) (RoundRobin.next_ne (by omega))

/-- A client whose read fails in the step is closed by it, and the host stays. -/
def ClosesClient (m : Move State Env) : Prop :=
  ∀ id, m.before.ClientFails m.input id → m.after.world.get id = none ∧ m.after.world.num = m.before.world.num

/-- A client's read does not fail with one of the four errors while there are several hosts. -/
def Harmless (cfg : Config) (m : Move State Env) : Prop :=
  ∀ id, m.before.ClientFails m.input id → m.input.retry = false ∨ cfg.fhostname_num.toNat ≤ 1

/-- Unless a client's read turns the host, the backend's events turn it as often as the step does. -/
theorem step_host (hreach : (daemon cfg ssl).Reach P s) (h : step cfg ssl env s = .ok s')
    (hharmless : Harmless cfg ⟨s, env, s'⟩) :
    s'.world.num = ((s.hostEvent env).toList.foldl (HostEvent.turn cfg) s.world.num) := by
  have hwf := reach_wf hreach
  have hnum' := step_num hwf h
  cases hfailing : s.failing env with
  | none =>
    simp only [State.turns, State.hostEvent, hfailing, Option.isSome_none, Bool.false_eq_true, if_false] at hnum' ⊢
    rw [hnum']
    cases s.opening <;> rfl
  | some failing =>
    obtain ⟨id, sk⟩ := failing
    obtain ⟨events, todo, -, hget, -⟩ := State.failing_eq_some hfailing
    obtain ⟨hpp, -⟩ | ⟨hclient, -, hapart⟩ := hwf.world.get_cases hget
    · simp only [State.turns, State.hostEvent, hfailing, Option.isSome_some, if_true, hpp, Option.map_some,
        true_and] at hnum' ⊢
      rw [hnum']
      cases env.retry <;> rfl
    · have hfails : s.ClientFails env id := ⟨by rw [hfailing]; rfl, by rw [hclient]; rfl⟩
      have hkept := ((closes_client_iff hreach hfails h).mpr (hharmless id hfails)).2
      have hother : ¬ (s.world.pp2sk.map Prod.fst = some id ∧ env.retry = true) := by
        rintro ⟨hid, -⟩
        obtain ⟨pp, hpp, hpid⟩ := Option.map_eq_some_iff.mp hid
        exact hapart pp hpp hpid
      simp only [State.hostEvent, hfailing, if_neg hother]
      exact hkept

/-- A step tries the hosts which the backend's event makes it try. -/
theorem tried_eq (s : State) (env : Env) :
    s.tried cfg env = hosts cfg (s.hostEvent env).toList s.world.num := by
  unfold State.tried State.hostEvent
  cases hfailing : s.failing env with
  | none =>
    cases s.opening with
    | false => rfl
    | true => simp [hosts, HostEvent.tries]
  | some failing =>
    obtain ⟨id, sk⟩ := failing
    obtain ⟨events, todo, hpc, -⟩ := State.failing_eq_some hfailing
    have hopening : s.opening = false := by simp only [State.opening, hpc]
    simp only [hopening, Bool.false_eq_true, if_false]
    split
    · rfl
    · rfl

/-- The run's hosts and the number of the next one follow from the backend's events. -/
theorem path_hosts (h : (daemon cfg ssl).Path P path s) (hharmless : ∀ m ∈ path, Harmless cfg m) :
    path.flatMap (fun m => m.before.tried cfg m.input) =
      hosts cfg (path.flatMap fun m => (m.before.hostEvent m.input).toList) 0 ∧
    s.world.num = (path.flatMap fun m => (m.before.hostEvent m.input).toList).foldl (HostEvent.turn cfg) 0 := by
  refine h.invariant (I := fun path s => (∀ m ∈ path, Harmless cfg m) →
    path.flatMap (fun m => m.before.tried cfg m.input) =
      hosts cfg (path.flatMap fun m => (m.before.hostEvent m.input).toList) 0 ∧
    s.world.num = (path.flatMap fun m => (m.before.hostEvent m.input).toList).foldl (HostEvent.turn cfg) 0)
    (fun _ => ⟨rfl, rfl⟩) ?_ hharmless
  intro path s s' env hreach ih _ _ hstep hall
  rw [List.forall_mem_append, List.forall_mem_singleton] at hall
  obtain ⟨htried, hnum⟩ := ih hall.1
  have hhost := step_host hreach hstep hall.2
  constructor
  · rw [List.flatMap_append, List.flatMap_append, hosts_append, htried, List.flatMap_singleton, List.flatMap_singleton,
      ← hnum, tried_eq]
  · rw [List.flatMap_append, List.foldl_append, ← hnum, List.flatMap_singleton, hhost]

/-- Failing clients are closed at once and leave the host alone if and only if their reads
    do not fail with one of the four errors while there are several hosts. The hosts
    which the run tries then follow from the backend's events. -/
theorem client_failures_isolated_iff (h : (daemon cfg ssl).Path P path s) :
    ((∀ m ∈ path, ClosesClient m) ↔ ∀ m ∈ path, Harmless cfg m) ∧
      ((∀ m ∈ path, Harmless cfg m) → path.flatMap (fun m => m.before.tried cfg m.input) =
        hosts cfg (path.flatMap fun m => (m.before.hostEvent m.input).toList) 0) := by
  refine ⟨?_, fun hharmless => (path_hosts h hharmless).1⟩
  have hmoves := h.forall_move (I := fun m => ClosesClient m ↔ Harmless cfg m) ?_
  · exact forall₂_congr hmoves
  · intro s s' env hreach _ _ hstep
    exact forall₂_congr fun id hfails => closes_client_iff hreach hfails hstep

/-- With one host a client which goes away at once is closed and nothing else happens. -/
theorem client_failures_isolated_one : ∃ path s, (daemon Sample.config Sample.openssl).Path (fun _ _ => True) path s ∧
    (∃ m ∈ path, m.before.ClientFails m.input 0 ∧ m.input.retry = true) ∧ ∀ m ∈ path, ClosesClient m := by
  obtain ⟨path, s, hpath, hfails⟩ := System.exists_path (daemon Sample.config Sample.openssl) (P := fun _ _ => True)
    (B := fun path _ => ∃ m ∈ path, m.before.ClientFails m.input 0 ∧ m.input.retry = true)
    (Sample.iteration 9 2 none EPOLLIN { accepted := some Sample.client } ++
      Sample.iteration 9 3 (some 0) EPOLLIN { read := .ok [], retry := true }) (by decide +kernel)
  exact ⟨path, s, hpath, hfails, (client_failures_isolated_iff hpath).1.mpr fun _ _ _ _ => Or.inr (by decide)⟩

/-- With two hosts it stays open and the daemon goes on to the other host. -/
theorem client_failure_turns : ¬ ∀ (cfg : Config) (ssl : Openssl) (path : List (Move State Env)) (s : State),
    (daemon cfg ssl).Path (fun _ _ => True) path s → ∀ m ∈ path, ClosesClient m := by
  intro h
  obtain ⟨path, s, hpath, m, hmem, hfails, hnum⟩ := System.exists_path
    (daemon Sample.twoHosts Sample.openssl) (P := fun _ _ => True)
    (B := fun path _ => ∃ m ∈ path, m.before.ClientFails m.input 0 ∧ m.after.world.num ≠ m.before.world.num)
    (Sample.iteration 9 2 none EPOLLIN { accepted := some Sample.client } ++
      Sample.iteration 9 3 (some 0) EPOLLIN { read := .ok [], retry := true }) (by decide +kernel)
  exact hnum (h _ _ path s hpath m hmem 0 hfails).2

end Clients

/-- The host of the connection which a step opens. -/
def connected (m : Move State Env) : Option Nat :=
  if m.before.world.pp2sk.isNone ∧ m.after.world.pp2sk.isSome then some m.after.world.num else none

/-- How many hosts the run has gone on when it opens its connections: one for each read
    which failed with one of the four errors and for each name which was not resolved. -/
def turnsAt (cfg : Config) : List (Move State Env) → Nat → List Nat
  | [], _ => []
  | m :: path, turns =>
    if (connected m).isSome then
      (turns + m.before.turns cfg m.input) :: turnsAt cfg path (turns + m.before.turns cfg m.input)
    else
      turnsAt cfg path (turns + m.before.turns cfg m.input)

/-- The number of connections which are closed: all but the one which is open. -/
def failed (path : List (Move State Env)) (s : State) : Nat :=
  if s.world.pp2sk.isSome then (path.filterMap connected).length - 1 else (path.filterMap connected).length

/-- The socket which is read in the next step. -/
def Pc.reads : Pc → Option Nat
  | .on_event ((some id, events) :: _) => if events.EPOLLIN ∨ events.EPOLLPRI then some id else none
  | _ => none

/-- A read of the backend's socket fails with one of the four errors. -/
def ReadsFail (m : Move State Env) : Prop :=
  ∀ id ∈ m.before.pc.reads, m.before.world.pp2sk.map Prod.fst = some id →
    m.input.read.len = 0 ∧ m.input.retry = true

instance (m : Move State Env) : Decidable (ReadsFail m) :=
  inferInstanceAs (Decidable (∀ id ∈ m.before.pc.reads, _ → _))

/-- Nothing but failing reads of the backend's socket turns the host, and nothing but the last
    of them closes the socket. -/
structure BackendFails (cfg : Config) (m : Move State Env) : Prop where
  turned : m.before.turns cfg m.input ≠ 0 →
    ∃ p sk, m.before.failing m.input = some (p, sk) ∧ m.before.world.pp2sk = some (p, sk)
  closed : m.before.world.pp2sk.isSome → m.after.world.pp2sk.isNone → m.before.turns cfg m.input ≠ 0

/-- The number of the host is the number of attempts which the backend's socket has used. -/
def State.CountsAttempts (cfg : Config) (s : State) : Prop :=
  match s.world.pp2sk with
  | none => s.world.num = 0
  | some (_, sk) => s.world.num = sk.retries.toNat ∧ sk.retries < cfg.fhostname_num

section Backend

variable {cfg : Config} {ssl : Openssl} {env : Env} {s s' : State} {id : Nat} {P : State → Env → Prop}
  {path : List (Move State Env)}

theorem turnsAt_append (path path' : List (Move State Env)) (turns : Nat) : turnsAt cfg (path ++ path') turns =
    turnsAt cfg path turns ++ turnsAt cfg path' (turns + (path.map fun m => m.before.turns cfg m.input).sum) := by
  induction path generalizing turns with
  | nil => rfl
  | cons m path ih =>
    simp only [List.cons_append, turnsAt, ih, List.map_cons, List.sum_cons, Nat.add_assoc]
    split <;> rfl

/-- The host is the number of turns modulo the number of hosts, at each connection and
    at the end. -/
theorem path_turns (hn : 0 < cfg.fhostname_num.toNat) (h : (daemon cfg ssl).Path P path s) :
    path.filterMap connected = (turnsAt cfg path 0).map (· % cfg.fhostname_num.toNat) ∧
      s.world.num = (path.map fun m => m.before.turns cfg m.input).sum % cfg.fhostname_num.toNat := by
  refine h.invariant (I := fun path s => path.filterMap connected =
    (turnsAt cfg path 0).map (· % cfg.fhostname_num.toNat) ∧
      s.world.num = (path.map fun m => m.before.turns cfg m.input).sum % cfg.fhostname_num.toNat)
    ⟨rfl, (Nat.zero_mod _).symm⟩ ?_
  intro path s s' env hreach ih _ _ hstep
  have hnum : s'.world.num = ((path.map fun m => m.before.turns cfg m.input).sum + s.turns cfg env) %
      cfg.fhostname_num.toNat := by
    rw [step_num (reach_wf hreach) hstep, next_num, ih.2, RoundRobin.next_iterate (Nat.mod_lt _ hn),
      Nat.mod_add_mod]
  constructor
  · rw [List.filterMap_append, turnsAt_append, List.map_append, ih.1, Nat.zero_add]
    congr 1
    simp only [turnsAt, List.filterMap_cons, List.filterMap_nil]
    cases hconnected : connected ⟨s, env, s'⟩ with
    | none => rfl
    | some host =>
      unfold connected at hconnected
      split at hconnected
      · cases hconnected
        simp [hnum]
      · cases hconnected
  · rw [List.map_append, List.sum_append, hnum]
    simp

theorem failed_le (hn : 0 < cfg.fhostname_num.toNat) (h : (daemon cfg ssl).Path P path s) :
    failed path s ≤ (turnsAt cfg path 0).length := by
  have hlen := congrArg List.length (path_turns hn h).1
  rw [List.length_map] at hlen
  unfold failed
  split <;> omega

theorem step_countsAttempts (hn : 0 < cfg.fhostname_num.toNat) (hwf : s.Wf) (hwf' : s'.Wf)
    (hcounts : s.CountsAttempts cfg) (hfails : BackendFails cfg ⟨s, env, s'⟩)
    (h : step cfg ssl env s = .ok s') : s'.CountsAttempts cfg := by
  have hstepped := step_inv hwf h
  have hnum' := step_num hwf h
  by_cases hturns : s.turns cfg env = 0
  · rw [hturns, Function.iterate_zero, id_eq] at hnum'
    unfold State.CountsAttempts
    cases hpp' : s'.world.pp2sk with
    | none =>
      cases hpp : s.world.pp2sk with
      | none =>
        rw [State.CountsAttempts, hpp] at hcounts
        exact hnum'.trans hcounts
      | some pp =>
        have hturned := hfails.closed (by rw [hpp]; rfl) (by rw [hpp']; rfl)
        exact absurd hturns hturned
    | some pp' =>
      obtain ⟨p, sk'⟩ := pp'
      have hget' := World.get_backend hpp'
      have hretries : sk'.retries = ((s.world.get p).map Sk.retries).getD 0 := by
        obtain hsame | ⟨sk, hfailing, hretry, -⟩ := step_retries hwf h hget'
        · exact hsame
        · simp [State.turns, hfailing, hretry] at hturns
      cases hpp : s.world.pp2sk with
      | none =>
        rw [State.CountsAttempts, hpp] at hcounts
        have hsocket := hstepped.socket hwf p
        rw [hget'] at hsocket
        obtain ⟨hget, -⟩ | ⟨sk, hpp0, -⟩ := hsocket.backend hwf rfl (hwf'.world.backend p sk' hpp').1
        · rw [hget] at hretries
          simp only [hretries, hnum', hcounts, Option.map_none, Option.getD_none]
          exact ⟨rfl, by rw [UInt8.lt_iff_toNat_lt]; exact hn⟩
        · rw [hpp] at hpp0
          cases hpp0
      | some pp =>
        rw [State.CountsAttempts, hpp] at hcounts
        obtain hnone | hnone | hsame := hstepped.keepsBackend
        · rw [hpp] at hnone
          cases hnone
        · rw [hpp'] at hnone
          cases hnone
        · rw [hpp, hpp'] at hsame
          have hp : p = pp.1 := Option.some.inj hsame
          rw [hp, World.get_backend hpp] at hretries
          simp only [hnum']
          rw [hretries]
          exact hcounts
  · obtain ⟨p, sk, hfailing, hpp⟩ := hfails.turned hturns
    rw [State.CountsAttempts, hpp] at hcounts
    obtain ⟨hnum, hless⟩ := hcounts
    simp only at hfailing
    have hretry : env.retry = true := by
      simpa [State.turns, hfailing] using hturns
    have hget' := step_failing hwf hfailing h
    simp only [State.turns, hfailing, hretry, Option.isSome_some, if_true, Function.iterate_one] at hnum'
    rw [UInt8.lt_iff_toNat_lt] at hless
    have hsucc : (sk.retries + 1).toNat = sk.retries.toNat + 1 := by
      have hbound := cfg.fhostname_num.toNat_lt
      rw [UInt8.toNat_add]
      exact Nat.mod_eq_of_lt (by simp; omega)
    rw [hnum, next_num, RoundRobin.next] at hnum'
    simp only [hretry, true_and] at hget'
    simp only [UInt8.lt_iff_toNat_lt, hsucc] at hget'
    unfold State.CountsAttempts
    by_cases hmore : sk.retries.toNat + 1 < cfg.fhostname_num.toNat
    · rw [if_pos hmore] at hget'
      have hbackend : IsBackend { sk with ts_last_io := s.now, retries := sk.retries + 1 } :=
        (hwf.world.backend p sk hpp).1.of_eq rfl rfl
      obtain ⟨hpp', -⟩ | ⟨-, hclient, -⟩ := hwf'.world.get_cases hget'
      · rw [hpp']
        refine ⟨?_, by rw [UInt8.lt_iff_toNat_lt, hsucc]; exact hmore⟩
        rw [hnum', if_neg (by omega), hsucc]
      · exact absurd hbackend hclient.not_backend
    · rw [if_neg hmore] at hget'
      rw [if_pos (by omega)] at hnum'
      cases hpp' : s'.world.pp2sk with
      | none => exact hnum'
      | some pp' =>
        obtain hnone | hnone | hsame := hstepped.keepsBackend
        · rw [hpp] at hnone
          cases hnone
        · rw [hpp'] at hnone
          cases hnone
        · rw [hpp, hpp'] at hsame
          have hp : pp'.1 = p := Option.some.inj hsame
          rw [← hp, World.get_backend hpp'] at hget'
          cases hget'

/-- A backend whose reads fail is opened at the first host again and again. -/
theorem path_first_host (hn : 0 < cfg.fhostname_num.toNat) (h : (daemon cfg ssl).Path P path s)
    (hfails : ∀ m ∈ path, BackendFails cfg m) : ∀ host ∈ path.filterMap connected, host = 0 := by
  refine (h.invariant (I := fun path s => (∀ m ∈ path, BackendFails cfg m) →
    s.CountsAttempts cfg ∧ ∀ host ∈ path.filterMap connected, host = 0) (fun _ => ⟨rfl, by simp⟩) ?_ hfails).2
  intro path s s' env hreach ih hvalid _ hstep hall
  rw [List.forall_mem_append, List.forall_mem_singleton] at hall
  obtain ⟨hcounts, hhosts⟩ := ih hall.1
  have hwf := reach_wf hreach
  have hwf' := (step_inv hwf hstep).wf hwf hvalid
  refine ⟨step_countsAttempts hn hwf hwf' hcounts hall.2 hstep, ?_⟩
  rw [List.filterMap_append, List.forall_mem_append]
  refine ⟨hhosts, fun host hmem => ?_⟩
  obtain ⟨m, hm, hconnected⟩ := List.mem_filterMap.mp hmem
  rw [List.mem_singleton] at hm
  subst hm
  unfold connected at hconnected
  split at hconnected
  · rename_i hopened
    cases hconnected
    have hnone := Option.isNone_iff_eq_none.mp hopened.1
    have hturns : s.turns cfg env = 0 := by
      by_contra hturns
      obtain ⟨p, sk, -, hpp⟩ := hall.2.turned hturns
      exact absurd (hnone.symm.trans hpp) (by simp)
    rw [State.CountsAttempts, hnone] at hcounts
    rw [step_num hwf hstep, hturns, Function.iterate_zero, id_eq]
    exact hcounts
  · cases hconnected

/-- With several hosts every connection goes to another host than the one before it, and as
    many failed connections in a row as there are hosts go to all of them, if and only if
    the reads which failed and the names which were not resolved between two of them are
    not a multiple of the number of hosts. A socket which its failing reads close has had
    as many of them as there are hosts, so that nothing else leaves the first host. -/
theorem failover_iff (hn : 1 < cfg.fhostname_num.toNat) (h : (daemon cfg ssl).Path P path s) :
    (RoundRobin.Alternates cfg.fhostname_num.toNat (path.filterMap connected) (failed path s) ↔
      RoundRobin.Spreads cfg.fhostname_num.toNat (turnsAt cfg path 0) (failed path s)) ∧
    ((∀ m ∈ path, BackendFails cfg m) → ∀ host ∈ path.filterMap connected, host = 0) := by
  have hpos : 0 < cfg.fhostname_num.toNat := by omega
  refine ⟨?_, path_first_host hpos h⟩
  rw [(path_turns hpos h).1]
  exact RoundRobin.alternates_iff_spreads hpos (failed_le hpos h)

/-- Where the name of the tried host is not resolved, the two hosts take turns. -/
theorem failover_unresolved : ∃ path s, (daemon Sample.twoHosts Sample.openssl).Path (fun _ _ => True) path s ∧
    path.filterMap connected = [1, 0] ∧ RoundRobin.Alternates 2 (path.filterMap connected) (failed path s) := by
  obtain ⟨path, s, hpath, hhosts, hturns, hfailed⟩ := System.exists_path (daemon Sample.twoHosts Sample.openssl)
    (P := fun _ _ => True) (B := fun path s => path.filterMap connected = [1, 0] ∧
      turnsAt Sample.twoHosts path 0 = [1, 4] ∧ failed path s = 1)
    (Sample.reopened [.no_address, .connected 6]) (by decide +kernel)
  refine ⟨path, s, hpath, hhosts, (failover_iff (by decide) hpath).1.mpr ?_⟩
  rw [hturns, hfailed]
  refine ⟨by decide, fun i hi => ?_⟩
  change i + 2 ≤ 1 at hi
  omega

/-- A backend whose reads all fail is opened at the first of two hosts again. -/
theorem failover_stays : ¬ ∀ (cfg : Config) (ssl : Openssl) (path : List (Move State Env)) (s : State),
    1 < cfg.fhostname_num.toNat → (daemon cfg ssl).Path (fun _ _ => True) path s → (∀ m ∈ path, ReadsFail m) →
      RoundRobin.Alternates cfg.fhostname_num.toNat (path.filterMap connected) (failed path s) := by
  intro h
  obtain ⟨path, s, hpath, hfails, hhosts⟩ := System.exists_path (daemon Sample.twoHosts Sample.openssl)
    (P := fun _ _ => True) (B := fun path _ => (∀ m ∈ path, ReadsFail m) ∧ path.filterMap connected = [0, 0])
    (Sample.reopened [.connected 6]) (by decide +kernel)
  have halternates := (h _ _ path s (by decide) hpath hfails).1
  rw [hhosts] at halternates
  exact absurd halternates (by decide)

end Backend

end wsd
