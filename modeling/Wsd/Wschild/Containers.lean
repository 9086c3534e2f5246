import Wsd.Wschild.Registry

namespace wsd

/-- Handling an event of a socket closes it. -/
def EventEnds (cfg : Config) (env : Env) (events : EpollEvents) (sk : Sk) : Prop :=
  if events.EPOLLIN = true ∨ events.EPOLLPRI = true then
    ReadFails cfg env.read env.retry sk
  else if events.EPOLLOUT = true then
    WriteEnds env.write sk
  else
    events.EPOLLERR = true ∨ events.EPOLLHUP = true ∨ events.EPOLLRDHUP = true

/-- The backend's socket is about to be closed while it is linked for `try_recv`: by an
    event, by the idle timeout, or when the process ends. -/
def State.ClosesLinked (cfg : Config) (s : State) (env : Env) : Prop :=
  ∃ p sk, s.world.pp2sk = some (p, sk) ∧ p ∈ s.world.work_list ∧
    ((∃ events todo, s.pc = .on_event ((some p, events) :: todo) ∧ EventEnds cfg env events sk) ∨
      (∃ todo, s.pc = .check_timeouts (p :: todo) ∧ cfg.idle_timeout ≠ -1 ∧
        check_timeout sk s.now cfg.idle_timeout = true) ∨
      ∃ todo, s.pc = .shutdown (p :: todo))

/-- The connection which is accepted belongs to a bucket behind the table. -/
def State.AcceptsFar (s : State) (env : Env) : Prop :=
  ∃ events todo a, s.pc = .on_event ((none, events) :: todo) ∧ env.accepted = some a ∧ HASH_SIZE ≤ a.src_addr.last

/-- Every node of a container belongs to an open socket, each socket occurs at most once
    in each, and every open client is on `sk_list` and in exactly one bucket. -/
structure World.OpenOnly (w : World) : Prop where
  work_open : ∀ id ∈ w.work_list, (w.get id).isSome
  work_nodup : w.work_list.Nodup
  list_open : ∀ id ∈ w.sk_list, (w.get id).isSome
  list_nodup : w.sk_list.Nodup
  bucket_open : ∀ bucket, ∀ id ∈ w.sk_hash bucket, (w.get id).isSome
  bucket_nodup : ∀ bucket, (w.sk_hash bucket).Nodup
  client_listed : ∀ id sk, w.clients id = some sk → id ∈ w.sk_list
  client_bucket : ∀ id sk, w.clients id = some sk → ∃! bucket, bucket < HASH_SIZE ∧ id ∈ w.sk_hash bucket

section Containers

variable {cfg : Config} {ssl : Openssl} {env : Env} {s s' : State} {w w' : World} {id : Nat} {sk sk' : Sk} {pc : Pc}

theorem http_recv_hash {st st' : Statics} {rv : Int} {wsd_errno : Errno}
    (h : http_recv cfg ssl sk st = .ok (rv, sk', st', wsd_errno)) : sk'.hash = sk.hash := by
  obtain ⟨-, -, rfl⟩ | hfailed | hdone := http_recv_cases h
  · rfl
  · rw [hfailed.sk_eq]
  · rw [hdone.sk_eq]
    rfl

theorem Written.hash_eq {write : WriteResult} {now : Timespec} (h : Written write now sk sk') : sk'.hash = sk.hash := by
  cases h <;> rfl

/-- A socket in place and other fields which no container depends on. -/
theorem World.Registry.set (h : w.Registry) (hwf : w.Wf) (hget : w.get id = some sk) (hhash : sk'.hash = sk.hash)
    (wsd_errno : Errno) (num : Nat) (statics : Statics) :
    World.Registry { w.set id sk' with wsd_errno, num, statics } := by
  have hkept := (World.kept_set hwf hget hhash).registry h
  exact ⟨⟨hkept.linked.fresh, hkept.linked.mem_iff, hkept.linked.nodup⟩, hkept.in_table, hkept.list_iff,
    hkept.list_nodup, hkept.work_open, hkept.work_nodup⟩

/-- The backend's socket is in place if it is after a change. -/
theorem World.backend_of_set {sk1 : Sk} (hwf : w.Wf) (hget : w.get id = some sk)
    (h : (w.set id sk').pp2sk = some (id, sk1)) : w.pp2sk = some (id, sk) := by
  obtain ⟨hpp, -⟩ | ⟨-, -, hapart⟩ := hwf.get_cases hget
  · exact hpp
  · rw [World.set_client hapart] at h
    exact absurd rfl (hapart (id, sk1) h)

theorem RecvStep.registry {todo : List Nat} (hwf : w.Wf) (h : w.Registry) (hget : w.get id = some sk)
    (hrecv : RecvStep cfg ssl env w id sk todo w' pc) : w'.Registry := by
  cases hrecv with
  | http sk' statics wsd_errno rv w' hrecv hhttp htry =>
    exact (h.set hwf hget (http_recv_hash hhttp) wsd_errno _ statics).try_recv htry
  | ws => exact h
  | opened fd wsd_errno num hrecv hrdsz hpp hfd =>
    have hkept : w.Kept { w with num, wsd_errno } := .same rfl rfl rfl rfl rfl rfl
    exact (hkept.registry h).opened ⟨hwf.client, hwf.backend⟩ hpp
  | notOpened wsd_errno num w' hrecv hrdsz hpp htry =>
    have hkept : w.Kept { w with wsd_errno, num } := .same rfl rfl rfl rfl rfl rfl
    exact (hkept.registry h).try_recv htry
  | pp2 => exact h

theorem WsRecvStep.registry {frames p : Nat} {todo : List Nat} {pp2sk : Sk} {wsd_errno : Errno} (hwf : w.Wf)
    (h : w.Registry) (hclient : w.clients id = some sk) (hpp : w.pp2sk = some (p, pp2sk))
    (hrecv : WsRecvStep w id frames todo { sk, pp2sk, wsd_errno } w' pc) : w'.Registry := by
  cases hrecv with
  | frame c' hdecoded =>
    exact (World.kept_setConn hwf hclient hpp (congrArg Sk.Core.hash hdecoded.core.1)).registry h
  | done rv c' w' hrv hdecoded htry =>
    have hhash : (ws_recv_leave frames c').sk.hash = sk.hash :=
      (congrArg Sk.Core.hash (ws_recv_leave_core frames c').1).trans (congrArg Sk.Core.hash hdecoded.core.1)
    exact ((World.kept_setConn hwf hclient hpp hhash).registry h).try_recv htry

theorem Pp2RecvStep.registry {frames : Nat} {todo : List Nat} {wsd_errno : Errno} (h : w.Registry)
    (hpp : w.pp2sk = some (id, sk))
    (hrecv : Pp2RecvStep w id frames todo { clients := w.clients, sk_hash := w.sk_hash, pp2sk := sk, wsd_errno } w' pc) :
    w'.Registry := by
  cases hrecv with
  | frame m' hdemuxed => exact (World.kept_setMux hpp m'.pp2sk rfl hdemuxed).registry h
  | done rv m' w' hrv hdemuxed htry =>
    exact ((World.kept_setMux hpp _ rfl hdemuxed).registry h).try_recv htry

theorem CheckTimeouts.registry {now : Timespec} (hwf : w.Wf) (h : w.Registry) (hget : w.get id = some sk)
    (hquiet : ∀ p sk, w.pp2sk = some (p, sk) → sk.Quiet)
    (hbackend : w.pp2sk = some (id, sk) → id ∈ w.work_list →
      ¬ (cfg.idle_timeout ≠ -1 ∧ check_timeout sk now cfg.idle_timeout = true))
    (hcheck : CheckTimeouts cfg now w id sk w') : w'.Registry := by
  cases hcheck with
  | unchanged wsd_errno => exact h.set hwf hget (by rfl) wsd_errno _ _
  | idle wsd_errno w' hquiet' hidle hclosed =>
    refine (h.set hwf hget rfl wsd_errno _ _).closed hclosed fun hpp hmem => ?_
    exact hbackend (World.backend_of_set hwf hget hpp) (by rwa [World.work_list_set] at hmem) hidle
  | started sendbuf wsd_errno hquiet hproto hsend => exact h.set hwf hget (by rfl) wsd_errno _ _
  | timedOut wsd_errno w' hclosing htimedOut hclosed =>
    refine (h.set hwf hget rfl wsd_errno _ _).closed hclosed fun hpp _ => ?_
    have hset := (hquiet id sk (World.backend_of_set hwf hget hpp)).1
    rw [hclosing] at hset
    cases hset
  | pinged sendbuf wsd_errno hquiet hproto hsend => exact h.set hwf hget (by rfl) wsd_errno _ _

theorem OnRead.registry {now : Timespec} (hwf : w.Wf) (h : w.Registry) (hget : w.get id = some sk)
    (hbackend : w.pp2sk = some (id, sk) → id ∈ w.work_list → ¬ ReadFails cfg env.read env.retry sk)
    (hread : OnRead cfg env.read env.retry now w id sk w') : w'.Registry := by
  cases hread with
  | bytes bytes wsd_errno w' hbytes hne hroom hposted =>
    exact World.Registry.posted (h.set hwf hget (by rfl) wsd_errno _ _) (World.get_set_self w id _) hposted
  | full wsd_errno w' hroom hposted =>
    exact World.Registry.posted (h.set hwf hget (by rfl) wsd_errno _ _) (World.get_set_self w id _) hposted
  | retry retries wsd_errno num => exact h.set hwf hget (by rfl) wsd_errno num _
  | closed retries wsd_errno num w' hfails hclosed =>
    refine World.Registry.closed (h.set hwf hget (by rfl) wsd_errno num _) hclosed fun hpp hmem => ?_
    exact hbackend (World.backend_of_set hwf hget hpp) (by rwa [World.work_list_set] at hmem) hfails

theorem OnEvent.registry {now : Timespec} {events : EpollEvents} (hwf : w.Wf) (h : w.Registry)
    (hget : w.get id = some sk)
    (hbackend : w.pp2sk = some (id, sk) → id ∈ w.work_list → ¬ EventEnds cfg env events sk)
    (hevent : OnEvent cfg env now w id events sk w') : w'.Registry := by
  unfold EventEnds at hbackend
  cases hevent with
  | read w' hin hclose_on_write hclose hread =>
    rw [if_pos hin] at hbackend
    exact hread.registry hwf h hget hbackend
  | write sk' wsd_errno hwritten hclose hdrained => exact h.set hwf hget hwritten.hash_eq wsd_errno _ _
  | writeClosed sk' wsd_errno w' hout hends hwritten hclosed =>
    rw [if_neg hout.1, if_pos hout.2] at hbackend
    refine World.Registry.closed (h.set hwf hget hwritten.hash_eq wsd_errno _ _) hclosed fun hpp hmem => ?_
    exact hbackend (World.backend_of_set hwf hget hpp) (by rwa [World.work_list_set] at hmem) hends
  | closed w' hend hclosed =>
    rw [if_neg hend.1, if_neg hend.2.1] at hbackend
    exact h.closed hclosed fun hpp hmem => hbackend hpp hmem hend.2.2
  | unchanged => exact h

/-- A step which does not close the backend's socket while it is linked keeps the
    containers in order. -/
theorem Stepped.registry (hwf : s.Wf) (h : s.world.Registry) (hlinked : ¬ s.ClosesLinked cfg env)
    (hstep : Stepped cfg ssl env s s') : s'.world.Registry := by
  cases hstep with
  | try_recv id todo sk world pc hpc hget hrecv => exact hrecv.registry hwf.world h hget
  | ws_recv id frames todo sk p pp2sk world pc hpc hclient hup hpp hrecv =>
    exact hrecv.registry hwf.world h hclient hpp
  | pp2_recv id frames todo sk world pc hpc hpp hrecv => exact hrecv.registry h hpp
  | check_timeouts id todo sk world hpc hget hcheck =>
    refine hcheck.registry hwf.world h hget hwf.quiet fun hpp hmem hidle => ?_
    exact hlinked ⟨id, sk, hpp, hmem, Or.inr (Or.inl ⟨todo, hpc, hidle⟩)⟩
  | accepted a events todo hpc haccepted hnear =>
    apply h.accepted hwf.world
    rwa [← hash_min_hash a.src_addr a.tv_nsec]
  | on_event id events todo sk world hpc hget hevent =>
    refine hevent.registry hwf.world h hget fun hpp hmem hends => ?_
    exact hlinked ⟨id, sk, hpp, hmem, Or.inl ⟨events, todo, hpc, hends⟩⟩
  | shutdown id todo sk world hpc hget hclosed =>
    refine h.closed hclosed fun hpp hmem => ?_
    exact hlinked ⟨id, sk, hpp, hmem, Or.inr (Or.inr ⟨todo, hpc⟩)⟩
  | _ => exact h

theorem reach_registry (h : (daemon cfg ssl).Reach (fun s env => ¬ s.ClosesLinked cfg env) s) : s.world.Registry :=
  reach_invariant (I := fun s => s.world.Registry) h World.registry_init
    fun _ _ _ hwf hold _ hlinked hstepped => hstepped.registry hwf hold hlinked

theorem World.Registry.openOnly (h : w.Registry) (hwf : w.Wf) : w.OpenOnly where
  work_open := h.work_open
  work_nodup := h.work_nodup
  list_open id hid := (h.list_iff id).mp hid
  list_nodup := h.list_nodup
  bucket_open := by
    intro bucket id hid
    obtain ⟨sk, hclient, -⟩ := (h.linked.mem_iff bucket id).mp hid
    rw [hwf.get_of_client hclient]
    rfl
  bucket_nodup := h.linked.nodup
  client_listed := by
    intro id sk hclient
    rw [h.list_iff, hwf.get_of_client hclient]
    rfl
  client_bucket := by
    intro id sk hclient
    refine ⟨hash_min sk.hash, ⟨h.in_table id sk hclient, (h.linked.mem_iff _ id).mpr ⟨sk, hclient, rfl⟩⟩, ?_⟩
    rintro bucket ⟨-, hid⟩
    obtain ⟨sk', hclient', hmin⟩ := (h.linked.mem_iff bucket id).mp hid
    rw [hclient] at hclient'
    cases hclient'
    exact hmin.symm

/-- As long as the backend's socket is not closed while it is linked for `try_recv`, and
    no connection is accepted whose bucket is behind the table, the containers hold open
    sockets only. -/
theorem containers_open_only
    (h : (daemon cfg ssl).Reach (fun s env => ¬ s.ClosesLinked cfg env ∧ ¬ s.AcceptsFar env) s) : s.world.OpenOnly :=
  (reach_registry (h.mono fun _ _ h => h.1)).openOnly (reach_wf h).world

/-- A client whose hash has its bucket in the table has sent its request. -/
theorem containers_open_only_near : ∃ s : State, s.world.work_list = [0] ∧ s.world.sk_list = [0] ∧
    s.world.OpenOnly := by
  obtain ⟨s, hreach, hwork, hlist⟩ := Transition.System.exists_reach
    (daemon Sample.config Sample.openssl)
    (P := fun s env => s.world.pp2sk.isNone = true ∧ ∀ a ∈ env.accepted, a.src_addr.last < HASH_SIZE)
    (B := fun s => s.world.work_list = [0] ∧ s.world.sk_list = [0])
    (Sample.connected Sample.request) (by decide +kernel)
  refine ⟨s, hwork, hlist, containers_open_only (hreach.mono ?_)⟩
  rintro s env ⟨hnone, hnear⟩
  constructor
  · rintro ⟨p, sk, hpp, -⟩
    rw [hpp] at hnone
    cases hnone
  · rintro ⟨events, todo, a, -, haccepted, hfar⟩
    exact absurd (hnear a haccepted) (Nat.not_lt.mpr hfar)

/-- The backend hangs up while a part of its frame waits for the rest. -/
theorem closed_backend_linked : ¬ ∀ (cfg : Config) (ssl : Openssl) (s : State),
    (daemon cfg ssl).Reach (fun _ _ => True) s → s.world.OpenOnly := by
  intro h
  obtain ⟨s, hreach, hwork, hnone⟩ := Transition.System.exists_reach
    (daemon Sample.config Sample.openssl) (P := fun _ _ => True)
    (B := fun s => s.world.work_list = [1] ∧ (s.world.get 1).isSome = false)
    (Sample.connected Sample.request ++ Sample.iteration 9 4 (some 0) EPOLLIN { read := .ok [0x81, 0x80, 0, 0, 0, 0] } ++
      ([{ clock := { tv_sec := 9, tv_nsec := 0 } }, { opens := [.connected 6] }] ++ List.replicate 6 ({} : Env) ++
        [{ events := some [(some 1, EPOLLIN)] }, { read := .ok ((Sample.message [0x68, 0x69]).take 47) }, ({} : Env)]) ++
      Sample.iteration 9 6 (some 1) { EPOLLHUP := true } {}) (by decide +kernel)
  have hopen := (h _ _ s hreach).work_open 1 (by rw [hwork]; exact List.mem_cons_self)
  rw [hnone] at hopen
  cases hopen

end Containers

end wsd
