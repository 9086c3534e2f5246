import Mathlib.Data.List.Forall2
import Wsd.Transition.Path
import Wsd.Wschild.Pointers

namespace wsd

/-- No two open sockets have the same descriptor. -/
def Containers.OwnFds (c : Containers) : Prop :=
  ∀ i j sk sk', c.sockets i = some sk → c.sockets j = some sk' → sk.fd = sk'.fd → i = j

section Descriptors

variable {w w' : World} {id : Nat} {sk : Sk} {calls : List LinkCall}

/-- A socket with a descriptor of its own. -/
theorem Containers.OwnFds.opened {c c' : Containers} {new : Entry} (h : c.OwnFds)
    (hnew : ∀ j sk, c.sockets j = some sk → sk.fd ≠ new.fd)
    (hsockets : c'.sockets = Function.update c.sockets id (some new)) : c'.OwnFds := by
  intro i j sk sk' hi hj hfd
  simp only [hsockets, Function.update_apply] at hi hj
  split at hi
  · split at hj
    · rename_i hi' hj'
      rw [hi', hj']
    · cases hi
      exact absurd hfd.symm (hnew j sk' hj)
  · split at hj
    · cases hj
      exact absurd hfd (hnew i sk hi)
    · exact h i j sk sk' hi hj hfd

theorem Containers.OwnFds.closed {c c' : Containers} (h : c.OwnFds)
    (hsockets : c'.sockets = Function.update c.sockets id none) : c'.OwnFds := by
  intro i j sk sk' hi hj hfd
  simp only [hsockets, Function.update_apply] at hi hj
  split at hi
  · cases hi
  · split at hj
    · cases hj
    · exact h i j sk sk' hi hj hfd

theorem LinkCall.NewFd.entry {fd : Int} (h : LinkCall.NewFd w fd) (j : Nat) (e : Entry)
    (hj : w.containers.sockets j = some e) : e.fd ≠ fd := by
  obtain ⟨sk, hget, rfl⟩ := Option.map_eq_some_iff.mp hj
  exact h j sk hget

/-- The calls keep the descriptors apart. -/
theorem call_ownFds (c : LinkCall) (hwf : w.Wf) (h : w.containers.OwnFds) (hvalid : c.Valid w)
    (hcall : c.call w = .ok w') : w'.containers.OwnFds := by
  cases c with
  | sk_accept a =>
    obtain ⟨⟨rv, w1⟩, haccept, hret⟩ := Except.bind_eq_ok_iff.mp hcall
    cases hret
    obtain ⟨-, -, rfl⟩ := sk_accept_inv haccept
    rw [World.containers_accept hwf]
    exact h.opened hvalid.1.entry rfl
  | sk_open fd =>
    cases hcall
    rw [World.containers_open hvalid.2]
    exact h.opened hvalid.1.entry rfl
  | sk_close id =>
    obtain ⟨sk, -, hclosed⟩ := sk_close_closed hwf hcall
    rw [containers_closed hclosed]
    exact h.closed rfl
  | pp2_close id =>
    obtain ⟨sk, -, hclosed⟩ := pp2_close_closed hwf hcall
    rw [containers_closed hclosed]
    exact h.closed rfl
  | post_read id =>
    have hcall : post_read w id = .ok w' := hcall
    obtain ⟨sk, hderef, -⟩ := Except.bind_eq_ok_iff.mp hcall
    obtain ⟨linked, -, rfl⟩ := post_read_inv (World.deref_eq_ok hderef) hcall
    exact h
  | list_del id =>
    cases hcall
    exact h

theorem Calls.ownFds (h : Calls w calls w') (hown : w.containers.OwnFds) : w'.containers.OwnFds := by
  induction h with
  | refl => exact hown
  | kept hkept _ ih => exact ih (by rwa [hkept])
  | call c hwf _ hvalid hcall _ ih => exact ih (call_ownFds c hwf hown hvalid hcall)

end Descriptors

section Made

variable {cfg : Config} {ssl : Openssl} {env : Env} {s s' : State} {w w' : World} {id : Nat} {sk sk' : Sk} {pc : Pc}

theorem Closed.calls (hregistry : w.Registry) (hwf : w.Wf) (hbackend : w.pp2sk = some (id, sk) → id ∉ w.work_list)
    (h : Closed w id sk w') : ∃ calls, Calls w calls w' := by
  cases h with
  | client work_list hclient hapart hunlink =>
    refine ⟨[.sk_close id], .call _ hwf hregistry trivial ?_ (.refl _)⟩
    change sk_close w id = _
    rw [sk_close, hclient]
    simp only [hunlink, Except.ok_bind]
    rfl
  | backend hpp hclient =>
    refine ⟨[.pp2_close id], .call _ hwf hregistry (hbackend hpp) ?_ (.refl _)⟩
    change pp2_close w id = _
    rw [pp2_close, hpp]
    exact if_pos rfl

theorem TryRecv.calls {rv : Int} (hregistry : w.Registry) (hwf : w.Wf) (hid : id ∈ w.work_list)
    (h : TryRecv w id rv w') : ∃ calls, Calls w calls w' := by
  have hdel : Calls w [.list_del id] { w with work_list := w.work_list.erase id } :=
    .call (.list_del id) hwf hregistry hid rfl (.refl _)
  cases h with
  | done => exact ⟨_, hdel⟩
  | again => exact ⟨[], .refl w⟩
  | flushing => exact ⟨_, hdel⟩
  | closed sk w' hrv hinput hagain hget hclose hclosed =>
    obtain ⟨calls, hcalls⟩ := hclosed.calls (hregistry.erased id) ⟨hwf.client, hwf.backend⟩ fun _ =>
      hregistry.work_nodup.not_mem_erase
    exact ⟨_, hdel.trans hcalls⟩

theorem Posted.calls (hregistry : w.Registry) (hwf : w.Wf) (hget : w.get id = some sk) (h : Posted w id sk w') :
    ∃ calls, Calls w calls w' := by
  obtain ⟨linked, hlinked, rfl⟩ := h
  refine ⟨[.post_read id], .call _ hwf hregistry trivial ?_ (.refl _)⟩
  change post_read w id = _
  rw [post_read, World.deref_of_get hget]
  simp only [Except.ok_bind, hlinked]
  cases linked <;> rfl

/-- A world which differs from another one in nothing which the containers depend on. -/
theorem exists_calls_kept {w1 : World} (hkept : w1.containers = w.containers) (h : ∃ calls, Calls w1 calls w') :
    ∃ calls, Calls w calls w' := by
  obtain ⟨calls, hcalls⟩ := h
  exact ⟨calls, .kept hkept hcalls⟩

theorem http_recv_entry {st st' : Statics} {rv : Int} {wsd_errno : Errno}
    (h : http_recv cfg ssl sk st = .ok (rv, sk', st', wsd_errno)) : sk'.entry = sk.entry := by
  obtain ⟨-, -, rfl⟩ | hfailed | hdone := http_recv_cases h
  · rfl
  · rw [hfailed.sk_eq]
    rfl
  · rw [hdone.sk_eq]
    rfl

theorem Written.entry_eq {write : WriteResult} {now : Timespec} (h : Written write now sk sk') :
    sk'.entry = sk.entry := by
  cases h <;> rfl

theorem RecvStep.calls {todo : List Nat} (hwf : w.Wf) (hregistry : w.Registry) (hget : w.get id = some sk)
    (hid : id ∈ w.work_list) (hfds : ∀ fd, OpenResult.connected fd ∈ env.opens → LinkCall.NewFd w fd)
    (h : RecvStep cfg ssl env w id sk todo w' pc) : ∃ calls, Calls w calls w' := by
  cases h with
  | http sk' statics wsd_errno rv w' hrecv hhttp htry =>
    have hset : (w.set id sk').Wf := by
      apply hwf.set hget (http_recv_kind hhttp)
      intro hbackend
      rw [hbackend.ops] at hrecv
      cases hrecv
    have hkept : World.containers { w.set id sk' with statics, wsd_errno } = w.containers :=
      World.containers_set hget (http_recv_entry hhttp)
    refine exists_calls_kept hkept (htry.calls (hregistry.set hwf hget (http_recv_hash hhttp) wsd_errno _ statics)
      ⟨hset.client, hset.backend⟩ ?_)
    rwa [World.work_list_set]
  | ws => exact ⟨[], .refl w⟩
  | opened fd wsd_errno num hrecv hrdsz hpp hfd =>
    have hkept : w.Kept { w with num, wsd_errno } := .same rfl rfl rfl rfl rfl rfl
    have hcontainers : World.containers { w with num, wsd_errno } = w.containers := rfl
    refine exists_calls_kept hcontainers ⟨[.sk_open fd], ?_⟩
    exact .call (.sk_open fd) ⟨hwf.client, hwf.backend⟩ (hkept.registry hregistry) ⟨hfds fd hfd, hpp⟩ rfl (.refl _)
  | notOpened wsd_errno num w' hrecv hrdsz hpp htry =>
    have hkept : w.Kept { w with wsd_errno, num } := .same rfl rfl rfl rfl rfl rfl
    have hcontainers : World.containers { w with wsd_errno, num } = w.containers := rfl
    exact exists_calls_kept hcontainers (htry.calls (hkept.registry hregistry) ⟨hwf.client, hwf.backend⟩ hid)
  | pp2 => exact ⟨[], .refl w⟩

theorem WsRecvStep.calls {frames p : Nat} {todo : List Nat} {pp2sk : Sk} {wsd_errno : Errno} (hwf : w.Wf)
    (hregistry : w.Registry) (hclient : w.clients id = some sk) (hpp : w.pp2sk = some (p, pp2sk)) (hid : id ∈ w.work_list)
    (h : WsRecvStep w id frames todo { sk, pp2sk, wsd_errno } w' pc) : ∃ calls, Calls w calls w' := by
  have hsk := (hwf.client id sk hclient).1
  have hpp2sk := (hwf.backend p pp2sk hpp).1
  cases h with
  | frame c' hdecoded =>
    have hcore := hdecoded.core
    exact ⟨[], .kept (World.containers_setConn hwf hclient hpp (World.entry_of_core hcore.1)
      (World.entry_of_core hcore.2)) (.refl _)⟩
  | done rv c' w' hrv hdecoded htry =>
    have hleave := ws_recv_leave_core frames c'
    have hcore := hleave.1.trans hdecoded.core.1
    have hcore2 := hleave.2.trans hdecoded.core.2
    exact exists_calls_kept
      (World.containers_setConn hwf hclient hpp (World.entry_of_core hcore) (World.entry_of_core hcore2))
      (htry.calls ((World.kept_setConn hwf hclient hpp (congrArg Sk.Core.hash hcore)).registry hregistry)
        (hwf.setConn hclient hpp (hsk.of_core hcore) (hpp2sk.of_core hcore2)) hid)

theorem Pp2RecvStep.calls {frames : Nat} {todo : List Nat} {wsd_errno : Errno} (hwf : w.Wf) (hregistry : w.Registry)
    (hpp : w.pp2sk = some (id, sk)) (hid : id ∈ w.work_list)
    (h : Pp2RecvStep w id frames todo { clients := w.clients, sk_hash := w.sk_hash, pp2sk := sk, wsd_errno } w' pc) :
    ∃ calls, Calls w calls w' := by
  have hsk := (hwf.backend id sk hpp).1
  cases h with
  | frame m' hdemuxed =>
    exact ⟨[], .kept (World.containers_setMux hpp rfl hdemuxed (World.entry_of_core hdemuxed.core)) (.refl _)⟩
  | done rv m' w' hrv hdemuxed htry =>
    have hcore := (pp2_recv_leave_core frames m'.pp2sk).trans hdemuxed.core
    have hclients (j : Nat) (cl' : Sk) (hcl' : m'.clients j = some cl') : IsClient cl' ∧ ∃ cl, w.clients j = some cl := by
      obtain ⟨cl, hcl, hcore⟩ := hdemuxed.clients_core hcl'
      exact ⟨(hwf.client j cl hcl).1.of_core hcore, cl, hcl⟩
    exact exists_calls_kept (World.containers_setMux hpp rfl hdemuxed (World.entry_of_core hcore))
      (htry.calls ((World.kept_setMux hpp _ rfl hdemuxed).registry hregistry)
        (hwf.setMux (m := { m' with pp2sk := pp2_recv_leave frames m'.pp2sk }) hpp hclients (hsk.of_core hcore)) hid)

section InPlace

variable {wsd_errno : Errno} {num : Nat} {statics : Statics}

/-- A socket changes in place, and no call is made. -/
theorem exists_calls_set (hget : w.get id = some sk) (hentry : sk'.entry = sk.entry) :
    ∃ calls, Calls w calls { w.set id sk' with wsd_errno, num, statics } := by
  have hkept : World.containers { w.set id sk' with wsd_errno, num, statics } = w.containers :=
    World.containers_set hget hentry
  exact ⟨[], .kept hkept (.refl _)⟩

/-- A socket changes in place before it is closed. -/
theorem Closed.calls_set (hwf : w.Wf) (hregistry : w.Registry) (hget : w.get id = some sk)
    (hentry : sk'.entry = sk.entry) (hops : sk'.ops = sk.ops) (hproto : sk'.proto = sk.proto)
    (hbackend : w.pp2sk = some (id, sk) → id ∉ w.work_list)
    (h : Closed { w.set id sk' with wsd_errno, num, statics } id sk' w') : ∃ calls, Calls w calls w' := by
  have hset := hwf.set_core hget hops hproto
  have hkept : World.containers { w.set id sk' with wsd_errno, num, statics } = w.containers :=
    World.containers_set hget hentry
  refine exists_calls_kept hkept (h.calls (hregistry.set hwf hget (congrArg Entry.hash hentry) wsd_errno num statics)
    ⟨hset.client, hset.backend⟩ fun hpp hmem => ?_)
  rw [World.work_list_set] at hmem
  exact hbackend (World.backend_of_set hwf hget hpp) hmem

/-- A socket has been read from before it is linked for `try_recv`. -/
theorem Posted.calls_set (hwf : w.Wf) (hregistry : w.Registry) (hget : w.get id = some sk)
    (hentry : sk'.entry = sk.entry) (hops : sk'.ops = sk.ops) (hproto : sk'.proto = sk.proto)
    (h : Posted { w.set id sk' with wsd_errno, num, statics } id sk' w') : ∃ calls, Calls w calls w' := by
  have hset := hwf.set_core hget hops hproto
  have hkept : World.containers { w.set id sk' with wsd_errno, num, statics } = w.containers :=
    World.containers_set hget hentry
  exact exists_calls_kept hkept (h.calls (hregistry.set hwf hget (congrArg Entry.hash hentry) wsd_errno num statics)
    ⟨hset.client, hset.backend⟩ (World.get_set_self w id sk'))

end InPlace

theorem CheckTimeouts.calls {now : Timespec} (hwf : w.Wf) (hregistry : w.Registry) (hget : w.get id = some sk)
    (hquiet : ∀ p sk, w.pp2sk = some (p, sk) → sk.Quiet)
    (hbackend : w.pp2sk = some (id, sk) → id ∈ w.work_list →
      ¬ (cfg.idle_timeout ≠ -1 ∧ check_timeout sk now cfg.idle_timeout = true))
    (h : CheckTimeouts cfg now w id sk w') : ∃ calls, Calls w calls w' := by
  cases h with
  | unchanged wsd_errno => exact exists_calls_set hget rfl
  | idle wsd_errno w' hquiet' hidle hclosed =>
    exact hclosed.calls_set hwf hregistry hget rfl rfl rfl fun hpp hmem => hbackend hpp hmem hidle
  | started sendbuf wsd_errno hquiet hproto hsend => exact exists_calls_set hget rfl
  | timedOut wsd_errno w' hclosing htimedOut hclosed =>
    refine hclosed.calls_set hwf hregistry hget rfl rfl rfl fun hpp _ => ?_
    have hset := (hquiet id sk hpp).1
    rw [hclosing] at hset
    cases hset
  | pinged sendbuf wsd_errno hquiet hproto hsend => exact exists_calls_set hget rfl

theorem OnRead.calls {now : Timespec} (hwf : w.Wf) (hregistry : w.Registry) (hget : w.get id = some sk)
    (hbackend : w.pp2sk = some (id, sk) → id ∈ w.work_list → ¬ ReadFails cfg env.read env.retry sk)
    (h : OnRead cfg env.read env.retry now w id sk w') : ∃ calls, Calls w calls w' := by
  cases h with
  | bytes bytes wsd_errno w' hbytes hne hroom hposted =>
    exact hposted.calls_set hwf hregistry hget (by rfl) (by rfl) (by rfl)
  | full wsd_errno w' hroom hposted =>
    exact hposted.calls_set hwf hregistry hget (by rfl) (by rfl) (by rfl)
  | retry retries wsd_errno num => exact exists_calls_set hget rfl
  | closed retries wsd_errno num w' hfails hclosed =>
    exact hclosed.calls_set hwf hregistry hget (by rfl) (by rfl) (by rfl) fun hpp hmem => hbackend hpp hmem hfails

theorem OnEvent.calls {now : Timespec} {events : EpollEvents} (hwf : w.Wf) (hregistry : w.Registry)
    (hget : w.get id = some sk)
    (hbackend : w.pp2sk = some (id, sk) → id ∈ w.work_list → ¬ EventEnds cfg env events sk)
    (h : OnEvent cfg env now w id events sk w') : ∃ calls, Calls w calls w' := by
  unfold EventEnds at hbackend
  cases h with
  | read w' hin hclose_on_write hclose hread =>
    rw [if_pos hin] at hbackend
    exact hread.calls hwf hregistry hget hbackend
  | write sk' wsd_errno hwritten hclose hdrained => exact exists_calls_set hget hwritten.entry_eq
  | writeClosed sk' wsd_errno w' hout hends hwritten hclosed =>
    rw [if_neg hout.1, if_pos hout.2] at hbackend
    exact hclosed.calls_set hwf hregistry hget hwritten.entry_eq hwritten.kind.1 hwritten.kind.2
      fun hpp hmem => hbackend hpp hmem hends
  | closed w' hend hclosed =>
    rw [if_neg hend.1, if_neg hend.2.1] at hbackend
    exact hclosed.calls hregistry hwf fun hpp hmem => hbackend hpp hmem hend.2.2
  | unchanged => exact ⟨[], .refl w⟩

end Made

/-- The nodes which a traversal of `sk_list` has not visited yet. -/
def Pc.sk_queue : Pc → List Nat
  | .check_timeouts todo => todo
  | .shutdown todo => todo
  | _ => []

/-- The containers are in order, and behind the node which a traversal is at or has saved
    stand exactly the nodes which are left to visit. -/
structure State.InOrder (s : State) : Prop where
  registry : s.world.Registry
  fds : s.world.containers.OwnFds
  work : ∃ front, s.world.work_list = front ++ s.pc.queue
  sk : ∃ front, s.world.sk_list = front ++ s.pc.sk_queue

section Queues

variable {cfg : Config} {ssl : Openssl} {env : Env} {s s' : State} {w w' : World} {id : Nat} {sk sk' : Sk} {pc : Pc}
  {front todo : List Nat}

theorem erase_split (hnodup : (front ++ id :: todo).Nodup) : (front ++ id :: todo).erase id = front ++ todo := by
  rw [List.nodup_middle, List.nodup_cons, List.mem_append, not_or] at hnodup
  rw [List.erase_append_right _ hnodup.1.1, List.erase_cons_head]

/-- With descriptors of their own, no other socket is unlinked than the one which is closed. -/
theorem Closed.work_list_eq (hown : w.containers.OwnFds) (hid : id ∉ w.work_list) (hget : w.get id = some sk)
    (h : Closed w id sk w') : w'.work_list = w.work_list := by
  cases h with
  | client work_list hclient hapart hunlink =>
    have hentry : w.containers.sockets id = some sk.entry := congrArg (Option.map Sk.entry) hget
    change work_list = w.work_list
    rw [World.unlink_fd_eq hunlink, List.filter_eq_self]
    intro j hj
    cases hother : w.containers.has_fd sk.fd j with
    | false => rfl
    | true =>
      obtain ⟨e, he, hfd⟩ := (Option.any_eq_true ..).mp hother
      exact absurd (hown j id e sk.entry he hentry (of_decide_eq_true hfd) ▸ hj) hid
  | backend => rfl

/-- The world may have changed before in what the containers do not depend on. -/
theorem TryRecv.work_split {w1 : World} {rv : Int} (hkept : w1.containers = w.containers) (hnodup : w.work_list.Nodup)
    (hown : w.containers.OwnFds) (hwork : w.work_list = front ++ id :: todo) (h : TryRecv w1 id rv w') :
    ∃ front', w'.work_list = front' ++ todo := by
  have hsame : w1.work_list = w.work_list := congrArg Containers.work_list hkept
  rw [← hsame] at hnodup hwork
  rw [← hkept] at hown
  have herase : w1.work_list.erase id = front ++ todo := by
    rw [hwork] at hnodup ⊢
    exact erase_split hnodup
  cases h with
  | done => exact ⟨front, herase⟩
  | again => exact ⟨front ++ [id], by rw [List.append_assoc, List.singleton_append]; exact hwork⟩
  | flushing => exact ⟨front, herase⟩
  | closed sk w' hrv hinput hagain hget hclose hclosed =>
    have hwork' := Closed.work_list_eq (w := { w1 with work_list := w1.work_list.erase id }) hown hnodup.not_mem_erase
      hget hclosed
    exact ⟨front, hwork'.trans herase⟩

theorem RecvStep.queues (hnodup : w.work_list.Nodup) (hown : w.containers.OwnFds) (hget : w.get id = some sk)
    (hwork : w.work_list = front ++ id :: todo) (h : RecvStep cfg ssl env w id sk todo w' pc) :
    (∃ front', w'.work_list = front' ++ pc.queue) ∧ pc.sk_queue = [] := by
  cases h with
  | http sk' statics wsd_errno rv w' hrecv hhttp htry =>
    have hkept : World.containers { w.set id sk' with statics, wsd_errno } = w.containers :=
      World.containers_set hget (http_recv_entry hhttp)
    exact ⟨htry.work_split hkept hnodup hown hwork, rfl⟩
  | ws => exact ⟨⟨front, hwork⟩, rfl⟩
  | opened => exact ⟨⟨front, hwork⟩, rfl⟩
  | notOpened wsd_errno num w' hrecv hrdsz hpp htry =>
    have hkept : World.containers { w with wsd_errno, num } = w.containers := rfl
    exact ⟨htry.work_split hkept hnodup hown hwork, rfl⟩
  | pp2 => exact ⟨⟨front, hwork⟩, rfl⟩

theorem WsRecvStep.queues {frames p : Nat} {pp2sk : Sk} {wsd_errno : Errno} (hwf : w.Wf) (hnodup : w.work_list.Nodup)
    (hown : w.containers.OwnFds) (hclient : w.clients id = some sk) (hpp : w.pp2sk = some (p, pp2sk))
    (hwork : w.work_list = front ++ id :: todo)
    (h : WsRecvStep w id frames todo { sk, pp2sk, wsd_errno } w' pc) :
    (∃ front', w'.work_list = front' ++ pc.queue) ∧ pc.sk_queue = [] := by
  cases h with
  | frame c' hdecoded => exact ⟨⟨front, hwork⟩, rfl⟩
  | done rv c' w' hrv hdecoded htry =>
    have hleave := ws_recv_leave_core frames c'
    have hkept := World.containers_setConn hwf hclient hpp (World.entry_of_core (hleave.1.trans hdecoded.core.1))
      (World.entry_of_core (hleave.2.trans hdecoded.core.2))
    exact ⟨htry.work_split hkept hnodup hown hwork, rfl⟩

theorem Pp2RecvStep.queues {frames : Nat} {wsd_errno : Errno} (hnodup : w.work_list.Nodup) (hown : w.containers.OwnFds)
    (hpp : w.pp2sk = some (id, sk)) (hwork : w.work_list = front ++ id :: todo)
    (h : Pp2RecvStep w id frames todo { clients := w.clients, sk_hash := w.sk_hash, pp2sk := sk, wsd_errno } w' pc) :
    (∃ front', w'.work_list = front' ++ pc.queue) ∧ pc.sk_queue = [] := by
  cases h with
  | frame m' hdemuxed => exact ⟨⟨front, hwork⟩, rfl⟩
  | done rv m' w' hrv hdemuxed htry =>
    have hkept := World.containers_setMux hpp rfl hdemuxed
      (World.entry_of_core ((pp2_recv_leave_core frames m'.pp2sk).trans hdemuxed.core))
    exact ⟨htry.work_split hkept hnodup hown hwork, rfl⟩

theorem Closed.sk_list_eq (h : Closed w id sk w') : w'.sk_list = w.sk_list.erase id := by
  cases h <;> rfl

/-- `check_timeouts` unlinks no other node than the one of its socket. -/
theorem CheckTimeouts.sk_split {now : Timespec} (hnodup : w.sk_list.Nodup) (hsk : w.sk_list = front ++ id :: todo)
    (h : CheckTimeouts cfg now w id sk w') : ∃ front', w'.sk_list = front' ++ todo := by
  have hstays : ∃ front', w.sk_list = front' ++ todo :=
    ⟨front ++ [id], by rw [List.append_assoc, List.singleton_append]; exact hsk⟩
  have herase : w.sk_list.erase id = front ++ todo := by
    rw [hsk] at hnodup ⊢
    exact erase_split hnodup
  cases h with
  | unchanged => simpa only [World.sk_list_set] using hstays
  | idle wsd_errno w' hquiet hidle hclosed =>
    refine ⟨front, hclosed.sk_list_eq.trans ?_⟩
    rw [World.sk_list_set]
    exact herase
  | started => simpa only [World.sk_list_set] using hstays
  | timedOut wsd_errno w' hclosing htimedOut hclosed =>
    refine ⟨front, hclosed.sk_list_eq.trans ?_⟩
    rw [World.sk_list_set]
    exact herase
  | pinged => simpa only [World.sk_list_set] using hstays

/-- What a traversal has left to visit stays behind it in its list. -/
theorem Stepped.queues (hwf : s.Wf) (hs : s.InOrder) (h : Stepped cfg ssl env s s') :
    (∃ front, s'.world.work_list = front ++ s'.pc.queue) ∧ ∃ front, s'.world.sk_list = front ++ s'.pc.sk_queue := by
  have hown := hs.fds
  have hwork_nodup := hs.registry.work_nodup
  have hsk_nodup := hs.registry.list_nodup
  obtain ⟨front, hwork⟩ := hs.work
  obtain ⟨front', hsk⟩ := hs.sk
  have hempty (nodes : List Nat) : ∃ front, nodes = front ++ [] := ⟨nodes, (List.append_nil nodes).symm⟩
  cases h with
  | done hpc => exact ⟨hempty _, [], rfl⟩
  | iteration hpc => exact ⟨⟨[], rfl⟩, hempty _⟩
  | received hpc => exact ⟨hempty _, [], rfl⟩
  | try_recv id todo sk world pc hpc hget hrecv =>
    rw [hpc] at hwork
    obtain ⟨hqueue, hsk_queue⟩ := hrecv.queues hwork_nodup hown hget hwork
    refine ⟨hqueue, ?_⟩
    rw [hsk_queue]
    exact hempty _
  | ws_recv id frames todo sk p pp2sk world pc hpc hclient hup hpp hrecv =>
    rw [hpc] at hwork
    obtain ⟨hqueue, hsk_queue⟩ := hrecv.queues hwf.world hwork_nodup hown hclient hpp hwork
    refine ⟨hqueue, ?_⟩
    rw [hsk_queue]
    exact hempty _
  | pp2_recv id frames todo sk world pc hpc hpp hrecv =>
    rw [hpc] at hwork
    obtain ⟨hqueue, hsk_queue⟩ := hrecv.queues hwork_nodup hown hpp hwork
    refine ⟨hqueue, ?_⟩
    rw [hsk_queue]
    exact hempty _
  | checked hpc => exact ⟨hempty _, hempty _⟩
  | check_timeouts id todo sk world hpc hget hcheck =>
    rw [hpc] at hsk
    exact ⟨hempty _, hcheck.sk_split hsk_nodup hsk⟩
  | interrupted hpc => exact ⟨hempty _, hempty _⟩
  | waited events hpc => exact ⟨hempty _, hempty _⟩
  | handled hpc => exact ⟨hempty _, hempty _⟩
  | accepted a events todo hpc => exact ⟨hempty _, hempty _⟩
  | on_event id events todo sk world hpc => exact ⟨hempty _, hempty _⟩
  | exit hpc => exact ⟨⟨front, hwork⟩, front', hsk⟩
  | shutdown id todo sk world hpc hget hclosed =>
    rw [hpc] at hsk
    refine ⟨hempty _, front', hclosed.sk_list_eq.trans ?_⟩
    rw [hsk] at hsk_nodup ⊢
    exact erase_split hsk_nodup

end Queues

section Runs

variable {cfg : Config} {ssl : Openssl} {env : Env} {s s' : State}

theorem FreshFd.newFd {w : World} {fd : Int} (hwf : w.Wf) (h : FreshFd cfg w fd) : LinkCall.NewFd w fd := by
  intro id sk hget heq
  apply h.2.2 id (hwf.get_lt hget)
  rw [hget, Option.map_some, heq]

/-- A step changes the containers by calls whose callers keep what they promise. -/
theorem Stepped.calls (hwf : s.Wf) (hs : s.InOrder) (hvalid : env.Valid cfg s) (hlinked : ¬ s.ClosesLinked cfg env)
    (h : Stepped cfg ssl env s s') : ∃ calls, Calls s.world calls s'.world := by
  have hregistry := hs.registry
  obtain ⟨front, hwork⟩ := hs.work
  cases h with
  | try_recv id todo sk world pc hpc hget hrecv =>
    rw [hpc] at hwork
    refine hrecv.calls hwf.world hregistry hget (by simp [hwork, Pc.queue]) fun fd hfd => ?_
    exact (hvalid.2.1 _ hfd fd rfl).newFd hwf.world
  | ws_recv id frames todo sk p pp2sk world pc hpc hclient hup hpp hrecv =>
    rw [hpc] at hwork
    exact hrecv.calls hwf.world hregistry hclient hpp (by simp [hwork, Pc.queue])
  | pp2_recv id frames todo sk world pc hpc hpp hrecv =>
    rw [hpc] at hwork
    exact hrecv.calls hwf.world hregistry hpp (by simp [hwork, Pc.queue])
  | check_timeouts id todo sk world hpc hget hcheck =>
    refine hcheck.calls hwf.world hregistry hget hwf.quiet fun hpp hmem hidle => ?_
    exact hlinked ⟨id, sk, hpp, hmem, Or.inr (Or.inl ⟨todo, hpc, hidle⟩)⟩
  | accepted a events todo hpc haccepted hbucket =>
    have hnear : a.src_addr.last < HASH_SIZE := by
      rwa [← hash_min_hash a.src_addr a.tv_nsec]
    have hnew : LinkCall.NewFd s.world a.fd := (hvalid.2.2.1 a haccepted).newFd hwf.world
    have hcall : LinkCall.call (.sk_accept a) s.world = .ok (s.world.accept a) := by
      rw [LinkCall.call, sk_accept_of_near s.world hbucket]
      rfl
    exact ⟨[.sk_accept a], .call (.sk_accept a) hwf.world hregistry ⟨hnew, hnear⟩ hcall (.refl _)⟩
  | on_event id events todo sk world hpc hget hevent =>
    refine hevent.calls hwf.world hregistry hget fun hpp hmem hends => ?_
    exact hlinked ⟨id, sk, hpp, hmem, Or.inl ⟨events, todo, hpc, hends⟩⟩
  | shutdown id todo sk world hpc hget hclosed =>
    refine hclosed.calls hregistry hwf.world fun hpp hmem => ?_
    exact hlinked ⟨id, sk, hpp, hmem, Or.inr (Or.inr ⟨todo, hpc⟩)⟩
  | _ => exact ⟨[], .refl _⟩

/-- A step of a run keeps the containers, and what the traversals have saved, in order. -/
theorem Stepped.inOrder {calls : List LinkCall} (hwf : s.Wf) (hs : s.InOrder) (hlinked : ¬ s.ClosesLinked cfg env)
    (hcalls : Calls s.world calls s'.world) (h : Stepped cfg ssl env s s') : s'.InOrder :=
  ⟨h.registry hwf hs.registry hlinked, hcalls.ownFds hs.fds, (h.queues hwf hs).1, (h.queues hwf hs).2⟩

theorem init_inOrder : (daemon cfg ssl).init.InOrder where
  registry := World.registry_init
  fds := by
    intro i j sk sk' hi
    cases hi
  work := ⟨[], rfl⟩
  sk := ⟨[], rfl⟩

theorem reach_inOrder (h : (daemon cfg ssl).Reach (fun s env => ¬ s.ClosesLinked cfg env) s) : s.InOrder := by
  refine reach_invariant (I := State.InOrder) h init_inOrder fun s s' env hwf hs hvalid hlinked hstepped => ?_
  obtain ⟨calls, hcalls⟩ := hstepped.calls hwf hs hvalid hlinked
  exact hstepped.inOrder hwf hs hlinked hcalls

/-- A step of a run makes the calls, in between which its sockets change in place. -/
def Makes (m : Transition.Move State Env) (calls : List LinkCall) : Prop :=
  Calls m.before.world calls m.after.world

/-- Each step of a run makes its calls, and the calls of all its steps lead from the
    initial world to the last. -/
theorem path_calls {path : List (Transition.Move State Env)}
    (h : (daemon cfg ssl).Path (fun s env => ¬ s.ClosesLinked cfg env ∧ ¬ s.AcceptsFar env) path s) :
    ∃ calls, List.Forall₂ Makes path calls ∧ Calls World.init calls.flatten s.world ∧ s.InOrder := by
  refine h.invariant (I := fun path s => ∃ calls, List.Forall₂ Makes path calls ∧
    Calls World.init calls.flatten s.world ∧ s.InOrder) ⟨[], .nil, .refl _, init_inOrder⟩ ?_
  rintro path s s' env hreach ⟨calls, hmakes, hcalls, hs⟩ hvalid hP hstep
  have hwf := reach_wf hreach
  have hstepped := step_inv hwf hstep
  obtain ⟨made, hmade⟩ := hstepped.calls hwf hs hvalid hP.1
  refine ⟨calls ++ [made], List.rel_append hmakes (.cons hmade .nil), ?_, hstepped.inOrder hwf hs hP.1 hmade⟩
  rw [List.flatten_append, List.flatten_singleton]
  exact hcalls.trans hmade

/-- As long as the backend's socket is not closed while it is linked for `try_recv`, and no
    connection is accepted whose bucket is behind the table, the pointers follow the lists:
    the calls of the run access no null pointer, no freed memory and nothing behind the
    table, and leave `sk_list`, `work_list` and the chains of `sk_hash` linked in both
    directions with exactly the nodes of the lists, in their order. What a traversal has
    still to visit is behind the node which it has saved, and a lookup along the pointers
    finds what a lookup in the lists finds. -/
theorem containers_linked {path : List (Transition.Move State Env)}
    (h : (daemon cfg ssl).Path (fun s env => ¬ s.ClosesLinked cfg env ∧ ¬ s.AcceptsFar env) path s) :
    ∃ calls m, List.Forall₂ Makes path calls ∧ (Linkage.init >>= LinkCall.runAll calls.flatten) = .ok m ∧
      m.Holds s.world.containers ∧ (∃ front, s.world.work_list = front ++ s.pc.queue) ∧
      (∃ front, s.world.sk_list = front ++ s.pc.sk_queue) ∧
      ∀ hash, hash_min hash < HASH_SIZE → ∃ found,
        hash_lookup s.world.clients s.world.sk_hash hash = .ok found ∧
          m.hash_lookup hash = .ok (found.map Prod.fst) := by
  obtain ⟨calls, hmade, hcalls, hs⟩ := path_calls h
  obtain ⟨m0, hinit, hholds0⟩ := Linkage.init_holds
  obtain ⟨m, hrun, hholds⟩ := hcalls.holds hholds0
  refine ⟨calls, m, hmade, ?_, hholds, hs.work, hs.sk, fun hash hnear => ?_⟩
  · rw [hinit]
    exact hrun
  · have hopen : ∀ id ∈ s.world.sk_hash (hash_min hash), ∃ sk, s.world.clients id = some sk := by
      intro id hid
      obtain ⟨sk, hclient, -⟩ := (hs.registry.linked.mem_iff _ id).mp hid
      exact ⟨sk, hclient⟩
    obtain ⟨found, hlookup, -⟩ := hash_for_each_possible_ends hash hopen
    refine ⟨found, (hash_lookup_of_near hnear).trans hlookup, ?_⟩
    rw [World.hash_for_each_possible_eq (reach_wf h.reach).world hlookup]
    exact hholds.hash_lookup hash hnear

/-- The backend's socket has been opened for the first frame of a client. -/
theorem containers_linked_opened : ∃ (s : State) (m : Linkage), s.pc.queue = [0] ∧
    m.lists.Ring .sk_list [.sk_node 0, .sk_node 1] ∧ m.lists.Ring .work_list [.work_node 0] := by
  obtain ⟨path, s, hpath, hqueue, hsk, hwork⟩ := Transition.System.exists_path
    (daemon Sample.config Sample.openssl)
    (P := fun s env => (∀ pp ∈ s.world.pp2sk, pp.1 ∉ s.world.work_list) ∧
      ∀ a ∈ env.accepted, a.src_addr.last < HASH_SIZE)
    (B := fun _ s => s.pc.queue = [0] ∧ s.world.sk_list = [0, 1] ∧ s.world.work_list = [0])
    (Sample.connected Sample.request ++ Sample.iteration 9 4 (some 0) EPOLLIN { read := .ok [0x81, 0x80, 0, 0, 0, 0] } ++
      [{ clock := { tv_sec := 9, tv_nsec := 0 } }, { opens := [.connected 6] }]) (by decide +kernel)
  obtain ⟨calls, m, -, -, hholds, -⟩ := containers_linked (hpath.mono (by
    rintro s env ⟨hapart, hnear⟩
    constructor
    · rintro ⟨p, sk, hpp, hmem, -⟩
      exact hapart (p, sk) hpp hmem
    · rintro ⟨events, todo, a, -, haccepted, hfar⟩
      exact absurd (hnear a haccepted) (Nat.not_lt.mpr hfar)))
  have hsk_list := hholds.sk_list
  have hwork_list := hholds.work_list
  simp only [World.containers, hsk, hwork] at hsk_list hwork_list
  exact ⟨s, m, hqueue, hsk_list, hwork_list⟩

end Runs

end wsd
