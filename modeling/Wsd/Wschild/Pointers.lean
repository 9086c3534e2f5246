import Wsd.Wschild.Abort
import Wsd.Wschild.Containers
import Wsd.Wschild.Linkage

namespace wsd

namespace Linkage.Holds

variable {m : Linkage} {c : Containers} {id : Nat} {sk : Entry}

theorem sk_accept (h : m.Holds c) (a : Accepted) (hnear : a.src_addr.last < HASH_SIZE) :
    ∃ m', m.sk_accept a = .ok m' ∧ m'.Holds { c with
      sockets := Function.update c.sockets c.next (some { fd := a.fd, hash := hash a.src_addr a.tv_nsec })
      sk_list := c.sk_list ++ [c.next]
      sk_hash := Function.update c.sk_hash (hash_min (hash a.src_addr a.tv_nsec))
        (c.next :: c.sk_hash (hash_min (hash a.src_addr a.tv_nsec)))
      next := c.next + 1 } := by
  have hfree := h.next_free
  have hmalloc := h.malloc { fd := a.fd, hash := hash a.src_addr a.tv_nsec }
  obtain ⟨m1, hadd, hholds1⟩ := @hash_add _ _ c.next hmalloc (hash a.src_addr a.tv_nsec) (by simp)
    (by rwa [hash_min_hash]) fun bucket hid => by
      rw [h.hash_open hid] at hfree
      cases hfree
  obtain ⟨m2, hlink, hholds2⟩ := @list_add_sk _ _ c.next hholds1 (by simp) fun hid => by
    rw [h.sk_open hid] at hfree
    cases hfree
  refine ⟨m2, ?_, hholds2⟩
  rw [Linkage.sk_accept]
  simp only [h.next, hadd, Except.ok_bind]
  exact hlink

theorem sk_connect (h : m.Holds c) (fd : Int) : ∃ m', m.sk_open fd = .ok m' ∧ m'.Holds { c with
    sockets := Function.update c.sockets c.next (some { fd, hash := 0xffffffffffffffff })
    sk_list := c.sk_list ++ [c.next]
    next := c.next + 1 } := by
  have hfree := h.next_free
  have hmalloc := h.malloc { fd, hash := 0xffffffffffffffff }
  obtain ⟨m1, hlink, hholds⟩ := @list_add_sk _ _ c.next hmalloc (by simp) fun hid => by
    rw [h.sk_open hid] at hfree
    cases hfree
  refine ⟨m1, ?_, hholds⟩
  rw [Linkage.sk_open, h.next]
  exact hlink

/-- A client is unlinked from all containers before it is freed. -/
theorem sk_close (h : m.Holds c) {bucket : Nat} (hget : c.sockets id = some sk) (hhash : id ∈ c.sk_hash bucket)
    (hsk : id ∈ c.sk_list) : ∃ m', m.sk_close id = .ok m' ∧ m'.Holds { c with
      sockets := Function.update c.sockets id none
      sk_list := c.sk_list.erase id
      work_list := c.work_list.filter fun j => !c.has_fd sk.fd j
      sk_hash := fun b => (c.sk_hash b).erase id } := by
  obtain ⟨m1, hdel1, hholds1⟩ := h.hash_del hhash
  obtain ⟨m2, hdel2, hholds2⟩ := hholds1.list_del_sk hsk
  have hfuel := hholds2.length_le hholds2.work_nodup fun j hj => hholds2.work_open hj
  obtain ⟨head, hhead, hfirst⟩ := hholds2.work_first
  -- the loop reads the successor of the first node, which is the head if there is none
  obtain ⟨first, p, hderef, hn⟩ : ∃ first p, m2.lists.deref head.next = .ok (p, first) ∧
      ∀ j back, c.work_list = j :: back → first.next = some ((back.map .work_node).headD .work_list) := by
    rw [hfirst]
    cases hwork : c.work_list with
    | nil => exact ⟨head, .work_list, hhead, fun j back heq => by cases heq⟩
    | cons i rest =>
      obtain ⟨node, hderef, hnext⟩ := @work_next _ _ i hholds2 [] rest hwork
      refine ⟨node, .work_node i, hderef, fun j back heq => ?_⟩
      cases heq
      exact hnext
  obtain ⟨m3, hloop, hholds3⟩ := hholds2.unlink_loop sk.fd (m2.next + 1) c.work_list [] first.next rfl
    (Nat.lt_succ_of_le hfuel) hn
  refine ⟨m3.free id, ?_, hholds3.free ?_ ?_ ?_⟩
  · rw [Linkage.sk_close, h.deref hget]
    simp only [Except.ok_bind, hdel1, hdel2, hhead, hderef]
    rw [hfirst, hloop]
    rfl
  · exact h.sk_nodup.not_mem_erase
  · rw [List.nil_append, List.mem_filter]
    rintro ⟨-, hother⟩
    simp [Containers.has_fd, hget] at hother
  · exact fun b => (h.nodup b).not_mem_erase

/-- The backend's socket is on `sk_list` only. -/
theorem pp2_close (h : m.Holds c) (hhash : ∀ bucket, id ∉ c.sk_hash bucket) (hsk : id ∈ c.sk_list)
    (hwork : id ∉ c.work_list) : ∃ m', m.pp2_close id = .ok m' ∧ m'.Holds { c with
      sockets := Function.update c.sockets id none
      sk_list := c.sk_list.erase id } := by
  obtain ⟨m1, hdel, hholds⟩ := h.list_del_sk hsk
  refine ⟨m1.free id, ?_, hholds.free h.sk_nodup.not_mem_erase hwork hhash⟩
  rw [Linkage.pp2_close, hdel]
  rfl

theorem post_read (h : m.Holds c) (hget : c.sockets id = some sk) : ∃ m', m.post_read id = .ok m' ∧ m'.Holds { c with
    work_list := if c.work_list.any (c.has_fd sk.fd) then c.work_list else c.work_list ++ [id] } := by
  have hfuel := h.length_le h.work_nodup fun j hj => h.work_open hj
  obtain ⟨head, hhead, hfirst⟩ := h.work_first
  have hfound := h.has_fd sk.fd (m.next + 1) c.work_list [] rfl (Nat.lt_succ_of_le hfuel)
  rw [← hfirst] at hfound
  cases hany : c.work_list.any (c.has_fd sk.fd) with
  | true =>
    refine ⟨m, ?_, h⟩
    rw [Linkage.post_read, h.deref hget]
    simp only [Except.ok_bind, hhead, hfound, hany, if_true]
    rfl
  | false =>
    obtain ⟨m1, hlink, hholds⟩ := @list_add_work _ _ id h (by rw [hget]; rfl) fun hid => by
      rw [List.any_eq_false] at hany
      exact hany id hid (by simp [Containers.has_fd, hget])
    refine ⟨m1, ?_, hholds⟩
    rw [Linkage.post_read, h.deref hget]
    simp only [Except.ok_bind, hhead, hfound, hany, Bool.false_eq_true, if_false]
    exact hlink

theorem hash_lookup (h : m.Holds c) (hash : UInt64) (hnear : hash_min hash < HASH_SIZE) :
    m.hash_lookup hash = .ok ((c.sk_hash (hash_min hash)).find? (c.has_hash hash)) := by
  have hread := Links.Chain.head? (h.chain _ hnear)
  have hfirst : m.hlists.first (hash_min hash) = some (c.sk_hash (hash_min hash)).head? := hread
  have hfuel : (c.sk_hash (hash_min hash)).length ≤ m.next := h.length_le (h.nodup _) fun j hj => h.hash_open hj
  rw [Linkage.hash_lookup, hfirst]
  exact h.lookup_loop hash (m.next + 1) _ _ [] rfl (Nat.lt_succ_of_le hfuel)

end Linkage.Holds

/-- The calls which change the containers. The last one is what `try_recv` does with the
    work node of a socket which it is done with. -/
inductive LinkCall
  | sk_accept (accepted : Accepted)
  | sk_open (fd : Int)
  | sk_close (id : Nat)
  | pp2_close (id : Nat)
  | post_read (id : Nat)
  | list_del (id : Nat)

namespace LinkCall

/-- The call on the lists. -/
def call : LinkCall → World → Except Fault World
  | .sk_accept a, w => do
    let (_, w) ← wsd.sk_accept (some a) w
    return w
  | .sk_open fd, w => .ok (wsd.sk_open (.connected fd) w).2
  | .sk_close id, w => wsd.sk_close w id
  | .pp2_close id, w => wsd.pp2_close w id
  | .post_read id, w => wsd.post_read w id
  | .list_del id, w => .ok { w with work_list := w.work_list.erase id }

/-- The call on the pointers. -/
def run : LinkCall → Linkage → Except Fault Linkage
  | .sk_accept a, m => m.sk_accept a
  | .sk_open fd, m => m.sk_open fd
  | .sk_close id, m => m.sk_close id
  | .pp2_close id, m => m.pp2_close id
  | .post_read id, m => m.post_read id
  | .list_del id, m => m.list_del (some (.work_node id))

/-- Calls in order on the pointers. -/
def runAll : List LinkCall → Linkage → Except Fault Linkage
  | [], m => .ok m
  | c :: calls, m => do
    let m ← c.run m
    runAll calls m

/-- No open socket has the descriptor. -/
def NewFd (w : World) (fd : Int) : Prop :=
  ∀ id sk, w.get id = some sk → sk.fd ≠ fd

/-- What the callers promise: a new descriptor, a bucket in the table, one backend at a
    time whose socket is not closed while it is linked for `try_recv`, and only linked
    nodes are unlinked. -/
def Valid (w : World) : LinkCall → Prop
  | .sk_accept a => NewFd w a.fd ∧ a.src_addr.last < HASH_SIZE
  | .sk_open fd => NewFd w fd ∧ w.pp2sk = none
  | .sk_close _ => True
  | .pp2_close id => id ∉ w.work_list
  | .post_read _ => True
  | .list_del id => id ∈ w.work_list

end LinkCall

namespace World

variable {w w' : World} {id p : Nat} {sk sk' pp2sk : Sk}

theorem containers_update {get' : Nat → Option Sk} {o : Option Sk} (h : get' = Function.update w.get id o) :
    (fun j => (get' j).map Sk.entry) = Function.update w.containers.sockets id (o.map Sk.entry) := by
  funext j
  rw [h]
  simp only [Function.update_apply]
  split <;> rfl

theorem containers_accept (hwf : w.Wf) (a : Accepted) : (w.accept a).containers = { w.containers with
    sockets := Function.update w.containers.sockets w.next (some { fd := a.fd, hash := hash a.src_addr a.tv_nsec })
    sk_list := w.sk_list ++ [w.next]
    sk_hash := Function.update w.sk_hash (hash_min (hash a.src_addr a.tv_nsec))
      (w.next :: w.sk_hash (hash_min (hash a.src_addr a.tv_nsec)))
    next := w.next + 1 } := by
  have hget : (w.accept a).get = _ := get_accept hwf _ _ _
  rw [containers, containers_update hget]
  rfl

theorem containers_open (hpp : w.pp2sk = none) (fd : Int) : (sk_open (.connected fd) w).2.containers = { w.containers with
    sockets := Function.update w.containers.sockets w.next (some { fd, hash := 0xffffffffffffffff })
    sk_list := w.sk_list ++ [w.next]
    next := w.next + 1 } := by
  have hget : (sk_open (.connected fd) w).2.get = _ := get_open hpp _ _
  rw [containers, containers_update hget]
  rfl

/-- A socket which keeps its descriptor and its hash may change in place. -/
theorem containers_set (hget : w.get id = some sk) (hentry : sk'.entry = sk.entry) :
    (w.set id sk').containers = w.containers := by
  have hsockets := containers_update (get_set w id sk')
  have hsame : w.containers.sockets id = some sk'.entry := by
    rw [hentry]
    exact congrArg (Option.map Sk.entry) hget
  rw [Option.map_some, ← hsame, Function.update_eq_self] at hsockets
  simp only [containers, sk_list_set, work_list_set, sk_hash_set, next_set] at hsockets ⊢
  rw [hsockets]

theorem containers_setConn (hwf : w.Wf) (hclient : w.clients id = some sk) (hpp : w.pp2sk = some (p, pp2sk)) {c : Conn}
    (hsk : c.sk.entry = sk.entry) (hpp2sk : c.pp2sk.entry = pp2sk.entry) : (w.setConn id c).containers = w.containers := by
  have hsockets : (fun j => ((w.setConn id c).get j).map Sk.entry) = w.containers.sockets := by
    funext j
    rw [get_setConn hpp]
    simp only [Function.update_apply]
    split
    · rename_i hj
      rw [hj, Option.map_some, hpp2sk]
      exact (congrArg (Option.map Sk.entry) (get_backend hpp)).symm
    · split
      · rename_i hj
        rw [hj, Option.map_some, hsk]
        exact (congrArg (Option.map Sk.entry) (hwf.get_of_client hclient)).symm
      · rfl
  rw [containers, hsockets]
  rfl

theorem entry_of_core (h : sk'.core = sk.core) : sk'.entry = sk.entry := by
  have hfd : sk'.fd = sk.fd := congrArg Sk.Core.fd h
  have hhash : sk'.hash = sk.hash := congrArg Sk.Core.hash h
  rw [Sk.entry, Sk.entry, hfd, hhash]

theorem containers_setMux {m m' : Mux} {rv : Int} {pp2sk' : Sk} (hpp : w.pp2sk = some (p, pp2sk))
    (hclients : m.clients = w.clients) (hdemuxed : Demuxed m rv m') (hpp2sk : pp2sk'.entry = pp2sk.entry) :
    (w.setMux { m' with pp2sk := pp2sk' }).containers = w.containers := by
  have hsockets : (fun j => ((w.setMux { m' with pp2sk := pp2sk' }).get j).map Sk.entry) = w.containers.sockets := by
    funext j
    simp only [get, setMux, containers, hpp, Option.map_some]
    split
    · rw [Option.map_some, hpp2sk, Option.map_some]
    · rw [← hclients]
      cases hcl' : m'.clients j with
      | none => rw [hdemuxed.clients_none hcl']
      | some cl' =>
        obtain ⟨cl, hcl, hcore⟩ := hdemuxed.clients_core hcl'
        rw [hcl, Option.map_some, Option.map_some, entry_of_core hcore]
  rw [containers, hsockets]
  rfl

theorem has_fd_of_get (hget : w.get id = some sk) (fd : Int) :
    w.containers.has_fd fd id = decide (sk.fd = fd) := by
  simp only [Containers.has_fd, containers, hget]
  rfl

theorem has_hash_of_get (hget : w.get id = some sk) (hash : UInt64) :
    w.containers.has_hash hash id = decide (sk.hash = hash) := by
  simp only [Containers.has_hash, containers, hget]
  rfl

/-- The two loops over the work list as functions of the containers. -/
theorem unlink_fd_eq {fd : Int} {nodes nodes' : List Nat} (h : unlink_fd w fd nodes = .ok nodes') :
    nodes' = nodes.filter fun j => !w.containers.has_fd fd j := by
  induction nodes generalizing nodes' with
  | nil =>
    cases h
    rfl
  | cons pos rest ih =>
    unfold unlink_fd at h
    obtain ⟨sk, hderef, h⟩ := Except.bind_eq_ok_iff.mp h
    obtain ⟨rest', hrest, h⟩ := Except.bind_eq_ok_iff.mp h
    have hfound := has_fd_of_get (deref_eq_ok hderef) fd
    cases h
    by_cases hfd : fd = sk.fd
    · rw [if_pos hfd, List.filter_cons_of_neg (by rw [hfound]; simp [hfd]), ih hrest]
    · rw [if_neg hfd, List.filter_cons_of_pos (by rw [hfound]; simpa using fun heq => hfd heq.symm), ih hrest]

theorem has_fd_eq {fd : Int} {nodes : List Nat} {linked : Bool} (h : has_fd w fd nodes = .ok linked) :
    linked = nodes.any (w.containers.has_fd fd) := by
  induction nodes with
  | nil =>
    cases h
    rfl
  | cons pos rest ih =>
    unfold has_fd at h
    obtain ⟨sk, hderef, h⟩ := Except.bind_eq_ok_iff.mp h
    have hfound := has_fd_of_get (deref_eq_ok hderef) fd
    rw [List.any_cons, hfound]
    by_cases hfd : sk.fd = fd
    · rw [if_pos hfd] at h
      cases h
      simp [hfd]
    · rw [if_neg hfd] at h
      rw [ih h]
      simp [hfd]

/-- The walk along the chain of open clients as a function of the containers. -/
theorem hash_for_each_possible_eq (hwf : w.Wf) {hash : UInt64} {chain : List Nat} {found : Option (Nat × Sk)}
    (h : hash_for_each_possible w.clients hash chain = .ok found) :
    found.map Prod.fst = chain.find? (w.containers.has_hash hash) := by
  induction chain with
  | nil =>
    cases h
    rfl
  | cons first chain ih =>
    unfold hash_for_each_possible at h
    cases hfirst : w.clients first with
    | none =>
      rw [hfirst] at h
      cases h
    | some sk =>
      have hfound := has_hash_of_get (hwf.get_of_client hfirst) hash
      simp only [hfirst] at h
      by_cases hhash : sk.hash = hash
      · rw [if_pos hhash] at h
        cases h
        rw [List.find?_cons_of_pos (by simp [hfound, hhash])]
        rfl
      · rw [if_neg hhash] at h
        rw [ih h, List.find?_cons_of_neg (by simp [hfound, hhash])]

end World

section Simulation

variable {w w' w1 : World} {m : Linkage} {id : Nat} {sk : Sk} {calls calls' : List LinkCall}

/-- Only a client is closed by `sk_close`. -/
theorem sk_close_closed (hwf : w.Wf) (h : sk_close w id = .ok w') : ∃ sk, w.clients id = some sk ∧ Closed w id sk w' := by
  unfold sk_close at h
  cases hclient : w.clients id with
  | none =>
    rw [hclient] at h
    cases h
  | some sk =>
    rw [hclient] at h
    obtain ⟨work_list, hunlink, h⟩ := Except.bind_eq_ok_iff.mp h
    cases h
    refine ⟨sk, rfl, .client work_list hclient (fun p hp heq => ?_) hunlink⟩
    have hnone := (hwf.backend p.1 p.2 hp).2.2
    rw [heq, hclient] at hnone
    cases hnone

theorem pp2_close_closed (hwf : w.Wf) (h : pp2_close w id = .ok w') :
    ∃ sk, w.pp2sk = some (id, sk) ∧ Closed w id sk w' := by
  unfold pp2_close at h
  cases hpp : w.pp2sk with
  | none =>
    rw [hpp] at h
    cases h
  | some pp =>
    obtain ⟨p, sk⟩ := pp
    simp only [hpp] at h
    by_cases hid : id = p
    · rw [if_pos hid] at h
      cases h
      subst hid
      exact ⟨sk, rfl, .backend hpp (hwf.backend id sk hpp).2.2⟩
    · rw [if_neg hid] at h
      cases h

theorem containers_closed (h : Closed w id sk w') : w'.containers = { w.containers with
    sockets := Function.update w.containers.sockets id none
    sk_list := w.sk_list.erase id
    work_list := w'.work_list
    sk_hash := w'.sk_hash } := by
  have hsockets := World.containers_update h.get_eq
  rw [World.containers, hsockets]
  cases h <;> rfl

/-- What a call does to the lists, the same call does to the pointers. -/
theorem call_simulates (c : LinkCall) (hwf : w.Wf) (hregistry : w.Registry) (hm : m.Holds w.containers)
    (hvalid : c.Valid w) (hcall : c.call w = .ok w') : ∃ m', c.run m = .ok m' ∧ m'.Holds w'.containers := by
  cases c with
  | sk_accept a =>
    obtain ⟨⟨rv, w1⟩, haccept, hret⟩ := Except.bind_eq_ok_iff.mp hcall
    cases hret
    obtain ⟨-, -, rfl⟩ := sk_accept_inv haccept
    obtain ⟨m', hrun, hholds⟩ := hm.sk_accept a hvalid.2
    refine ⟨m', hrun, ?_⟩
    rw [World.containers_accept hwf]
    exact hholds
  | sk_open fd =>
    cases hcall
    obtain ⟨m', hrun, hholds⟩ := hm.sk_connect fd
    refine ⟨m', hrun, ?_⟩
    rw [World.containers_open hvalid.2]
    exact hholds
  | sk_close id =>
    obtain ⟨sk, hclient, hclosed⟩ := sk_close_closed hwf hcall
    have hget := hwf.get_of_client hclient
    have hentry : w.containers.sockets id = some sk.entry := congrArg (Option.map Sk.entry) hget
    have hchain : id ∈ w.sk_hash (hash_min sk.hash) := (hregistry.linked.mem_iff _ id).mpr ⟨sk, hclient, rfl⟩
    have hlist : id ∈ w.sk_list := (hregistry.list_iff id).mpr (by rw [hget]; rfl)
    obtain ⟨m', hrun, hholds⟩ := hm.sk_close hentry hchain hlist
    refine ⟨m', hrun, ?_⟩
    rw [containers_closed hclosed]
    cases hclosed with
    | client work_list _ _ hunlink =>
      rw [World.unlink_fd_eq hunlink]
      exact hholds
    | backend _ hnone =>
      rw [hclient] at hnone
      cases hnone
  | pp2_close id =>
    obtain ⟨pp2sk, hpp, hclosed⟩ := pp2_close_closed hwf hcall
    have hnone := (hwf.backend id pp2sk hpp).2.2
    have hget := World.get_backend hpp
    have hchain (bucket : Nat) : id ∉ w.containers.sk_hash bucket := by
      intro hmem
      obtain ⟨sk, hclient, -⟩ := (hregistry.linked.mem_iff bucket id).mp hmem
      rw [hnone] at hclient
      cases hclient
    obtain ⟨m', hrun, hholds⟩ := hm.pp2_close hchain ((hregistry.list_iff id).mpr (by rw [hget]; rfl)) hvalid
    refine ⟨m', hrun, ?_⟩
    rw [containers_closed hclosed]
    cases hclosed with
    | client _ hclient =>
      rw [hnone] at hclient
      cases hclient
    | backend => exact hholds
  | post_read id =>
    have hcall : post_read w id = .ok w' := hcall
    obtain ⟨sk, hderef, -⟩ := Except.bind_eq_ok_iff.mp hcall
    have hget := World.deref_eq_ok hderef
    obtain ⟨linked, hlinked, rfl⟩ := post_read_inv hget hcall
    have hentry : w.containers.sockets id = some sk.entry := congrArg (Option.map Sk.entry) hget
    obtain ⟨m', hrun, hholds⟩ := hm.post_read hentry
    refine ⟨m', hrun, ?_⟩
    rw [World.has_fd_eq hlinked]
    exact hholds
  | list_del id =>
    cases hcall
    obtain ⟨front, back, hnot, hwork, herase⟩ := List.exists_erase_eq hvalid
    obtain ⟨m', hrun, hholds⟩ := hm.list_del_work hwork
    refine ⟨m', hrun, ?_⟩
    rw [← herase] at hholds
    exact hholds

/-- The calls lead from one world to another. In between the sockets may change in place,
    but for what the containers depend on. -/
inductive Calls : World → List LinkCall → World → Prop
  | refl (w : World) : Calls w [] w
  | kept {w w1 w' : World} {calls : List LinkCall} (hkept : w1.containers = w.containers) (hcalls : Calls w1 calls w') :
      Calls w calls w'
  | call {w w1 w' : World} {calls : List LinkCall} (c : LinkCall) (hwf : w.Wf) (hregistry : w.Registry)
      (hvalid : c.Valid w) (hcall : c.call w = .ok w1) (hcalls : Calls w1 calls w') : Calls w (c :: calls) w'

theorem Calls.trans (h : Calls w calls w1) (h' : Calls w1 calls' w') : Calls w (calls ++ calls') w' := by
  induction h with
  | refl => exact h'
  | kept hkept _ ih => exact .kept hkept (ih h')
  | call c hwf hregistry hvalid hcall _ ih => exact .call c hwf hregistry hvalid hcall (ih h')

/-- Over all the calls the memory holds the containers. -/
theorem Calls.holds (h : Calls w calls w') (hm : m.Holds w.containers) :
    ∃ m', LinkCall.runAll calls m = .ok m' ∧ m'.Holds w'.containers := by
  induction h generalizing m with
  | refl => exact ⟨m, rfl, hm⟩
  | kept hkept _ ih => exact ih (by rwa [hkept])
  | call c hwf hregistry hvalid hcall _ ih =>
    obtain ⟨m1, hrun, hholds⟩ := call_simulates c hwf hregistry hm hvalid hcall
    obtain ⟨m2, hruns, hholds2⟩ := ih hholds
    refine ⟨m2, ?_, hholds2⟩
    rw [LinkCall.runAll, hrun, Except.ok_bind, hruns]

end Simulation

end wsd
