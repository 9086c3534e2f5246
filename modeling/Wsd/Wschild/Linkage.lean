import Mathlib.Data.List.Perm.Subperm
import Wsd.Common.List
import Wsd.Wschild.Registry

namespace wsd

/-- The list heads of the daemon by address: the two lists and the nodes in the sockets. -/
inductive ListAddr
  | sk_list
  | work_list
  | sk_node (id : Nat)
  | work_node (id : Nat)
  deriving DecidableEq

/-- What the containers' functions read of a socket. -/
structure Entry where
  fd : Int
  hash : UInt64

def Sk.entry (sk : Sk) : Entry where
  fd := sk.fd
  hash := sk.hash

/-- The daemon's memory as the containers' functions see it: the sockets which are
    allocated, the pointers in them and in the heads, and the next address. -/
structure Linkage where
  sockets : Nat → Option Entry
  lists : ListHeads ListAddr
  hlists : Hlists Nat
  next : Nat

namespace Linkage

/-- A zeroed socket at the next address, and what is read of it. -/
def malloc (m : Linkage) (sk : Entry) : Linkage where
  sockets := Function.update m.sockets m.next (some sk)
  lists := Function.update (Function.update m.lists (.sk_node m.next) (some ⟨none, none⟩)) (.work_node m.next)
    (some ⟨none, none⟩)
  hlists := { m.hlists with node := Function.update m.hlists.node m.next (some ⟨none, none⟩) }
  next := m.next + 1

def free (m : Linkage) (id : Nat) : Linkage where
  sockets := Function.update m.sockets id none
  lists := Function.update (Function.update m.lists (.sk_node id) none) (.work_node id) none
  hlists := { m.hlists with node := Function.update m.hlists.node id none }
  next := m.next

def deref (m : Linkage) (id : Nat) : Except Fault Entry :=
  match m.sockets id with
  | none => .error .use_after_free
  | some sk => .ok sk

/-- The socket around a work node. -/
def work_entry (m : Linkage) : Option ListAddr → Except Fault Entry
  | none => .error .null_pointer
  | some (.work_node id) => m.deref id
  | some _ => .error .out_of_bounds

def list_init (list : ListAddr) (m : ListHeads ListAddr) : Except Fault (ListHeads ListAddr) :=
  init_list_head (some list) (Function.update m list (some ⟨none, none⟩))

/-- The containers when `wschild_main` enters the event loop. -/
def init : Except Fault Linkage := do
  let lists ← list_init .work_list fun _ => none
  let lists ← list_init .sk_list lists
  return {
    sockets := fun _ => none
    lists
    hlists := { first := fun bucket => if bucket < HASH_SIZE then some none else none, node := fun _ => none }
    next := 0 }

def hash_add (m : Linkage) (node : Nat) (key : UInt64) : Except Fault Linkage := do
  let hlists ← hlist_add_head node (hash_min key) m.hlists
  return { m with hlists }

def list_add_tail (m : Linkage) (new head : ListAddr) : Except Fault Linkage := do
  let lists ← wsd.list_add_tail (some new) (some head) m.lists
  return { m with lists }

def list_del (m : Linkage) (entry : Option ListAddr) : Except Fault Linkage := do
  let lists ← wsd.list_del entry m.lists
  return { m with lists }

def hash_del (m : Linkage) (node : Nat) : Except Fault Linkage := do
  let hlists ← wsd.hash_del node m.hlists
  return { m with hlists }

def sk_accept (m : Linkage) (a : Accepted) : Except Fault Linkage := do
  let sk : Entry := { fd := a.fd, hash := hash a.src_addr a.tv_nsec }
  let m1 ← (m.malloc sk).hash_add m.next sk.hash
  m1.list_add_tail (.sk_node m.next) .sk_list

def sk_open (m : Linkage) (fd : Int) : Except Fault Linkage :=
  (m.malloc { fd, hash := 0xffffffffffffffff }).list_add_tail (.sk_node m.next) .sk_list

/-- `if (fd == pos->fd) list_del(&pos->work_node);` -/
def unlink_node (m : Linkage) (fd : Int) (pos : Option ListAddr) : Except Fault Linkage := do
  let sk ← m.work_entry pos
  if fd = sk.fd then m.list_del pos else return m

/-- The loop of `sk_close`: the successor is read before the node is unlinked. -/
def unlink_loop (fd : Int) : Nat → Option ListAddr → Option ListAddr → Linkage → Except Fault Linkage
  | 0, _, _, _ => .error .unfinished
  | fuel + 1, pos, n, m =>
    if pos = some .work_list then .ok m
    else do
      let m ← m.unlink_node fd pos
      let (_, node) ← m.lists.deref n
      unlink_loop fd fuel n node.next m

def sk_close (m : Linkage) (id : Nat) : Except Fault Linkage := do
  let sk ← m.deref id
  let m ← m.hash_del id
  let m ← m.list_del (some (.sk_node id))
  let (_, head) ← m.lists.deref (some .work_list)
  let (_, first) ← m.lists.deref head.next
  let m ← unlink_loop sk.fd (m.next + 1) head.next first.next m
  return m.free id

def pp2_close (m : Linkage) (id : Nat) : Except Fault Linkage := do
  let m ← m.list_del (some (.sk_node id))
  return m.free id

/-- The loop of `post_read`. -/
def has_fd (m : Linkage) (fd : Int) : Nat → Option ListAddr → Except Fault Bool
  | 0, _ => .error .unfinished
  | fuel + 1, pos =>
    if pos = some .work_list then .ok false
    else do
      let sk ← m.work_entry pos
      if sk.fd = fd then
        return true
      else
        let (_, node) ← m.lists.deref pos
        m.has_fd fd fuel node.next

def post_read (m : Linkage) (id : Nat) : Except Fault Linkage := do
  let sk ← m.deref id
  let (_, head) ← m.lists.deref (some .work_list)
  if ← m.has_fd sk.fd (m.next + 1) head.next then
    return m
  else
    m.list_add_tail (.work_node id) .work_list

/-- The walk of `hash_for_each_possible` up to the first socket with the hash. -/
def lookup_loop (m : Linkage) (hash : UInt64) : Nat → Option Nat → Except Fault (Option Nat)
  | 0, _ => .error .unfinished
  | _ + 1, none => .ok none
  | fuel + 1, some pos => do
    let sk ← m.deref pos
    if sk.hash = hash then
      return some pos
    else
      let (_, node) ← m.hlists.deref (some pos)
      m.lookup_loop hash fuel node.next

def hash_lookup (m : Linkage) (hash : UInt64) : Except Fault (Option Nat) :=
  match m.hlists.first (hash_min hash) with
  | none => .error .out_of_bounds
  | some first => m.lookup_loop hash (m.next + 1) first

end Linkage

/-- The sockets and the containers as lists. -/
structure Containers where
  sockets : Nat → Option Entry
  sk_list : List Nat
  work_list : List Nat
  sk_hash : Nat → List Nat
  next : Nat

def World.containers (w : World) : Containers where
  sockets id := (w.get id).map Sk.entry
  sk_list := w.sk_list
  work_list := w.work_list
  sk_hash := w.sk_hash
  next := w.next

/-- Whether the socket at an address has the descriptor. -/
def Containers.has_fd (c : Containers) (fd : Int) (id : Nat) : Bool :=
  (c.sockets id).any fun sk => sk.fd = fd

def Containers.has_hash (c : Containers) (hash : UInt64) (id : Nat) : Bool :=
  (c.sockets id).any fun sk => sk.hash = hash

/-- The memory holds the containers: the two lists are rings, the buckets are chains which
    have no node in common, and the nodes in exactly the sockets are allocated. -/
structure Linkage.Holds (m : Linkage) (c : Containers) : Prop where
  next : m.next = c.next
  sockets : m.sockets = c.sockets
  fresh : ∀ id, (c.sockets id).isSome → id < c.next
  sk_list : m.lists.Ring .sk_list (c.sk_list.map .sk_node)
  work_list : m.lists.Ring .work_list (c.work_list.map .work_node)
  chain : ∀ bucket, bucket < HASH_SIZE → m.hlists.Chain bucket (c.sk_hash bucket)
  in_table : ∀ bucket id, id ∈ c.sk_hash bucket → bucket < HASH_SIZE
  nodup : ∀ bucket, (c.sk_hash bucket).Nodup
  apart : ∀ bucket bucket' id, id ∈ c.sk_hash bucket → id ∈ c.sk_hash bucket' → bucket = bucket'
  sk_node : ∀ id, (m.lists (.sk_node id)).isSome = (c.sockets id).isSome
  work_node : ∀ id, (m.lists (.work_node id)).isSome = (c.sockets id).isSome
  hash_node : ∀ id, (m.hlists.node id).isSome = (c.sockets id).isSome

theorem ListHeads.Ring.of_frame {m m' : ListHeads ListAddr} {head : ListAddr} {nodes : List ListAddr}
    (h : m.Ring head nodes) (hframe : ∀ z ∈ head :: nodes, m' z = m z) : m'.Ring head nodes := by
  refine Links.Ring.congr h (fun z hz => ?_) fun z hz => ?_
  · rw [ListHeads.nexts, ListHeads.nexts, hframe z hz]
  · rw [ListHeads.prevs, ListHeads.prevs, hframe z hz]

theorem Hlists.Chain.of_frame {m m' : Hlists Nat} {bucket : Nat} {xs : List Nat} (h : m.Chain bucket xs)
    (hfirst : m'.first bucket = m.first bucket) (hframe : ∀ z ∈ xs, m'.node z = m.node z) : m'.Chain bucket xs := by
  refine Links.Chain.congr h (fun q hq => ?_) fun z hz => ?_
  · obtain rfl | hq := List.mem_cons.mp hq
    · exact hfirst
    · obtain ⟨z, hz, rfl⟩ := List.mem_map.mp hq
      rw [Hlists.read, Hlists.read, hframe z hz]
  · rw [Hlists.pprevs, Hlists.pprevs, hframe z hz]

/-- The memory of `wschild_main` holds the empty containers. -/
theorem Linkage.init_holds : ∃ m, Linkage.init = .ok m ∧ m.Holds World.init.containers := by
  obtain ⟨lists1, hinit1, hring1, htouched1⟩ := @ListHeads.init_list_head_ring _
    (Function.update (fun _ => none) ListAddr.work_list (some ⟨none, none⟩)) ListAddr.work_list _ (by simp)
  obtain ⟨lists2, hinit2, hring2, htouched2⟩ := @ListHeads.init_list_head_ring _
    (Function.update lists1 ListAddr.sk_list (some ⟨none, none⟩)) ListAddr.sk_list _ (by simp)
  have hframe {z : ListAddr} (hsk : z ≠ .sk_list) : lists2 z = lists1 z := by
    rw [htouched2.frame z (by simpa using hsk), Function.update_of_ne hsk]
  have hnone {z : ListAddr} (hwork : z ≠ .work_list) (hsk : z ≠ .sk_list) : (lists2 z).isSome = false := by
    rw [hframe hsk, htouched1.frame z (by simpa using hwork), Function.update_of_ne hwork]
    rfl
  refine ⟨{
    sockets := fun _ => none
    lists := lists2
    hlists := { first := fun bucket => if bucket < HASH_SIZE then some none else none, node := fun _ => none }
    next := 0 }, ?_, ?_⟩
  · rw [Linkage.init, Linkage.list_init, hinit1, Except.ok_bind, Linkage.list_init, hinit2]
    rfl
  · constructor
    · rfl
    · rfl
    · intro id hid
      cases hid
    · exact hring2
    · refine hring1.of_frame fun z hz => ?_
      rw [List.mem_singleton.mp hz]
      exact hframe (by simp)
    · intro bucket hbucket
      exact if_pos hbucket
    · intro bucket id hid
      cases hid
    · intro bucket
      exact List.nodup_nil
    · intro bucket bucket' id hid
      cases hid
    · intro id
      exact hnone (by simp) (by simp)
    · intro id
      exact hnone (by simp) (by simp)
    · intro id
      rfl

namespace Linkage.Holds

variable {m : Linkage} {c : Containers} {id : Nat} {sk : Entry}

theorem deref (h : m.Holds c) (hid : c.sockets id = some sk) : m.deref id = .ok sk := by
  rw [Linkage.deref, h.sockets, hid]

/-- The nodes of the containers are in open sockets. -/
theorem sk_open (h : m.Holds c) (hid : id ∈ c.sk_list) : (c.sockets id).isSome := by
  rw [← h.sk_node]
  exact h.sk_list.isSome (List.mem_cons_of_mem _ (List.mem_map_of_mem hid))

theorem work_open (h : m.Holds c) (hid : id ∈ c.work_list) : (c.sockets id).isSome := by
  rw [← h.work_node]
  exact h.work_list.isSome (List.mem_cons_of_mem _ (List.mem_map_of_mem hid))

theorem hash_open (h : m.Holds c) {bucket : Nat} (hid : id ∈ c.sk_hash bucket) : (c.sockets id).isSome := by
  rw [← h.hash_node]
  exact (h.chain bucket (h.in_table bucket id hid)).isSome hid

/-- Nothing is allocated at the next address. -/
theorem next_free (h : m.Holds c) : (c.sockets c.next).isSome = false := by
  rw [Bool.eq_false_iff]
  exact fun hsome => Nat.lt_irrefl _ (h.fresh c.next hsome)

theorem ne_next (h : m.Holds c) (hid : (c.sockets id).isSome) : id ≠ m.next := by
  rw [h.next]
  exact Nat.ne_of_lt (h.fresh id hid)

theorem sk_nodup (h : m.Holds c) : c.sk_list.Nodup :=
  (List.nodup_cons.mp h.sk_list.nodup).2.of_map _

theorem work_nodup (h : m.Holds c) : c.work_list.Nodup :=
  (List.nodup_cons.mp h.work_list.nodup).2.of_map _

/-- There are no more nodes in a list than sockets have been allocated. -/
theorem length_le (h : m.Holds c) {nodes : List Nat} (hnodup : nodes.Nodup)
    (hopen : ∀ id ∈ nodes, (c.sockets id).isSome) : nodes.length ≤ m.next := by
  have hsub : nodes ⊆ List.range m.next := by
    intro id hid
    rw [List.mem_range, h.next]
    exact h.fresh id (hopen id hid)
  have hle := (List.Nodup.subperm hnodup hsub).length_le
  rwa [List.length_range] at hle

/-- The list heads of the one list are none of the other's. -/
theorem sk_disjoint (nodes nodes' : List Nat) :
    ∀ z ∈ ListAddr.sk_list :: nodes.map .sk_node, z ∉ ListAddr.work_list :: nodes'.map .work_node := by
  intro z hz hz'
  simp only [List.mem_cons, List.mem_map] at hz hz'
  obtain rfl | ⟨i, -, rfl⟩ := hz <;> simp at hz'

theorem work_disjoint (nodes nodes' : List Nat) :
    ∀ z ∈ ListAddr.work_list :: nodes'.map .work_node, z ∉ ListAddr.sk_list :: nodes.map .sk_node :=
  fun z hz hz' => sk_disjoint nodes nodes' z hz' hz

theorem malloc (h : m.Holds c) (sk : Entry) :
    (m.malloc sk).Holds { c with sockets := Function.update c.sockets c.next (some sk), next := c.next + 1 } := by
  have hframe {id : Nat} (hid : (c.sockets id).isSome) : (m.malloc sk).lists (.sk_node id) = m.lists (.sk_node id) ∧
      (m.malloc sk).lists (.work_node id) = m.lists (.work_node id) ∧
      (m.malloc sk).hlists.node id = m.hlists.node id := by
    have hne := h.ne_next hid
    simp [Linkage.malloc, hne]
  constructor
  · exact congrArg (· + 1) h.next
  · simp only [Linkage.malloc, h.sockets, h.next]
  · intro id hid
    simp only [Function.update_apply] at hid ⊢
    split at hid
    · omega
    · have hlt := h.fresh id hid
      omega
  · refine h.sk_list.of_frame fun z hz => ?_
    obtain rfl | hz := List.mem_cons.mp hz
    · simp [Linkage.malloc]
    · obtain ⟨id, hid, rfl⟩ := List.mem_map.mp hz
      exact (hframe (h.sk_open hid)).1
  · refine h.work_list.of_frame fun z hz => ?_
    obtain rfl | hz := List.mem_cons.mp hz
    · simp [Linkage.malloc]
    · obtain ⟨id, hid, rfl⟩ := List.mem_map.mp hz
      exact (hframe (h.work_open hid)).2.1
  · intro bucket hbucket
    exact (h.chain bucket hbucket).of_frame rfl fun id hid => (hframe (h.hash_open hid)).2.2
  · exact h.in_table
  · exact h.nodup
  · exact h.apart
  · intro id
    simp only [Linkage.malloc, Function.update_apply, ← h.next]
    by_cases hid : id = m.next <;> simp [hid, h.sk_node]
  · intro id
    simp only [Linkage.malloc, Function.update_apply, ← h.next]
    by_cases hid : id = m.next <;> simp [hid, h.work_node]
  · intro id
    simp only [Linkage.malloc, Function.update_apply, ← h.next]
    by_cases hid : id = m.next <;> simp [hid, h.hash_node]

/-- A socket which is in no container can be freed. -/
theorem free (h : m.Holds c) (hsk : id ∉ c.sk_list) (hwork : id ∉ c.work_list) (hhash : ∀ bucket, id ∉ c.sk_hash bucket) :
    (m.free id).Holds { c with sockets := Function.update c.sockets id none } := by
  have hne {j : Nat} {nodes : List Nat} (hj : j ∈ nodes) (hid : id ∉ nodes) : j ≠ id := fun heq => hid (heq ▸ hj)
  constructor
  · exact h.next
  · simp only [Linkage.free, h.sockets]
  · intro j hj
    simp only [Function.update_apply] at hj ⊢
    split at hj
    · cases hj
    · exact h.fresh j hj
  · refine h.sk_list.of_frame fun z hz => ?_
    obtain rfl | hz := List.mem_cons.mp hz
    · simp [Linkage.free]
    · obtain ⟨j, hj, rfl⟩ := List.mem_map.mp hz
      simp [Linkage.free, hne hj hsk]
  · refine h.work_list.of_frame fun z hz => ?_
    obtain rfl | hz := List.mem_cons.mp hz
    · simp [Linkage.free]
    · obtain ⟨j, hj, rfl⟩ := List.mem_map.mp hz
      simp [Linkage.free, hne hj hwork]
  · intro bucket hbucket
    refine (h.chain bucket hbucket).of_frame rfl fun j hj => ?_
    exact Function.update_of_ne (hne hj (hhash bucket)) ..
  · exact h.in_table
  · exact h.nodup
  · exact h.apart
  · intro j
    simp only [Linkage.free, Function.update_apply]
    by_cases hj : j = id <;> simp [hj, h.sk_node]
  · intro j
    simp only [Linkage.free, Function.update_apply]
    by_cases hj : j = id <;> simp [hj, h.work_node]
  · intro j
    simp only [Linkage.free, Function.update_apply]
    by_cases hj : j = id <;> simp [hj, h.hash_node]

/-- The lists change, and the same list heads are allocated. -/
theorem of_lists (h : m.Holds c) {lists : ListHeads ListAddr} {sk_list work_list : List Nat}
    (halloc : ∀ z, (lists z).isSome = (m.lists z).isSome) (hsk : lists.Ring .sk_list (sk_list.map .sk_node))
    (hwork : lists.Ring .work_list (work_list.map .work_node)) :
    Linkage.Holds { m with lists } { c with sk_list, work_list } where
  next := h.next
  sockets := h.sockets
  fresh := h.fresh
  sk_list := hsk
  work_list := hwork
  chain := h.chain
  in_table := h.in_table
  nodup := h.nodup
  apart := h.apart
  sk_node id := (halloc _).trans (h.sk_node id)
  work_node id := (halloc _).trans (h.work_node id)
  hash_node := h.hash_node

/-- A new node at the end of `sk_list`. -/
theorem list_add_sk (h : m.Holds c) (hopen : (c.sockets id).isSome) (hid : id ∉ c.sk_list) :
    ∃ m', m.list_add_tail (.sk_node id) .sk_list = .ok m' ∧ m'.Holds { c with sk_list := c.sk_list ++ [id] } := by
  obtain ⟨lists, hadd, hring, htouched⟩ := ListHeads.list_add_tail_ring (x := .sk_node id) h.sk_list (by simpa using hid)
    (by rwa [h.sk_node])
  refine ⟨{ m with lists }, ?_, h.of_lists htouched.alloc ?_ (htouched.ring h.work_list fun z hz hz' => ?_)⟩
  · rw [Linkage.list_add_tail, hadd]
    rfl
  · rwa [List.map_append]
  · obtain rfl | hz' := List.mem_cons.mp hz'
    · simp at hz
    · exact sk_disjoint _ _ z hz' hz

theorem list_add_work (h : m.Holds c) (hopen : (c.sockets id).isSome) (hid : id ∉ c.work_list) :
    ∃ m', m.list_add_tail (.work_node id) .work_list = .ok m' ∧
      m'.Holds { c with work_list := c.work_list ++ [id] } := by
  obtain ⟨lists, hadd, hring, htouched⟩ := ListHeads.list_add_tail_ring (x := .work_node id) h.work_list
    (by simpa using hid) (by rwa [h.work_node])
  refine ⟨{ m with lists }, ?_, h.of_lists htouched.alloc (htouched.ring h.sk_list fun z hz hz' => ?_) ?_⟩
  · rw [Linkage.list_add_tail, hadd]
    rfl
  · obtain rfl | hz' := List.mem_cons.mp hz'
    · simp at hz
    · exact sk_disjoint _ _ z hz hz'
  · rwa [List.map_append]

/-- A node of `sk_list` is unlinked. -/
theorem list_del_sk (h : m.Holds c) (hid : id ∈ c.sk_list) :
    ∃ m', m.list_del (some (.sk_node id)) = .ok m' ∧ m'.Holds { c with sk_list := c.sk_list.erase id } := by
  obtain ⟨front, back, hnot, hlist, herase⟩ := List.exists_erase_eq hid
  have hsk := h.sk_list
  rw [hlist, List.map_append, List.map_cons] at hsk
  obtain ⟨lists, hdel, hring, htouched⟩ := ListHeads.list_del_ring hsk
  rw [← List.map_append] at hring htouched
  refine ⟨{ m with lists }, ?_, h.of_lists htouched.alloc (by rwa [herase])
    (htouched.ring h.work_list (work_disjoint _ _))⟩
  rw [Linkage.list_del, hdel]
  rfl

theorem list_del_work (h : m.Holds c) {front back : List Nat} (hwork : c.work_list = front ++ id :: back) :
    ∃ m', m.list_del (some (.work_node id)) = .ok m' ∧ m'.Holds { c with work_list := front ++ back } := by
  have hring := h.work_list
  rw [hwork, List.map_append, List.map_cons] at hring
  obtain ⟨lists, hdel, hring, htouched⟩ := ListHeads.list_del_ring hring
  rw [← List.map_append] at hring htouched
  refine ⟨{ m with lists }, ?_, h.of_lists htouched.alloc (htouched.ring h.sk_list (sk_disjoint _ _)) hring⟩
  rw [Linkage.list_del, hdel]
  rfl

/-- The chains change, and the same buckets and nodes are allocated. -/
theorem of_hlists (h : m.Holds c) {hlists : Hlists Nat} {sk_hash : Nat → List Nat}
    (halloc : ∀ id, (hlists.node id).isSome = (m.hlists.node id).isSome)
    (hchain : ∀ bucket, bucket < HASH_SIZE → hlists.Chain bucket (sk_hash bucket))
    (htable : ∀ bucket id, id ∈ sk_hash bucket → bucket < HASH_SIZE) (hnodup : ∀ bucket, (sk_hash bucket).Nodup)
    (hapart : ∀ bucket bucket' id, id ∈ sk_hash bucket → id ∈ sk_hash bucket' → bucket = bucket') :
    Linkage.Holds { m with hlists } { c with sk_hash } where
  next := h.next
  sockets := h.sockets
  fresh := h.fresh
  sk_list := h.sk_list
  work_list := h.work_list
  chain := hchain
  in_table := htable
  nodup := hnodup
  apart := hapart
  sk_node := h.sk_node
  work_node := h.work_node
  hash_node id := (halloc id).trans (h.hash_node id)

/-- A new node at the start of the key's chain. -/
theorem hash_add (h : m.Holds c) {key : UInt64} (hopen : (c.sockets id).isSome) (hkey : hash_min key < HASH_SIZE)
    (hid : ∀ bucket, id ∉ c.sk_hash bucket) : ∃ m', m.hash_add id key = .ok m' ∧
      m'.Holds { c with sk_hash := Function.update c.sk_hash (hash_min key) (id :: c.sk_hash (hash_min key)) } := by
  obtain ⟨hlists, hadd, hchain, htouched⟩ := Hlists.hlist_add_head_chain (h.chain _ hkey) (h.nodup _) (hid _)
    (by rwa [h.hash_node])
  have hmem {bucket j : Nat}
      (hj : j ∈ Function.update c.sk_hash (hash_min key) (id :: c.sk_hash (hash_min key)) bucket) :
      j = id ∧ bucket = hash_min key ∨ j ∈ c.sk_hash bucket := by
    rw [Function.update_apply] at hj
    split at hj
    · rename_i hbucket
      obtain rfl | hj := List.mem_cons.mp hj
      · exact Or.inl ⟨rfl, hbucket⟩
      · exact Or.inr (hbucket ▸ hj)
    · exact Or.inr hj
  refine ⟨{ m with hlists }, ?_, h.of_hlists htouched.alloc (fun bucket hbucket => ?_) (fun bucket j hj => ?_)
    (fun bucket => ?_) fun bucket bucket' j hj hj' => ?_⟩
  · rw [Linkage.hash_add, hadd]
    rfl
  · rw [Function.update_apply]
    split
    · rename_i heq
      rwa [heq]
    · rename_i hne
      refine htouched.chain (h.chain bucket hbucket) hne fun j hj hj' => ?_
      obtain rfl | hj' := List.mem_cons.mp hj'
      · exact hid bucket hj
      · exact hne (h.apart _ _ j hj hj')
  · obtain ⟨-, rfl⟩ | hj := hmem hj
    · exact hkey
    · exact h.in_table bucket j hj
  · rw [Function.update_apply]
    split
    · exact List.nodup_cons.mpr ⟨hid _, h.nodup _⟩
    · exact h.nodup bucket
  · obtain ⟨rfl, rfl⟩ | hold := hmem hj
    · obtain ⟨-, rfl⟩ | hold' := hmem hj'
      · rfl
      · exact absurd hold' (hid bucket')
    · obtain ⟨rfl, -⟩ | hold' := hmem hj'
      · exact absurd hold (hid bucket)
      · exact h.apart _ _ j hold hold'

/-- A node is taken out of its chain. -/
theorem hash_del (h : m.Holds c) {bucket : Nat} (hid : id ∈ c.sk_hash bucket) :
    ∃ m', m.hash_del id = .ok m' ∧ m'.Holds { c with sk_hash := fun b => (c.sk_hash b).erase id } := by
  obtain ⟨front, back, hnot, hlist, herase⟩ := List.exists_erase_eq hid
  have hchain := h.chain bucket (h.in_table bucket id hid)
  have hnodup := h.nodup bucket
  rw [hlist] at hchain hnodup
  obtain ⟨hlists, hdel, hchain, htouched⟩ := Hlists.hash_del_chain hchain hnodup
  refine ⟨{ m with hlists }, ?_, h.of_hlists htouched.alloc (fun b hb => ?_)
    (fun b j hj => h.in_table b j (List.mem_of_mem_erase hj)) (fun b => (h.nodup b).erase id)
    fun b b' j hj hj' => h.apart b b' j (List.mem_of_mem_erase hj) (List.mem_of_mem_erase hj')⟩
  · rw [Linkage.hash_del, hdel]
    rfl
  · by_cases hne : b = bucket
    · rw [hne, herase]
      exact hchain
    · -- the node is in no other chain
      rw [List.erase_of_not_mem fun hb => hne (h.apart b bucket id hb hid)]
      refine htouched.chain (h.chain b hb) hne fun j hj hj' => ?_
      rw [← hlist] at hj'
      exact hne (h.apart b bucket j hj hj')

/-- The first node of a list and the one behind a node. -/
theorem work_first (h : m.Holds c) : ∃ node, m.lists.deref (some .work_list) = .ok (.work_list, node) ∧
    node.next = some ((c.work_list.map .work_node).headD .work_list) :=
  ListHeads.deref_next h.work_list.forward.first rfl

theorem work_next (h : m.Holds c) {front back : List Nat} (hwork : c.work_list = front ++ id :: back) :
    ∃ node, m.lists.deref (some (.work_node id)) = .ok (.work_node id, node) ∧
      node.next = some ((back.map .work_node).headD .work_list) := by
  have hring := h.work_list
  rw [hwork, List.map_append, List.map_cons] at hring
  exact ListHeads.deref_next hring.next_eq rfl

/-- `sk_close` unlinks the nodes of all sockets with the descriptor. The successor is in
    the ring whether the node before it is unlinked or not. -/
theorem unlink_loop (fd : Int) (fuel : Nat) (rest front : List Nat) (n : Option ListAddr) (h : m.Holds c)
    (hwork : c.work_list = front ++ rest) (hfuel : rest.length < fuel)
    (hn : ∀ id back, rest = id :: back → n = some ((back.map .work_node).headD .work_list)) :
    ∃ m', Linkage.unlink_loop fd fuel (some ((rest.map .work_node).headD .work_list)) n m = .ok m' ∧
      m'.Holds { c with work_list := front ++ rest.filter fun id => !c.has_fd fd id } := by
  induction rest generalizing fuel front n m c with
  | nil =>
    obtain ⟨fuel, rfl⟩ := Nat.exists_eq_add_of_lt hfuel
    refine ⟨m, ?_, ?_⟩
    · simp [Linkage.unlink_loop]
    · rw [List.filter_nil, ← hwork]
      exact h
  | cons id back ih =>
    cases fuel with
    | zero => cases hfuel
    | succ fuel =>
      have hmem : id ∈ c.work_list := by simp [hwork]
      obtain ⟨sk, hget⟩ := Option.isSome_iff_exists.mp (h.work_open hmem)
      -- the node is unlinked or stays, and the other ones are as they were
      obtain ⟨m1, front1, hunlink, hholds, hfilter⟩ : ∃ m1 front1, m.unlink_node fd (some (.work_node id)) = .ok m1 ∧
          m1.Holds { c with work_list := front1 ++ back } ∧
          front1 ++ (back.filter fun id => !c.has_fd fd id) =
            front ++ (id :: back).filter fun id => !c.has_fd fd id := by
        by_cases hfd : fd = sk.fd
        · obtain ⟨m1, hdel, hholds⟩ := h.list_del_work hwork
          refine ⟨m1, front, ?_, hholds, ?_⟩
          · rw [Linkage.unlink_node, Linkage.work_entry, h.deref hget, Except.ok_bind, if_pos hfd, hdel]
          · rw [List.filter_cons_of_neg (by simp [Containers.has_fd, hget, hfd])]
        · refine ⟨m, front ++ [id], ?_, ?_, ?_⟩
          · rw [Linkage.unlink_node, Linkage.work_entry, h.deref hget, Except.ok_bind, if_neg hfd]
            rfl
          · rw [List.append_assoc, List.singleton_append, ← hwork]
            exact h
          · rw [List.filter_cons_of_pos (by simpa [Containers.has_fd, hget] using fun heq => hfd heq.symm),
              List.append_assoc, List.singleton_append]
      have hsucc : ∃ p node, m1.lists.deref n = .ok (p, node) ∧
          ∀ id' back', back = id' :: back' → node.next = some ((back'.map .work_node).headD .work_list) := by
        rw [hn id back rfl]
        cases back with
        | nil =>
          obtain ⟨node, hderef, -⟩ := hholds.work_first
          exact ⟨_, node, hderef, fun id' back' heq => by cases heq⟩
        | cons id' back' =>
          obtain ⟨node, hderef, hnext⟩ := hholds.work_next rfl
          refine ⟨_, node, hderef, fun id'' back'' heq => ?_⟩
          cases heq
          exact hnext
      obtain ⟨p, node, hderef, hnext⟩ := hsucc
      obtain ⟨m2, hloop, hholds2⟩ := ih fuel front1 node.next hholds rfl (Nat.lt_of_succ_lt_succ hfuel) hnext
      refine ⟨m2, ?_, ?_⟩
      · rw [List.map_cons, List.headD_cons, Linkage.unlink_loop, if_neg (by simp), hunlink, Except.ok_bind, hderef,
          Except.ok_bind, hn id back rfl]
        exact hloop
      · rw [← hfilter]
        exact hholds2

/-- The loop of `post_read` finds a socket with the descriptor if one is linked. -/
theorem has_fd (fd : Int) (fuel : Nat) (rest front : List Nat) (h : m.Holds c) (hwork : c.work_list = front ++ rest)
    (hfuel : rest.length < fuel) :
    m.has_fd fd fuel (some ((rest.map .work_node).headD .work_list)) = .ok (rest.any (c.has_fd fd)) := by
  induction rest generalizing fuel front with
  | nil =>
    obtain ⟨fuel, rfl⟩ := Nat.exists_eq_add_of_lt hfuel
    simp [Linkage.has_fd]
  | cons id back ih =>
    cases fuel with
    | zero => cases hfuel
    | succ fuel =>
      have hmem : id ∈ c.work_list := by simp [hwork]
      obtain ⟨sk, hget⟩ := Option.isSome_iff_exists.mp (h.work_open hmem)
      rw [List.map_cons, List.headD_cons, Linkage.has_fd, if_neg (by simp), Linkage.work_entry, h.deref hget,
        Except.ok_bind]
      by_cases hfd : sk.fd = fd
      · rw [if_pos hfd, List.any_cons, Containers.has_fd, hget]
        simp [hfd]
      · obtain ⟨node, hderef, hnext⟩ := h.work_next hwork
        rw [if_neg hfd, hderef, Except.ok_bind]
        have hrest := ih fuel (front ++ [id]) (by simp [hwork]) (Nat.lt_of_succ_lt_succ hfuel)
        rw [List.any_cons]
        simp only [Containers.has_fd, hget, Option.any_some, hfd, decide_false, Bool.false_or, hnext]
        exact hrest

/-- The walk along a chain finds the first socket with the hash. -/
theorem lookup_loop (hash : UInt64) (fuel bucket : Nat) (rest front : List Nat) (h : m.Holds c)
    (hchain : c.sk_hash bucket = front ++ rest) (hfuel : rest.length < fuel) :
    m.lookup_loop hash fuel rest.head? = .ok (rest.find? (c.has_hash hash)) := by
  induction rest generalizing fuel front with
  | nil =>
    obtain ⟨fuel, rfl⟩ := Nat.exists_eq_add_of_lt hfuel
    rfl
  | cons id back ih =>
    cases fuel with
    | zero => cases hfuel
    | succ fuel =>
      have hmem : id ∈ c.sk_hash bucket := by simp [hchain]
      obtain ⟨sk, hget⟩ := Option.isSome_iff_exists.mp (h.hash_open hmem)
      rw [List.head?_cons, Linkage.lookup_loop, h.deref hget, Except.ok_bind]
      by_cases hhash : sk.hash = hash
      · rw [if_pos hhash, List.find?_cons_of_pos (by simp [Containers.has_hash, hget, hhash])]
        rfl
      · have hlinked := h.chain bucket (h.in_table bucket id hmem)
        rw [hchain] at hlinked
        have hnext := Links.Chain.head? (Links.Chain.at hlinked).2.2
        rw [Hlists.read, Option.map_eq_some_iff] at hnext
        obtain ⟨node, hnode, hnext⟩ := hnext
        have hderef : m.hlists.deref (some id) = .ok (id, node) := Hlists.deref_of_some hnode
        rw [if_neg hhash, hderef, Except.ok_bind, List.find?_cons_of_neg (by simp [Containers.has_hash, hget, hhash])]
        simp only [hnext]
        exact ih fuel (front ++ [id]) (by simp [hchain]) (Nat.lt_of_succ_lt_succ hfuel)

end Linkage.Holds

end wsd
