import Wsd.Links.Chain
import Wsd.Links.Walk
import Wsd.Outcome
import Wsd.Types

namespace wsd

structure ListHead (α : Type) where
  next : Option α
  prev : Option α

/-- The list heads in memory by address, where none is where nothing is allocated. A null
    pointer is none as well. -/
abbrev ListHeads (α : Type) : Type := α → Option (ListHead α)

/-- A pointer to a node: the one of a bucket or the one in another node. -/
inductive HlistRef (α : Type)
  | first (bucket : Nat)
  | next (node : α)
  deriving DecidableEq

structure HlistNode (α : Type) where
  next : Option α
  pprev : Option (HlistRef α)

/-- The buckets of a hash table and the nodes in memory. -/
structure Hlists (α : Type) where
  first : Nat → Option (Option α)
  node : α → Option (HlistNode α)

section Operations

variable {α : Type} [DecidableEq α]

namespace ListHeads

/-- An access through a pointer. -/
def deref (m : ListHeads α) : Option α → Except Fault (α × ListHead α)
  | none => .error .null_pointer
  | some p =>
    match m p with
    | none => .error .use_after_free
    | some node => .ok (p, node)

def set_next (m : ListHeads α) (p next : Option α) : Except Fault (ListHeads α) := do
  let (p, node) ← m.deref p
  return Function.update m p (some { node with next })

def set_prev (m : ListHeads α) (p prev : Option α) : Except Fault (ListHeads α) := do
  let (p, node) ← m.deref p
  return Function.update m p (some { node with prev })

end ListHeads

def init_list_head (list : Option α) (m : ListHeads α) : Except Fault (ListHeads α) := do
  let m ← m.set_next list list
  m.set_prev list list

/-- The source's `__list_add`. -/
def raw_list_add (new prev next : Option α) (m : ListHeads α) : Except Fault (ListHeads α) := do
  let m ← m.set_prev next new
  let m ← m.set_next new next
  let m ← m.set_prev new prev
  m.set_next prev new

def list_add_tail (new head : Option α) (m : ListHeads α) : Except Fault (ListHeads α) := do
  let (_, node) ← m.deref head
  raw_list_add new node.prev head m

/-- The source's `__list_del`. -/
def raw_list_del (prev next : Option α) (m : ListHeads α) : Except Fault (ListHeads α) := do
  let m ← m.set_prev next prev
  m.set_next prev next

def list_del (entry : Option α) (m : ListHeads α) : Except Fault (ListHeads α) := do
  let (_, node) ← m.deref entry
  raw_list_del node.prev node.next m

namespace Hlists

def deref (m : Hlists α) : Option α → Except Fault (α × HlistNode α)
  | none => .error .null_pointer
  | some n =>
    match m.node n with
    | none => .error .use_after_free
    | some node => .ok (n, node)

/-- What a pointer to a node holds. -/
def read (m : Hlists α) : HlistRef α → Option (Option α)
  | .first bucket => m.first bucket
  | .next n => (m.node n).map HlistNode.next

/-- A write through a pointer to a pointer. -/
def write (m : Hlists α) : Option (HlistRef α) → Option α → Except Fault (Hlists α)
  | none, _ => .error .null_pointer
  | some (.first bucket), n =>
    match m.first bucket with
    | none => .error .out_of_bounds
    | some _ => .ok { m with first := Function.update m.first bucket (some n) }
  | some (.next n'), n => do
    let (n', node) ← m.deref (some n')
    return { m with node := Function.update m.node n' (some { node with next := n }) }

def set_pprev (m : Hlists α) (n : Option α) (pprev : Option (HlistRef α)) : Except Fault (Hlists α) := do
  let (n, node) ← m.deref n
  return { m with node := Function.update m.node n (some { node with pprev }) }

/-- `if (n) n->pprev = pprev;` -/
def point_back (m : Hlists α) (n : Option α) (pprev : Option (HlistRef α)) : Except Fault (Hlists α) :=
  if n.isSome then m.set_pprev n pprev else .ok m

end Hlists

/-- The source's `INIT_HLIST_NODE`. -/
def init_hlist_node (h : Option α) (m : Hlists α) : Except Fault (Hlists α) := do
  let (n, _) ← m.deref h
  return { m with node := Function.update m.node n (some { next := none, pprev := none }) }

def hlist_add_head (n : α) (bucket : Nat) (m : Hlists α) : Except Fault (Hlists α) := do
  match m.first bucket with
  | none => throw .out_of_bounds
  | some first =>
    let m ← m.write (some (.next n)) first
    let m ← m.point_back first (some (.next n))
    let m ← m.write (some (.first bucket)) (some n)
    m.set_pprev (some n) (some (.first bucket))

/-- The source's `__hlist_del`. -/
def raw_hlist_del (n : Option α) (m : Hlists α) : Except Fault (Hlists α) := do
  let (_, node) ← m.deref n
  let m ← m.write node.pprev node.next
  m.point_back node.next node.pprev

def hlist_del_init (n : Option α) (m : Hlists α) : Except Fault (Hlists α) := do
  let (_, node) ← m.deref n
  if node.pprev.isSome then
    let m ← raw_hlist_del n m
    init_hlist_node n m
  else
    return m

def hash_del (node : α) (m : Hlists α) : Except Fault (Hlists α) :=
  hlist_del_init (some node) m

end Operations

namespace ListHeads

variable {α : Type} {m m' m'' : ListHeads α} {p x head : α} {v : Option α} {xs ys : List α}

def nexts (m : ListHeads α) : α → Option α :=
  fun p => (m p).bind ListHead.next

def prevs (m : ListHeads α) : α → Option α :=
  fun p => (m p).bind ListHead.prev

/-- The nodes are linked with the head in a ring. -/
def Ring (m : ListHeads α) (head : α) (xs : List α) : Prop :=
  Links.Ring m.nexts m.prevs head xs

/-- The same list heads are allocated, and those which are not among the given ones are
    as they were. -/
structure Touched (m m' : ListHeads α) (nodes : List α) : Prop where
  alloc : ∀ z, (m' z).isSome = (m z).isSome
  frame : ∀ z, z ∉ nodes → m' z = m z

theorem Touched.trans {nodes nodes' : List α} (h : Touched m m' nodes) (h' : Touched m' m'' nodes')
    (hsub : ∀ z ∈ nodes', z ∈ nodes) : Touched m m'' nodes where
  alloc z := (h'.alloc z).trans (h.alloc z)
  frame z hz := (h'.frame z fun hz' => hz (hsub z hz')).trans (h.frame z hz)

theorem Touched.mono {nodes nodes' : List α} (h : Touched m m' nodes) (hsub : ∀ z ∈ nodes, z ∈ nodes') :
    Touched m m' nodes' :=
  ⟨h.alloc, fun z hz => h.frame z fun hz' => hz (hsub z hz')⟩

/-- A ring none of whose list heads is touched stays. -/
theorem Touched.ring {nodes : List α} (h : Touched m m' nodes) (hring : m.Ring head xs)
    (hdisjoint : ∀ z ∈ head :: xs, z ∉ nodes) : m'.Ring head xs := by
  refine Links.Ring.congr hring (fun z hz => ?_) fun z hz => ?_
  · rw [nexts, nexts, h.frame z (hdisjoint z hz)]
  · rw [prevs, prevs, h.frame z (hdisjoint z hz)]

/-- The list heads of a ring are allocated. -/
theorem Ring.isSome (h : m.Ring head xs) {z : α} (hz : z ∈ head :: xs) : (m z).isSome := by
  have hnext := h.forward.isSome hz
  rw [nexts] at hnext
  cases hm : m z with
  | none =>
    rw [hm] at hnext
    cases hnext
  | some node => rfl

theorem deref_of_some {node : ListHead α} (h : m p = some node) : m.deref (some p) = .ok (p, node) := by
  rw [deref, h]

/-- Where an access to a list head of a ring leads next. -/
theorem deref_next (h : m.nexts p = v) (hsome : v.isSome) : ∃ node, m.deref (some p) = .ok (p, node) ∧ node.next = v := by
  cases hm : m p with
  | none =>
    rw [nexts, hm] at h
    rw [← h] at hsome
    cases hsome
  | some node =>
    rw [nexts, hm] at h
    exact ⟨node, deref_of_some hm, h⟩

variable [DecidableEq α]

/-- A write to the one pointer of an allocated list head. -/
theorem set_next_spec (h : (m p).isSome) (v : Option α) : ∃ m', m.set_next (some p) v = .ok m' ∧
    m'.nexts = Function.update m.nexts p v ∧ m'.prevs = m.prevs ∧ Touched m m' [p] := by
  obtain ⟨node, hnode⟩ := Option.isSome_iff_exists.mp h
  refine ⟨Function.update m p (some { node with next := v }), ?_, funext fun z => ?_, funext fun z => ?_,
    fun z => ?_, fun z hz => ?_⟩
  · rw [set_next, deref_of_some hnode]
    rfl
  · by_cases hz : z = p
    · rw [hz, nexts, Function.update_self, Function.update_self]
      rfl
    · rw [nexts, Function.update_of_ne hz, Function.update_of_ne hz, nexts]
  · by_cases hz : z = p
    · rw [hz, prevs, prevs, Function.update_self, hnode]
      rfl
    · rw [prevs, prevs, Function.update_of_ne hz]
  · by_cases hz : z = p
    · rw [hz, Function.update_self, hnode]
      rfl
    · rw [Function.update_of_ne hz]
  · exact Function.update_of_ne (fun heq => hz (List.mem_singleton.mpr heq)) ..

theorem set_prev_spec (h : (m p).isSome) (v : Option α) : ∃ m', m.set_prev (some p) v = .ok m' ∧
    m'.nexts = m.nexts ∧ m'.prevs = Function.update m.prevs p v ∧ Touched m m' [p] := by
  obtain ⟨node, hnode⟩ := Option.isSome_iff_exists.mp h
  refine ⟨Function.update m p (some { node with prev := v }), ?_, funext fun z => ?_, funext fun z => ?_,
    fun z => ?_, fun z hz => ?_⟩
  · rw [set_prev, deref_of_some hnode]
    rfl
  · by_cases hz : z = p
    · rw [hz, nexts, nexts, Function.update_self, hnode]
      rfl
    · rw [nexts, nexts, Function.update_of_ne hz]
  · by_cases hz : z = p
    · rw [hz, prevs, Function.update_self, Function.update_self]
      rfl
    · rw [prevs, Function.update_of_ne hz, Function.update_of_ne hz, prevs]
  · by_cases hz : z = p
    · rw [hz, Function.update_self, hnode]
      rfl
    · rw [Function.update_of_ne hz]
  · exact Function.update_of_ne (fun heq => hz (List.mem_singleton.mpr heq)) ..

/-- `init_list_head` makes an empty ring. -/
theorem init_list_head_ring (h : (m head).isSome) :
    ∃ m', init_list_head (some head) m = .ok m' ∧ m'.Ring head [] ∧ Touched m m' [head] := by
  obtain ⟨m1, hset1, hnexts1, hprevs1, htouched1⟩ := set_next_spec h (some head)
  obtain ⟨m2, hset2, hnexts2, hprevs2, htouched2⟩ := @set_prev_spec _ m1 head _ ((htouched1.alloc head).trans h) (some head)
  refine ⟨m2, ?_, .empty ?_ ?_, htouched1.trans htouched2 fun _ hz => hz⟩
  · rw [init_list_head, hset1]
    exact hset2
  · rw [hnexts2, hnexts1, Function.update_self]
  · rw [hprevs2, Function.update_self]

/-- `list_del` takes a node out of its ring. -/
theorem list_del_ring (h : m.Ring head (xs ++ x :: ys)) :
    ∃ m', list_del (some x) m = .ok m' ∧ m'.Ring head (xs ++ ys) ∧ Touched m m' (head :: (xs ++ ys)) := by
  have hsome {z : α} (hz : z ∈ head :: (xs ++ x :: ys)) : (m z).isSome := Ring.isSome h hz
  obtain ⟨node, hnode⟩ := Option.isSome_iff_exists.mp (@hsome x (by simp))
  have hnext := h.next_eq
  have hprev := h.prev_eq
  have hlast : xs.getLastD head ∈ head :: (xs ++ ys) := by
    rw [← List.cons_append]
    exact List.mem_append_left ys (Links.getLastD_mem head xs)
  have hfirst : ys.headD head ∈ head :: (xs ++ ys) := by
    obtain heq | hmem := List.mem_cons.mp (Links.headD_mem head ys)
    · rw [heq]
      exact List.mem_cons_self
    · exact List.mem_cons_of_mem head (List.mem_append_right xs hmem)
  have hsub {z : α} (hz : z ∈ head :: (xs ++ ys)) : z ∈ head :: (xs ++ x :: ys) :=
    (((List.sublist_cons_self x ys).append_left xs).cons_cons head).subset hz
  have hnode_next : node.next = some (ys.headD head) := by
    rw [nexts, hnode] at hnext
    exact hnext
  have hnode_prev : node.prev = some (xs.getLastD head) := by
    rw [prevs, hnode] at hprev
    exact hprev
  obtain ⟨m1, hset1, hnexts1, hprevs1, htouched1⟩ := set_prev_spec (hsome (hsub hfirst)) (some (xs.getLastD head))
  obtain ⟨m2, hset2, hnexts2, hprevs2, htouched2⟩ := @set_next_spec _ m1 (xs.getLastD head) _
    ((htouched1.alloc _).trans (hsome (hsub hlast))) (some (ys.headD head))
  refine ⟨m2, ?_, ?_, ?_⟩
  · rw [list_del, deref_of_some hnode, Except.ok_bind]
    simp only [hnode_next, hnode_prev]
    rw [raw_list_del, hset1]
    exact hset2
  · have hremove := h.remove
    rw [h.next_eq, h.prev_eq] at hremove
    rw [Ring, hnexts2, hprevs2, hnexts1, hprevs1]
    exact hremove
  · refine (htouched1.mono fun z hz => ?_).trans htouched2 fun z hz => ?_
    · rw [List.mem_singleton.mp hz]
      exact hfirst
    · rw [List.mem_singleton.mp hz]
      exact hlast

/-- `list_add_tail` puts a new node at the end of a ring. -/
theorem list_add_tail_ring (h : m.Ring head xs) (hx : x ∉ head :: xs) (hsome : (m x).isSome) :
    ∃ m', list_add_tail (some x) (some head) m = .ok m' ∧ m'.Ring head (xs ++ [x]) ∧ Touched m m' (x :: head :: xs) := by
  have hhead : (m head).isSome := Ring.isSome h List.mem_cons_self
  obtain ⟨node, hnode⟩ := Option.isSome_iff_exists.mp hhead
  have hprev : node.prev = some (xs.getLastD head) := by
    have hlast := h.last_eq
    rw [prevs, hnode] at hlast
    exact hlast
  have hlast : xs.getLastD head ∈ head :: xs := Links.getLastD_mem head xs
  have hne : x ≠ head := fun heq => hx (heq ▸ List.mem_cons_self)
  obtain ⟨m1, hset1, hnexts1, hprevs1, htouched1⟩ := set_prev_spec hhead (some x)
  obtain ⟨m2, hset2, hnexts2, hprevs2, htouched2⟩ := @set_next_spec _ m1 x _ ((htouched1.alloc x).trans hsome) (some head)
  obtain ⟨m3, hset3, hnexts3, hprevs3, htouched3⟩ := @set_prev_spec _ m2 x _
    ((htouched2.alloc x).trans ((htouched1.alloc x).trans hsome)) (some (xs.getLastD head))
  obtain ⟨m4, hset4, hnexts4, hprevs4, htouched4⟩ := @set_next_spec _ m3 (xs.getLastD head) _
    ((htouched3.alloc _).trans ((htouched2.alloc _).trans ((htouched1.alloc _).trans (Ring.isSome h hlast)))) (some x)
  refine ⟨m4, ?_, ?_, ?_⟩
  · rw [list_add_tail, deref_of_some hnode, Except.ok_bind]
    simp only [hprev]
    rw [raw_list_add, hset1, Except.ok_bind, hset2, Except.ok_bind, hset3, Except.ok_bind, hset4]
  · have hinsert := @Links.Ring.insert _ m.nexts m.prevs x xs [] head _ (by rwa [List.append_nil])
      (by rwa [List.append_nil])
    rw [Ring, hnexts4, hnexts3, hnexts2, hnexts1, hprevs4, hprevs3, hprevs2, hprevs1, Function.update_comm hne.symm]
    exact hinsert
  · have hsub : ∀ z ∈ [x], z ∈ x :: head :: xs := fun z hz => List.mem_singleton.mp hz ▸ List.mem_cons_self
    refine (((htouched1.mono fun z hz => ?_).trans htouched2 hsub).trans htouched3 hsub).trans htouched4 fun z hz => ?_
    · rw [List.mem_singleton.mp hz]
      exact List.mem_cons_of_mem x List.mem_cons_self
    · rw [List.mem_singleton.mp hz]
      exact List.mem_cons_of_mem x hlast

end ListHeads

namespace Hlists

variable {α : Type} {m m' m'' : Hlists α} {x : α} {bucket : Nat} {xs ys : List α}

def pprevs (m : Hlists α) : α → Option (HlistRef α) :=
  fun n => (m.node n).bind HlistNode.pprev

/-- The nodes follow the pointer of the bucket. -/
def Chain (m : Hlists α) (bucket : Nat) (xs : List α) : Prop :=
  Links.Chain m.read HlistRef.next m.pprevs (.first bucket) xs

theorem next_injective : Function.Injective (HlistRef.next : α → HlistRef α) := by
  rintro a b ⟨⟩
  rfl

theorem first_not_mem (bucket : Nat) (xs : List α) : HlistRef.first bucket ∉ xs.map HlistRef.next := by
  simp

/-- The same buckets and nodes are allocated; the other buckets and the nodes which are not
    among the given ones are as they were. -/
structure Touched (m m' : Hlists α) (bucket : Nat) (nodes : List α) : Prop where
  bucket_alloc : ∀ b, (m'.first b).isSome = (m.first b).isSome
  alloc : ∀ z, (m'.node z).isSome = (m.node z).isSome
  bucket_frame : ∀ b, b ≠ bucket → m'.first b = m.first b
  frame : ∀ z, z ∉ nodes → m'.node z = m.node z

theorem Touched.trans {nodes nodes' : List α} (h : Touched m m' bucket nodes) (h' : Touched m' m'' bucket nodes')
    (hsub : ∀ z ∈ nodes', z ∈ nodes) : Touched m m'' bucket nodes where
  bucket_alloc b := (h'.bucket_alloc b).trans (h.bucket_alloc b)
  alloc z := (h'.alloc z).trans (h.alloc z)
  bucket_frame b hb := (h'.bucket_frame b hb).trans (h.bucket_frame b hb)
  frame z hz := (h'.frame z fun hz' => hz (hsub z hz')).trans (h.frame z hz)

theorem Touched.mono {nodes nodes' : List α} (h : Touched m m' bucket nodes) (hsub : ∀ z ∈ nodes, z ∈ nodes') :
    Touched m m' bucket nodes' :=
  ⟨h.bucket_alloc, h.alloc, h.bucket_frame, fun z hz => h.frame z fun hz' => hz (hsub z hz')⟩

/-- The chain of another bucket with other nodes stays. -/
theorem Touched.chain {nodes : List α} {b : Nat} (h : Touched m m' bucket nodes) (hchain : m.Chain b xs) (hb : b ≠ bucket)
    (hdisjoint : ∀ z ∈ xs, z ∉ nodes) : m'.Chain b xs := by
  refine Links.Chain.congr hchain (fun q hq => ?_) fun z hz => ?_
  · obtain rfl | hq := List.mem_cons.mp hq
    · exact h.bucket_frame b hb
    · obtain ⟨z, hz, rfl⟩ := List.mem_map.mp hq
      rw [read, read, h.frame z (hdisjoint z hz)]
  · rw [pprevs, pprevs, h.frame z (hdisjoint z hz)]

/-- The nodes of a chain are allocated. -/
theorem Chain.isSome (h : m.Chain bucket xs) {z : α} (hz : z ∈ xs) : (m.node z).isSome := by
  obtain ⟨front, back, rfl⟩ := List.append_of_mem hz
  have hpprev := (Links.Chain.at h).2.1
  rw [pprevs] at hpprev
  cases hnode : m.node z with
  | none =>
    rw [hnode] at hpprev
    cases hpprev
  | some node => rfl

theorem deref_of_some {node : HlistNode α} (h : m.node x = some node) : m.deref (some x) = .ok (x, node) := by
  rw [deref, h]

variable [DecidableEq α]

/-- A write to the bucket's pointer, or to the one in an allocated node. -/
theorem write_spec {p : HlistRef α} {nodes : List α} (h : (m.read p).isSome) (v : Option α)
    (hp : p ∈ HlistRef.first bucket :: nodes.map HlistRef.next) : ∃ m', m.write (some p) v = .ok m' ∧
      m'.read = Function.update m.read p (some v) ∧ m'.pprevs = m.pprevs ∧ Touched m m' bucket nodes := by
  cases p with
  | first b =>
    obtain ⟨first, hfirst⟩ := Option.isSome_iff_exists.mp h
    have hb : b = bucket := by simpa using hp
    refine ⟨{ m with first := Function.update m.first b (some v) }, ?_, funext fun q => ?_, rfl, fun b' => ?_,
      fun _ => rfl, fun b' hb' => ?_, fun _ _ => rfl⟩
    · change m.first b = some first at hfirst
      simp only [write, hfirst]
    · cases q with
      | first b' =>
        by_cases hb' : b' = b
        · rw [hb', Function.update_self]
          exact Function.update_self ..
        · rw [Function.update_of_ne (fun heq => hb' (HlistRef.first.inj heq))]
          exact Function.update_of_ne hb' ..
      | next n =>
        rw [Function.update_of_ne (by simp)]
        rfl
    · by_cases hb' : b' = b
      · change m.first b = some first at hfirst
        rw [hb', hfirst]
        simp only [Function.update_self, Option.isSome_some]
      · simp only [Function.update_of_ne hb']
    · exact Function.update_of_ne (hb ▸ hb') ..
  | next n =>
    have hn : n ∈ nodes := by simpa using hp
    rw [read, Option.isSome_map] at h
    obtain ⟨node, hnode⟩ := Option.isSome_iff_exists.mp h
    refine ⟨{ m with node := Function.update m.node n (some { node with next := v }) }, ?_, funext fun q => ?_,
      funext fun z => ?_, fun _ => rfl, fun z => ?_, fun _ _ => rfl, fun z hz => ?_⟩
    · rw [write, deref_of_some hnode]
      rfl
    · cases q with
      | first b =>
        rw [Function.update_of_ne (by simp)]
        rfl
      | next n' =>
        by_cases hn' : n' = n
        · rw [hn', Function.update_self]
          simp only [read, Function.update_self, Option.map_some]
        · rw [Function.update_of_ne (fun heq => hn' (HlistRef.next.inj heq))]
          simp only [read, Function.update_of_ne hn']
    · by_cases hz : z = n
      · simp only [pprevs, hz, Function.update_self, hnode, Option.bind_some]
      · simp only [pprevs, Function.update_of_ne hz]
    · by_cases hz : z = n
      · simp only [hz, Function.update_self, hnode, Option.isSome_some]
      · simp only [Function.update_of_ne hz]
    · apply Function.update_of_ne
      rintro rfl
      exact hz hn

theorem set_pprev_spec {nodes : List α} (h : (m.node x).isSome) (pprev : Option (HlistRef α)) (hx : x ∈ nodes) :
    ∃ m', m.set_pprev (some x) pprev = .ok m' ∧ m'.read = m.read ∧ m'.pprevs = Function.update m.pprevs x pprev ∧
      Touched m m' bucket nodes := by
  obtain ⟨node, hnode⟩ := Option.isSome_iff_exists.mp h
  refine ⟨{ m with node := Function.update m.node x (some { node with pprev }) }, ?_, funext fun q => ?_,
    funext fun z => ?_, fun _ => rfl, fun z => ?_, fun _ _ => rfl, fun z hz => ?_⟩
  · rw [set_pprev, deref_of_some hnode]
    rfl
  · cases q with
    | first b => rfl
    | next n =>
      by_cases hn : n = x
      · simp only [read, hn, Function.update_self, hnode, Option.map_some]
      · simp only [read, Function.update_of_ne hn]
  · by_cases hz : z = x
    · rw [hz, Function.update_self]
      simp only [pprevs, Function.update_self, Option.bind_some]
    · rw [Function.update_of_ne hz]
      simp only [pprevs, Function.update_of_ne hz]
  · by_cases hz : z = x
    · simp only [hz, Function.update_self, hnode, Option.isSome_some]
    · simp only [Function.update_of_ne hz]
  · apply Function.update_of_ne
    rintro rfl
    exact hz hx

/-- The write to the node behind, if there is one. -/
theorem point_back_spec {nodes : List α} {n : Option α} (h : ∀ y ∈ n, (m.node y).isSome ∧ y ∈ nodes) (p : HlistRef α) :
    ∃ m', m.point_back n (some p) = .ok m' ∧ m'.read = m.read ∧
      m'.pprevs = Links.pointBack m.pprevs n p ∧ Touched m m' bucket nodes := by
  cases n with
  | none => exact ⟨m, rfl, rfl, rfl, fun _ => rfl, fun _ => rfl, fun _ _ => rfl, fun _ _ => rfl⟩
  | some y =>
    obtain ⟨hsome, hmem⟩ := h y rfl
    exact set_pprev_spec hsome (some p) hmem

/-- `hlist_add_head` puts a new node at the start of the bucket's chain. -/
theorem hlist_add_head_chain (h : m.Chain bucket xs) (hnodup : xs.Nodup) (hx : x ∉ xs) (hsome : (m.node x).isSome) :
    ∃ m', hlist_add_head x bucket m = .ok m' ∧ m'.Chain bucket (x :: xs) ∧ Touched m m' bucket (x :: xs) := by
  have hread : m.read (.first bucket) = some xs.head? := Links.Chain.head? h
  have hfirst : m.first bucket = some xs.head? := hread
  obtain ⟨node, hnode⟩ := Option.isSome_iff_exists.mp hsome
  have hself : HlistRef.next x ∈ HlistRef.first bucket :: (x :: xs).map HlistRef.next := by simp
  obtain ⟨m1, hset1, hread1, hpprevs1, htouched1⟩ := @write_spec _ m bucket _ (.next x) (x :: xs)
    (by rw [read, hnode]; rfl) xs.head? hself
  obtain ⟨m2, hset2, hread2, hpprevs2, htouched2⟩ := @point_back_spec _ m1 bucket _ (x :: xs) xs.head?
    (fun y hy => by
      have hmem := List.mem_of_head? hy
      exact ⟨(htouched1.alloc y).trans (Chain.isSome h hmem), List.mem_cons_of_mem x hmem⟩) (.next x)
  obtain ⟨m3, hset3, hread3, hpprevs3, htouched3⟩ := @write_spec _ m2 bucket _ (.first bucket) (x :: xs)
    (by rw [hread2, hread1, Function.update_of_ne (by simp), hread]; rfl) (some x) List.mem_cons_self
  obtain ⟨m4, hset4, hread4, hpprevs4, htouched4⟩ := @set_pprev_spec _ m3 x bucket _ (x :: xs)
    ((htouched3.alloc x).trans ((htouched2.alloc x).trans ((htouched1.alloc x).trans hsome))) (some (.first bucket))
    List.mem_cons_self
  refine ⟨m4, ?_, ?_, ((htouched1.trans htouched2 fun _ hz => hz).trans htouched3 fun _ hz => hz).trans htouched4
    fun _ hz => hz⟩
  · rw [hlist_add_head, hfirst]
    simp only [hset1, Except.ok_bind]
    rw [hset2, Except.ok_bind, hset3, Except.ok_bind, hset4]
  · have hpush := Links.Chain.push h next_injective hnodup hx (by simp) (first_not_mem bucket xs)
    rw [hread] at hpush
    rw [Chain, hread4, hread3, hread2, hread1, hpprevs4, hpprevs3, hpprevs2, hpprevs1]
    exact hpush

/-- `hash_del` takes a node out of its chain. -/
theorem hash_del_chain (h : m.Chain bucket (xs ++ x :: ys)) (hnodup : (xs ++ x :: ys).Nodup) :
    ∃ m', hash_del x m = .ok m' ∧ m'.Chain bucket (xs ++ ys) ∧ Touched m m' bucket (xs ++ x :: ys) := by
  obtain ⟨hread, hpprev, hback⟩ := Links.Chain.at h
  have hremove := Links.Chain.remove h next_injective hnodup (first_not_mem bucket _)
  have hnext := Links.Chain.head? hback
  generalize hp : Links.behind HlistRef.next (HlistRef.first bucket) xs = p at hread hpprev hremove
  have hpmem : p ∈ HlistRef.first bucket :: (xs ++ x :: ys).map HlistRef.next := by
    rw [← hp, List.map_append, ← List.cons_append]
    exact List.mem_append_left _ (Links.behind_mem HlistRef.next _ xs)
  obtain ⟨node, hnode⟩ := Option.isSome_iff_exists.mp (@Chain.isSome _ _ _ _ h x (by simp))
  have hnode_next : node.next = ys.head? := by
    rw [read, hnode] at hnext
    exact Option.some.inj hnext
  have hnode_pprev : node.pprev = some p := by
    rw [pprevs, hnode] at hpprev
    exact hpprev
  obtain ⟨m1, hset1, hread1, hpprevs1, htouched1⟩ := write_spec (by rw [hread]; rfl) ys.head? hpmem
  obtain ⟨m2, hset2, hread2, hpprevs2, htouched2⟩ := @point_back_spec _ m1 bucket _ (xs ++ x :: ys) ys.head?
    (fun y hy => by
      have hmem : y ∈ xs ++ x :: ys :=
        List.mem_append_right xs (List.mem_cons_of_mem x (List.mem_of_head? hy))
      exact ⟨(htouched1.alloc y).trans (Chain.isSome h hmem), hmem⟩) p
  have htouched := htouched1.trans htouched2 fun _ hz => hz
  have hchain : m2.Chain bucket (xs ++ ys) := by
    rw [hnext] at hremove
    rw [Chain, hread2, hread1, hpprevs2, hpprevs1]
    exact hremove
  obtain ⟨node2, hnode2⟩ := Option.isSome_iff_exists.mp ((htouched.alloc x).trans (by rw [hnode]; rfl))
  have hx : x ∉ xs ++ ys := by
    rw [List.nodup_middle, List.nodup_cons] at hnodup
    exact hnodup.1
  refine ⟨{ m2 with node := Function.update m2.node x (some { next := none, pprev := none }) }, ?_, ?_, ?_⟩
  · rw [hash_del, hlist_del_init, deref_of_some hnode, Except.ok_bind]
    simp only [hnode_pprev, Option.isSome_some, if_true]
    rw [raw_hlist_del, deref_of_some hnode, Except.ok_bind]
    simp only [hnode_pprev, hnode_next]
    rw [hset1, Except.ok_bind, hset2, Except.ok_bind, init_hlist_node, deref_of_some hnode2]
    rfl
  · -- the node which is initialised is in no chain any more
    refine Links.Chain.congr hchain (fun q hq => ?_) fun z hz => ?_
    · obtain rfl | hq := List.mem_cons.mp hq
      · rfl
      · obtain ⟨z, hz, rfl⟩ := List.mem_map.mp hq
        have hne : z ≠ x := fun heq => hx (heq ▸ hz)
        simp only [read, Function.update_of_ne hne]
    · have hne : z ≠ x := fun heq => hx (heq ▸ hz)
      simp only [pprevs, Function.update_of_ne hne]
  · refine @Touched.trans _ _ _ _ _ _ [x] htouched ⟨fun _ => rfl, fun z => ?_, fun _ _ => rfl, fun z hz => ?_⟩
      fun z hz => ?_
    · by_cases hz : z = x
      · simp only [hz, Function.update_self, hnode2, Option.isSome_some]
      · simp only [Function.update_of_ne hz]
    · exact Function.update_of_ne (fun heq => hz (List.mem_singleton.mpr heq)) ..
    · rw [List.mem_singleton.mp hz]
      exact List.mem_append_right xs List.mem_cons_self

end Hlists

end wsd
