import Wsd.Wschild.Invariant
import Wsd.Wschild.Table

namespace wsd

section WorkList

variable {w w' : World} {id : Nat} {sk : Sk}

/-- Unlinking keeps the nodes of the other descriptors, in their order. -/
theorem unlink_fd_sublist {fd : Int} {nodes nodes' : List Nat} (h : unlink_fd w fd nodes = .ok nodes') :
    nodes'.Sublist nodes := by
  induction nodes generalizing nodes' with
  | nil =>
    cases h
    exact List.Sublist.refl _
  | cons pos rest ih =>
    unfold unlink_fd at h
    obtain ⟨sk, -, h⟩ := Except.bind_eq_ok_iff.mp h
    obtain ⟨rest', hrest, h⟩ := Except.bind_eq_ok_iff.mp h
    cases h
    split
    · exact (ih hrest).cons pos
    · exact (ih hrest).cons_cons pos

/-- No node of a socket with the descriptor stays linked. -/
theorem unlink_fd_not_mem {nodes nodes' : List Nat} (hget : w.get id = some sk)
    (h : unlink_fd w sk.fd nodes = .ok nodes') : id ∉ nodes' := by
  induction nodes generalizing nodes' with
  | nil =>
    cases h
    exact List.not_mem_nil
  | cons pos rest ih =>
    unfold unlink_fd at h
    obtain ⟨sk', hderef, h⟩ := Except.bind_eq_ok_iff.mp h
    obtain ⟨rest', hrest, h⟩ := Except.bind_eq_ok_iff.mp h
    cases h
    split
    · exact ih hrest
    · rename_i hfd
      intro hmem
      obtain rfl | hmem := List.mem_cons.mp hmem
      · have hsame : sk' = sk := Option.some.inj ((World.deref_eq_ok hderef).symm.trans hget)
        exact hfd (by rw [hsame])
      · exact ih hrest hmem

theorem Closed.work_list_sublist (h : Closed w id sk w') : w'.work_list.Sublist w.work_list := by
  cases h with
  | client work_list hclient hapart hunlink => exact unlink_fd_sublist hunlink
  | backend => exact List.Sublist.refl _

/-- A socket whose descriptor is linked nowhere is not linked itself. -/
theorem has_fd_false {fd : Int} {nodes : List Nat} (h : has_fd w fd nodes = .ok false) :
    ∀ pos ∈ nodes, ∃ sk, w.get pos = some sk ∧ sk.fd ≠ fd := by
  induction nodes with
  | nil =>
    intro pos hpos
    cases hpos
  | cons first rest ih =>
    unfold has_fd at h
    obtain ⟨sk, hderef, h⟩ := Except.bind_eq_ok_iff.mp h
    by_cases hfd : sk.fd = fd
    · rw [if_pos hfd] at h
      cases h
    · rw [if_neg hfd] at h
      intro pos hpos
      obtain rfl | hpos := List.mem_cons.mp hpos
      · exact ⟨sk, World.deref_eq_ok hderef, hfd⟩
      · exact ih h pos hpos

theorem Posted.work_list (h : Posted w id sk w') (hget : w.get id = some sk) :
    w'.work_list = w.work_list ∨ id ∉ w.work_list ∧ w'.work_list = w.work_list ++ [id] := by
  obtain ⟨linked, hlinked, rfl⟩ := h
  cases linked with
  | true => exact Or.inl rfl
  | false =>
    refine Or.inr ⟨fun hmem => ?_, rfl⟩
    obtain ⟨sk', hget', hne⟩ := has_fd_false hlinked id hmem
    rw [hget] at hget'
    cases hget'
    exact hne rfl

/-- After its receive handler a socket is linked only if it waits for room or for more
    input behind an incomplete frame. -/
theorem TryRecv.work_list {rv : Int} (h : TryRecv w id rv w') (hnodup : w.work_list.Nodup) :
    w'.work_list.Sublist w.work_list ∧
      (id ∉ w'.work_list ∨ w' = w ∧ (0 < rv ∨ rv < 0 ∧ w.wsd_errno = .WSD_EAGAIN)) := by
  have herase : id ∉ w.work_list.erase id := hnodup.not_mem_erase
  cases h with
  | done hrv => exact ⟨List.erase_sublist, Or.inl herase⟩
  | again hrv => exact ⟨List.Sublist.refl _, Or.inr ⟨rfl, hrv⟩⟩
  | flushing => exact ⟨List.erase_sublist, Or.inl herase⟩
  | closed sk w' hrv hinput hagain hget hclose hclosed =>
    have hsub := hclosed.work_list_sublist
    exact ⟨hsub.trans List.erase_sublist, Or.inl fun hmem => herase (hsub.subset hmem)⟩

end WorkList

/-- The three containers of the daemon hold open sockets only, each at most once. Every
    open socket is on `sk_list`, and every client in the chain of its hash, which is one
    of the table's. -/
structure World.Registry (w : World) : Prop where
  linked : w.Linked
  in_table : ∀ id sk, w.clients id = some sk → hash_min sk.hash < HASH_SIZE
  list_iff : ∀ id, id ∈ w.sk_list ↔ (w.get id).isSome
  list_nodup : w.sk_list.Nodup
  work_open : ∀ id ∈ w.work_list, (w.get id).isSome
  work_nodup : w.work_list.Nodup

/-- The same sockets are open, with the same hashes, and the containers are the same. -/
structure World.Kept (w w' : World) : Prop where
  get : ∀ id, (w'.get id).isSome = (w.get id).isSome
  hash : ∀ id, (w'.clients id).map Sk.hash = (w.clients id).map Sk.hash
  sk_hash : w'.sk_hash = w.sk_hash
  sk_list : w'.sk_list = w.sk_list
  work_list : w'.work_list = w.work_list
  next : w'.next = w.next

namespace World

variable {w w' : World} {id p : Nat} {sk sk' : Sk}

theorem registry_init : World.init.Registry where
  linked := linked_init
  in_table := by simp [World.init]
  list_iff := by simp [World.init, get]
  list_nodup := .nil
  work_open := by simp [World.init]
  work_nodup := .nil

theorem Kept.same (hclients : w'.clients = w.clients) (hpp : w'.pp2sk = w.pp2sk) (hhash : w'.sk_hash = w.sk_hash)
    (hlist : w'.sk_list = w.sk_list) (hwork : w'.work_list = w.work_list) (hnext : w'.next = w.next) : w.Kept w' :=
  ⟨fun id => by simp only [World.get, hclients, hpp], fun id => by rw [hclients], hhash, hlist, hwork, hnext⟩

/-- A client in one world is a client with the same hash in the other. -/
theorem Kept.client (h : w.Kept w') {sk' : Sk} (hclient : w'.clients id = some sk') :
    ∃ sk, w.clients id = some sk ∧ sk.hash = sk'.hash := by
  have hhash := h.hash id
  rw [hclient] at hhash
  exact Option.map_eq_some_iff.mp hhash.symm

theorem Kept.symm (h : w.Kept w') : w'.Kept w :=
  ⟨fun id => (h.get id).symm, fun id => (h.hash id).symm, h.sk_hash.symm, h.sk_list.symm, h.work_list.symm,
    h.next.symm⟩

theorem Kept.registry (h : w.Kept w') (hw : w.Registry) : w'.Registry where
  linked := by
    constructor
    · intro id sk' hclient
      obtain ⟨sk, hsk, -⟩ := h.client hclient
      rw [h.next]
      exact hw.linked.fresh id sk hsk
    · intro bucket id
      rw [h.sk_hash, hw.linked.mem_iff]
      constructor
      · rintro ⟨sk, hsk, hmin⟩
        obtain ⟨sk', hsk', hhash⟩ := h.symm.client hsk
        exact ⟨sk', hsk', by rw [hhash, hmin]⟩
      · rintro ⟨sk', hsk', hmin⟩
        obtain ⟨sk, hsk, hhash⟩ := h.client hsk'
        exact ⟨sk, hsk, by rw [hhash, hmin]⟩
    · intro bucket
      rw [h.sk_hash]
      exact hw.linked.nodup bucket
  in_table := by
    intro id sk' hclient
    obtain ⟨sk, hsk, hhash⟩ := h.client hclient
    rw [← hhash]
    exact hw.in_table id sk hsk
  list_iff := by
    intro id
    rw [h.sk_list, h.get, hw.list_iff]
  list_nodup := by
    rw [h.sk_list]
    exact hw.list_nodup
  work_open := by
    intro id hid
    rw [h.get]
    rw [h.work_list] at hid
    exact hw.work_open id hid
  work_nodup := by
    rw [h.work_list]
    exact hw.work_nodup

/-- A socket which changes in place keeps its hash. -/
theorem kept_set (hwf : w.Wf) (hget : w.get id = some sk) (hhash : sk'.hash = sk.hash) : w.Kept (w.set id sk') := by
  refine ⟨?_, ?_, sk_hash_set .., sk_list_set .., work_list_set .., next_set ..⟩
  · intro j
    rw [get_set, Function.update_apply]
    split
    · rename_i hj
      rw [hj, hget]
      rfl
    · rfl
  · intro j
    obtain ⟨hpp, -⟩ | ⟨hclient, -, hapart⟩ := hwf.get_cases hget
    · rw [set_backend hpp]
    · rw [set_client hapart]
      simp only [Function.update_apply]
      split
      · rename_i hj
        rw [hj, hclient, Option.map_some, Option.map_some, hhash]
      · rfl

theorem kept_setConn {pp2sk : Sk} {c : Conn} (hwf : w.Wf) (hclient : w.clients id = some sk)
    (hpp : w.pp2sk = some (p, pp2sk)) (hhash : c.sk.hash = sk.hash) : w.Kept (w.setConn id c) := by
  refine ⟨?_, ?_, rfl, rfl, rfl, rfl⟩
  · intro j
    rw [get_setConn hpp]
    simp only [Function.update_apply]
    split
    · rename_i hj
      rw [hj, get_backend hpp]
      rfl
    · split
      · rename_i hj
        rw [hj, hwf.get_of_client hclient]
        rfl
      · rfl
  · intro j
    simp only [setConn, Function.update_apply]
    split
    · rename_i hj
      rw [hj, hclient, Option.map_some, Option.map_some, hhash]
    · rfl

theorem kept_setMux {m m' : Mux} {rv : Int} (hpp : w.pp2sk = some (p, sk)) (pp2sk' : Sk) (hclients : m.clients = w.clients)
    (hdemuxed : Demuxed m rv m') : w.Kept (w.setMux { m' with pp2sk := pp2sk' }) := by
  have hhash (j : Nat) : (m'.clients j).map Sk.hash = (w.clients j).map Sk.hash := by
    rw [← hclients]
    cases hcl' : m'.clients j with
    | none => rw [hdemuxed.clients_none hcl']
    | some cl' =>
      obtain ⟨cl, hcl, hcore⟩ := hdemuxed.clients_core hcl'
      rw [hcl, Option.map_some, Option.map_some]
      exact congrArg (fun core => some core.hash) hcore
  refine ⟨?_, hhash, rfl, rfl, rfl, rfl⟩
  intro j
  have hsome := congrArg Option.isSome (hhash j)
  rw [Option.isSome_map, Option.isSome_map] at hsome
  simp only [get, setMux, hpp, Option.map_some]
  split
  · rfl
  · exact hsome

/-- Closing takes a socket out of all containers but the backend's out of `work_list`. -/
theorem Registry.closed (h : w.Registry) (hclosed : Closed w id sk w')
    (hbackend : w.pp2sk = some (id, sk) → id ∉ w.work_list) : w'.Registry := by
  have hget := hclosed.get_eq
  have hlist : w'.sk_list = w.sk_list.erase id := by cases hclosed <;> rfl
  have hwork := hclosed.work_list_sublist
  have hnot : id ∉ w'.work_list := by
    cases hclosed with
    | client work_list hclient hapart hunlink =>
      have hget : w.get id = some sk := by rw [get_client hapart, hclient]
      exact unlink_fd_not_mem hget hunlink
    | backend hpp => exact hbackend hpp
  constructor
  · cases hclosed with
    | client work_list => exact h.linked.removed id _ work_list
    | backend => exact ⟨h.linked.fresh, h.linked.mem_iff, h.linked.nodup⟩
  · intro j sk' hclient
    cases hclosed with
    | client work_list =>
      simp only [Function.update_apply] at hclient
      split at hclient
      · cases hclient
      · exact h.in_table j sk' hclient
    | backend => exact h.in_table j sk' hclient
  · intro j
    rw [hlist, h.list_nodup.mem_erase_iff, h.list_iff, hget, Function.update_apply]
    split
    · rename_i hj
      simp [hj]
    · rename_i hj
      simp [hj]
  · rw [hlist]
    exact h.list_nodup.erase id
  · intro j hj
    have hne : j ≠ id := by
      rintro rfl
      exact hnot hj
    rw [hget, Function.update_of_ne hne]
    exact h.work_open j (hwork.subset hj)
  · exact hwork.nodup h.work_nodup

theorem Registry.erased (h : w.Registry) (id : Nat) : World.Registry { w with work_list := w.work_list.erase id } where
  linked := ⟨h.linked.fresh, h.linked.mem_iff, h.linked.nodup⟩
  in_table := h.in_table
  list_iff := h.list_iff
  list_nodup := h.list_nodup
  work_open j hj := h.work_open j (List.mem_of_mem_erase hj)
  work_nodup := h.work_nodup.erase id

theorem Registry.try_recv {rv : Int} (h : w.Registry) (htry : TryRecv w id rv w') : w'.Registry := by
  cases htry with
  | done => exact h.erased id
  | again => exact h
  | flushing => exact h.erased id
  | closed sk w' hrv hinput hagain hget hclose hclosed =>
    exact (h.erased id).closed hclosed fun _ => h.work_nodup.not_mem_erase

theorem nodup_snoc {nodes : List Nat} {id : Nat} (h : nodes.Nodup) (hid : id ∉ nodes) : (nodes ++ [id]).Nodup := by
  rw [List.nodup_append]
  refine ⟨h, List.pairwise_singleton _ id, fun a ha b hb => ?_⟩
  rw [List.mem_singleton.mp hb]
  exact fun heq => hid (heq ▸ ha)

theorem Registry.posted (h : w.Registry) (hget : w.get id = some sk) (hposted : Posted w id sk w') : w'.Registry := by
  obtain hsame | ⟨hnot, hwork⟩ := hposted.work_list hget
  · obtain ⟨linked, -, rfl⟩ := hposted
    exact ⟨⟨h.linked.fresh, h.linked.mem_iff, h.linked.nodup⟩, h.in_table, h.list_iff, h.list_nodup,
      fun j hj => h.work_open j (by rwa [hsame] at hj), by rw [hsame]; exact h.work_nodup⟩
  · obtain ⟨linked, -, rfl⟩ := hposted
    refine ⟨⟨h.linked.fresh, h.linked.mem_iff, h.linked.nodup⟩, h.in_table, h.list_iff, h.list_nodup, ?_, ?_⟩
    · intro j hj
      rw [hwork, List.mem_append, List.mem_singleton] at hj
      obtain hj | rfl := hj
      · exact h.work_open j hj
      · exact Option.isSome_iff_exists.mpr ⟨sk, hget⟩
    · rw [hwork]
      exact nodup_snoc h.work_nodup hnot

theorem Registry.not_mem_next (h : w.Registry) (hwf : w.Wf) : w.next ∉ w.sk_list := by
  rw [h.list_iff, hwf.get_next]
  exact Bool.false_ne_true

theorem Registry.accepted {a : Accepted} (h : w.Registry) (hwf : w.Wf) (hnear : a.src_addr.last < HASH_SIZE) :
    (w.accept a).Registry where
  linked := h.linked.accept a
  in_table := by
    intro j sk' hclient
    simp only [World.accept, Function.update_apply] at hclient
    split at hclient
    · cases hclient
      change hash_min (hash a.src_addr a.tv_nsec) < HASH_SIZE
      rwa [hash_min_hash]
    · exact h.in_table j sk' hclient
  list_iff := by
    intro j
    have hget : (w.accept a).get = _ := get_accept hwf _ _ _
    rw [hget, Function.update_apply]
    simp only [World.accept, List.mem_append, List.mem_singleton, h.list_iff]
    split
    · rename_i hj
      simp [hj]
    · rename_i hj
      simp [hj]
  list_nodup := nodup_snoc h.list_nodup (h.not_mem_next hwf)
  work_open := by
    intro j hj
    have hget : (w.accept a).get = _ := get_accept hwf _ _ _
    rw [hget, Function.update_apply]
    split
    · rfl
    · exact h.work_open j hj
  work_nodup := h.work_nodup

theorem Registry.opened {fd : Int} (h : w.Registry) (hwf : w.Wf) (hpp : w.pp2sk = none) :
    (sk_open (.connected fd) w).2.Registry where
  linked := ⟨fun j sk' hj => Nat.lt_succ_of_lt (h.linked.fresh j sk' hj), h.linked.mem_iff, h.linked.nodup⟩
  in_table := h.in_table
  list_iff := by
    intro j
    have hget : (sk_open (.connected fd) w).2.get = _ := get_open hpp _ _
    rw [hget, Function.update_apply]
    simp only [sk_open, List.mem_append, List.mem_singleton, h.list_iff]
    split
    · rename_i hj
      simp [hj]
    · rename_i hj
      simp [hj]
  list_nodup := nodup_snoc h.list_nodup (h.not_mem_next hwf)
  work_open := by
    intro j hj
    have hget : (sk_open (.connected fd) w).2.get = _ := get_open hpp _ _
    rw [hget, Function.update_apply]
    split
    · rfl
    · exact h.work_open j hj
  work_nodup := h.work_nodup

end World

end wsd
