import Wsd.Ws.Effect
import Wsd.Wschild.World

namespace wsd

/-- The operations and handlers of a client before and after the handshake. -/
inductive IsClient (sk : Sk) : Prop
  | http (ops : sk.ops = { recv := some .http_recv, close := some .sk_close })
      (proto : sk.proto = { decode_handshake := some .ws_decode_handshake })
  | ws (ops : sk.ops = { recv := some .ws_recv, close := some .sk_close })
      (proto : sk.proto = {
        decode_handshake := some .ws_decode_handshake
        decode_frame := some .ws_decode_frame
        encode_frame := some .ws_encode_frame
        ping := some .ws_ping
        pong := some .ws_pong
        start_closing_handshake := some .ws_start_closing_handshake })

/-- The operations and handlers of the backend's socket. -/
structure IsBackend (sk : Sk) : Prop where
  ops : sk.ops = { recv := some .pp2_recv, close := some .pp2_close }
  proto : sk.proto = {
    decode_frame := some .pp2_decode_frame
    encode_frame := some .pp2_encode_frame
    ping := some .pp2_nop }

/-- Addresses in use are below the next one, the backend's socket is none of the
    clients, and every socket has the handlers of its kind. -/
structure World.Wf (w : World) : Prop where
  client : ∀ id sk, w.clients id = some sk → IsClient sk ∧ id < w.next
  backend : ∀ p sk, w.pp2sk = some (p, sk) → IsBackend sk ∧ p < w.next ∧ w.clients p = none

section Kinds

variable {sk sk' : Sk}

/-- The kind of a socket depends on its handlers only. -/
theorem IsClient.of_eq (h : IsClient sk) (hops : sk'.ops = sk.ops) (hproto : sk'.proto = sk.proto) :
    IsClient sk' := by
  obtain ⟨ops, proto⟩ | ⟨ops, proto⟩ := h
  · exact .http (hops.trans ops) (hproto.trans proto)
  · exact .ws (hops.trans ops) (hproto.trans proto)

theorem IsBackend.of_eq (h : IsBackend sk) (hops : sk'.ops = sk.ops) (hproto : sk'.proto = sk.proto) :
    IsBackend sk' :=
  ⟨hops.trans h.ops, hproto.trans h.proto⟩

theorem IsClient.of_core (h : IsClient sk) (hcore : sk'.core = sk.core) : IsClient sk' :=
  h.of_eq (congrArg Sk.Core.ops hcore) (congrArg Sk.Core.proto hcore)

theorem IsBackend.of_core (h : IsBackend sk) (hcore : sk'.core = sk.core) : IsBackend sk' :=
  h.of_eq (congrArg Sk.Core.ops hcore) (congrArg Sk.Core.proto hcore)

theorem IsClient.encode_ne (h : IsClient sk) : sk.proto.encode_frame ≠ some .pp2_encode_frame := by
  obtain ⟨-, proto⟩ | ⟨-, proto⟩ := h <;> rw [proto] <;> simp

theorem IsClient.close_eq (h : IsClient sk) : sk.ops.close = some .sk_close := by
  obtain ⟨ops, -⟩ | ⟨ops, -⟩ := h <;> rw [ops]

theorem IsClient.not_backend (h : IsClient sk) : ¬ IsBackend sk := by
  intro hbackend
  have hclose := h.close_eq
  rw [hbackend.ops] at hclose
  cases hclose

/-- A client whose receive handler is the one for frames is upgraded. -/
theorem IsClient.upgraded (h : IsClient sk) (hrecv : sk.ops.recv = some .ws_recv) : Upgraded sk := by
  obtain ⟨ops, -⟩ | ⟨-, proto⟩ := h
  · rw [ops] at hrecv
    cases hrecv
  · constructor <;> rw [proto]

theorem Upgraded.of_core (h : Upgraded sk) (hcore : sk'.core = sk.core) : Upgraded sk' := by
  have hproto : sk'.proto = sk.proto := congrArg Sk.Core.proto hcore
  constructor <;> rw [hproto]
  · exact h.encode_frame
  · exact h.decode_frame
  · exact h.ping
  · exact h.pong
  · exact h.start_closing_handshake

theorem IsClient.upgrade (h : IsClient sk) : IsClient (upgrade sk) := by
  obtain ⟨ops, proto⟩ | ⟨ops, proto⟩ := h
  · exact .ws (by simp only [wsd.upgrade, ops]) (by simp only [wsd.upgrade, proto])
  · exact .ws (by simp only [wsd.upgrade, ops]) (by simp only [wsd.upgrade, proto])

end Kinds

namespace World

variable {w w' : World} {id p : Nat} {sk sk' : Sk}

theorem get_backend (h : w.pp2sk = some (p, sk)) : w.get p = some sk := by
  simp [get, h]

theorem get_client (h : ∀ p ∈ w.pp2sk, p.1 ≠ id) : w.get id = w.clients id := by
  cases hpp : w.pp2sk with
  | none => simp [get, hpp]
  | some pp =>
    obtain ⟨p, pp2sk⟩ := pp
    have hne : p ≠ id := h _ hpp
    simp [get, hpp, hne.symm]

/-- A socket in memory is the backend's or a client's. -/
theorem Wf.get_cases (hwf : w.Wf) (h : w.get id = some sk) :
    (w.pp2sk = some (id, sk) ∧ IsBackend sk) ∨
      w.clients id = some sk ∧ IsClient sk ∧ ∀ p ∈ w.pp2sk, p.1 ≠ id := by
  cases hpp : w.pp2sk with
  | none =>
    simp only [get, hpp] at h
    exact Or.inr ⟨h, (hwf.client id sk h).1, by simp⟩
  | some pp =>
    obtain ⟨p, pp2sk⟩ := pp
    simp only [get, hpp] at h
    by_cases hid : id = p
    · rw [if_pos hid] at h
      cases h
      subst hid
      exact Or.inl ⟨rfl, (hwf.backend _ _ hpp).1⟩
    · rw [if_neg hid] at h
      refine Or.inr ⟨h, (hwf.client id sk h).1, ?_⟩
      intro p' hp'
      cases hp'
      exact fun heq => hid heq.symm

theorem Wf.get_of_client (hwf : w.Wf) (h : w.clients id = some sk) : w.get id = some sk := by
  rw [get_client, h]
  intro p hp heq
  have hnone := (hwf.backend p.1 p.2 hp).2.2
  rw [heq, h] at hnone
  cases hnone

theorem Wf.get_lt (hwf : w.Wf) (h : w.get id = some sk) : id < w.next := by
  obtain ⟨hpp, -⟩ | ⟨hclient, -⟩ := hwf.get_cases h
  · exact (hwf.backend _ _ hpp).2.1
  · exact (hwf.client _ _ hclient).2

theorem Wf.get_next (hwf : w.Wf) : w.get w.next = none := by
  cases hget : w.get w.next with
  | none => rfl
  | some sk => exact absurd (hwf.get_lt hget) (Nat.lt_irrefl _)

theorem set_backend (h : w.pp2sk = some (id, sk')) : w.set id sk = { w with pp2sk := some (id, sk) } := by
  simp [set, h]

theorem set_client (h : ∀ p ∈ w.pp2sk, p.1 ≠ id) :
    w.set id sk = { w with clients := Function.update w.clients id (some sk) } := by
  cases hpp : w.pp2sk with
  | none => simp [set, hpp]
  | some pp =>
    have hne : id ≠ pp.1 := (h _ hpp).symm
    simp [set, hpp, hne]

/-- Replacing a socket touches neither a registry nor another field. -/
theorem set_eq (w : World) (id : Nat) (sk : Sk) :
    ∃ clients pp2sk, w.set id sk = { w with clients, pp2sk } := by
  by_cases h : ∀ p ∈ w.pp2sk, p.1 ≠ id
  · exact ⟨_, _, set_client h⟩
  · push Not at h
    obtain ⟨pp, hpp, rfl⟩ := h
    exact ⟨_, _, set_backend hpp⟩

@[simp] theorem get_set (w : World) (id : Nat) (sk : Sk) :
    (w.set id sk).get = Function.update w.get id (some sk) := by
  funext j
  by_cases h : ∀ p ∈ w.pp2sk, p.1 ≠ id
  · rw [set_client h]
    cases hpp : w.pp2sk with
    | none => simp only [get, hpp, Function.update_apply]
    | some pp =>
      have hne : pp.1 ≠ id := h _ hpp
      simp only [get, hpp, Function.update_apply]
      by_cases hj : j = pp.1
      · simp [hj, hne]
      · simp [hj]
  · push Not at h
    obtain ⟨pp, hpp, rfl⟩ := h
    rw [set_backend hpp]
    simp only [get, Function.update_apply, Option.mem_def.mp hpp]
    by_cases hj : j = pp.1 <;> simp [hj]

theorem get_set_self (w : World) (id : Nat) (sk : Sk) : (w.set id sk).get id = some sk := by
  rw [get_set, Function.update_self]

/-- Only the last of two replacements counts. -/
theorem set_set (w : World) (id : Nat) (sk sk' : Sk) (wsd_errno : Errno) :
    World.set { w.set id sk with wsd_errno } id sk' = { w.set id sk' with wsd_errno } := by
  cases hpp : w.pp2sk with
  | none => simp [set, hpp]
  | some pp => by_cases hid : id = pp.1 <;> simp [set, hpp, hid]

theorem set_set_num (w : World) (id : Nat) (sk sk' : Sk) (wsd_errno : Errno) (num : Nat) :
    World.set { w.set id sk with wsd_errno, num } id sk' = { w.set id sk' with wsd_errno, num } := by
  cases hpp : w.pp2sk with
  | none => simp [set, hpp]
  | some pp => by_cases hid : id = pp.1 <;> simp [set, hpp, hid]

theorem deref_eq_ok (h : w.deref id = .ok sk) : w.get id = some sk := by
  unfold deref at h
  cases hget : w.get id with
  | none => simp [hget] at h
  | some sk' =>
    simp only [hget, Except.ok.injEq] at h
    rw [h]

theorem deref_of_get (h : w.get id = some sk) : w.deref id = .ok sk := by
  simp [deref, h]

@[simp] theorem next_set (w : World) (id : Nat) (sk : Sk) : (w.set id sk).next = w.next := by
  obtain ⟨clients, pp2sk, h⟩ := set_eq w id sk
  rw [h]

@[simp] theorem work_list_set (w : World) (id : Nat) (sk : Sk) : (w.set id sk).work_list = w.work_list := by
  obtain ⟨clients, pp2sk, h⟩ := set_eq w id sk
  rw [h]

@[simp] theorem sk_list_set (w : World) (id : Nat) (sk : Sk) : (w.set id sk).sk_list = w.sk_list := by
  obtain ⟨clients, pp2sk, h⟩ := set_eq w id sk
  rw [h]

@[simp] theorem sk_hash_set (w : World) (id : Nat) (sk : Sk) : (w.set id sk).sk_hash = w.sk_hash := by
  obtain ⟨clients, pp2sk, h⟩ := set_eq w id sk
  rw [h]

/-- Replacing a socket by one of the same kind keeps the world well-formed. -/
theorem Wf.set (hwf : w.Wf) (hget : w.get id = some sk) (hclient : IsClient sk → IsClient sk')
    (hbackend : IsBackend sk → IsBackend sk') : (w.set id sk').Wf := by
  have hlt := hwf.get_lt hget
  obtain ⟨hpp, hkind⟩ | ⟨hcl, hkind, hne⟩ := hwf.get_cases hget
  · rw [set_backend hpp]
    refine ⟨hwf.client, ?_⟩
    intro p pp2sk h
    cases h
    exact ⟨hbackend hkind, hlt, (hwf.backend _ _ hpp).2.2⟩
  · rw [set_client hne]
    constructor
    · intro j sk'' h
      by_cases hj : j = id
      · subst hj
        simp only [Function.update_self, Option.some.injEq] at h
        subst h
        exact ⟨hclient hkind, hlt⟩
      · simp only [Function.update_of_ne hj] at h
        exact hwf.client j sk'' h
    · intro p pp2sk h
      have hp := hwf.backend p pp2sk h
      refine ⟨hp.1, hp.2.1, ?_⟩
      simp only [Function.update_of_ne (hne _ h)]
      exact hp.2.2

theorem conn_eq_ok {c : Conn} (h : w.conn id = .ok c) :
    ∃ p, w.clients id = some c.sk ∧ w.pp2sk = some (p, c.pp2sk) ∧ c.wsd_errno = w.wsd_errno := by
  unfold conn at h
  split at h
  · cases h
  · cases h
  · rename_i sk p pp2sk hclient hpp
    cases h
    exact ⟨p, hclient, hpp, rfl⟩

theorem conn_of_get {pp2sk : Sk} (hclient : w.clients id = some sk) (hpp : w.pp2sk = some (p, pp2sk)) :
    w.conn id = .ok { sk, pp2sk, wsd_errno := w.wsd_errno } := by
  simp [conn, hclient, hpp]

theorem get_setConn (hpp : w.pp2sk = some (p, sk)) (c : Conn) :
    (w.setConn id c).get = Function.update (Function.update w.get id (some c.sk)) p (some c.pp2sk) := by
  funext j
  simp only [get, setConn, hpp, Option.map_some, Function.update_apply]
  by_cases hj : j = p <;> simp [hj]

theorem Wf.setConn (hwf : w.Wf) {pp2sk : Sk} {c : Conn} (hclient : w.clients id = some sk)
    (hpp : w.pp2sk = some (p, pp2sk)) (hsk : IsClient c.sk) (hpp2sk : IsBackend c.pp2sk) :
    (w.setConn id c).Wf := by
  have hp := hwf.backend _ _ hpp
  constructor
  · intro j sk' h
    by_cases hj : j = id
    · subst hj
      simp only [World.setConn, Function.update_self, Option.some.injEq] at h
      subst h
      exact ⟨hsk, (hwf.client _ _ hclient).2⟩
    · simp only [World.setConn, Function.update_of_ne hj] at h
      exact hwf.client j sk' h
  · intro p' sk' h
    simp only [World.setConn, hpp, Option.map_some, Option.some.injEq, Prod.mk.injEq] at h
    obtain ⟨rfl, rfl⟩ := h
    refine ⟨hpp2sk, hp.2.1, ?_⟩
    have hne : p ≠ id := by
      rintro rfl
      rw [hp.2.2] at hclient
      cases hclient
    simp only [World.setConn, Function.update_of_ne hne]
    exact hp.2.2

theorem get_setMux_update (hpp : w.pp2sk = some (p, sk)) {m : Mux}
    (hclients : m.clients = Function.update w.clients id (some sk')) :
    (w.setMux m).get = Function.update (Function.update w.get id (some sk')) p (some m.pp2sk) := by
  funext j
  simp only [get, setMux, hpp, hclients, Option.map_some, Function.update_apply]
  by_cases hj : j = p <;> simp [hj]

theorem Wf.setMux (hwf : w.Wf) (hpp : w.pp2sk = some (p, sk)) {m : Mux}
    (hclients : ∀ j sk', m.clients j = some sk' → IsClient sk' ∧ ∃ sk, w.clients j = some sk)
    (hpp2sk : IsBackend m.pp2sk) : (w.setMux m).Wf := by
  have hp := hwf.backend _ _ hpp
  constructor
  · intro j sk' h
    obtain ⟨hkind, sk, hsk⟩ := hclients j sk' h
    exact ⟨hkind, (hwf.client j sk hsk).2⟩
  · intro p' sk' h
    simp only [World.setMux, hpp, Option.map_some, Option.some.injEq, Prod.mk.injEq] at h
    obtain ⟨rfl, rfl⟩ := h
    refine ⟨hpp2sk, hp.2.1, ?_⟩
    cases hnone : m.clients p with
    | none => exact hnone
    | some sk' =>
      obtain ⟨-, sk, hsk⟩ := hclients p sk' hnone
      rw [hp.2.2] at hsk
      cases hsk

/-- The world with a new backend's socket. -/
theorem get_open (hpp : w.pp2sk = none) (pp2sk : Sk) (sk_list : List Nat) :
    get { w with pp2sk := some (w.next, pp2sk), sk_list, next := w.next + 1 } =
      Function.update w.get w.next (some pp2sk) := by
  funext j
  simp only [get, hpp, Function.update_apply]

theorem Wf.open (hwf : w.Wf) {pp2sk : Sk} (hkind : IsBackend pp2sk) (sk_list : List Nat) :
    Wf { w with pp2sk := some (w.next, pp2sk), sk_list, next := w.next + 1 } := by
  constructor
  · intro j sk' h
    have hj := hwf.client j sk' h
    exact ⟨hj.1, Nat.lt_succ_of_lt hj.2⟩
  · intro p' sk' h
    cases h
    refine ⟨hkind, Nat.lt_succ_self _, ?_⟩
    cases hnone : w.clients w.next with
    | none => rfl
    | some sk' => exact absurd (hwf.client _ _ hnone).2 (Nat.lt_irrefl _)

theorem get_accept (hwf : w.Wf) (cl : Sk) (sk_hash : Nat → List Nat) (sk_list : List Nat) :
    get { w with clients := Function.update w.clients w.next (some cl), sk_hash, sk_list, next := w.next + 1 } =
      Function.update w.get w.next (some cl) := by
  funext j
  simp only [get, Function.update_apply]
  split
  · rfl
  · rename_i p pp2sk hpp
    have hp := (hwf.backend p pp2sk hpp).2.1
    by_cases hj : j = p
    · rw [if_pos hj, if_neg (by omega), if_pos hj]
    · rw [if_neg hj, if_neg hj]

theorem Wf.accept (hwf : w.Wf) {cl : Sk} (hkind : IsClient cl) (sk_hash : Nat → List Nat) (sk_list : List Nat) :
    Wf { w with clients := Function.update w.clients w.next (some cl), sk_hash, sk_list, next := w.next + 1 } := by
  constructor
  · intro j sk' h
    by_cases hj : j = w.next
    · subst hj
      simp only [Function.update_self, Option.some.injEq] at h
      subst h
      exact ⟨hkind, Nat.lt_succ_self _⟩
    · simp only [Function.update_of_ne hj] at h
      have hold := hwf.client j sk' h
      exact ⟨hold.1, Nat.lt_succ_of_lt hold.2⟩
  · intro p' sk' h
    have hp := hwf.backend p' sk' h
    refine ⟨hp.1, Nat.lt_succ_of_lt hp.2.1, ?_⟩
    simp only
    rw [Function.update_of_ne (by omega)]
    exact hp.2.2

end World

/-- What `close` does to a socket of either kind. -/
inductive Closed (w : World) (id : Nat) (sk : Sk) : World → Prop
  | client (work_list : List Nat) (hclient : w.clients id = some sk) (hapart : ∀ p ∈ w.pp2sk, p.1 ≠ id)
      (hunlink : unlink_fd w sk.fd w.work_list = .ok work_list) :
      Closed w id sk { w with
        clients := Function.update w.clients id none
        sk_hash := fun bucket => (w.sk_hash bucket).erase id
        sk_list := w.sk_list.erase id
        work_list }
  | backend (hpp : w.pp2sk = some (id, sk)) (hclient : w.clients id = none) :
      Closed w id sk { w with pp2sk := none, sk_list := w.sk_list.erase id }

theorem close_inv {w w' : World} {id : Nat} (hwf : w.Wf) (h : close w id = .ok w') :
    ∃ sk, w.get id = some sk ∧ Closed w id sk w' := by
  unfold close at h
  obtain ⟨sk, hget, h⟩ := Except.bind_eq_ok_iff.mp h
  have hsk := World.deref_eq_ok hget
  refine ⟨sk, hsk, ?_⟩
  obtain ⟨hpp, hkind⟩ | ⟨hclient, hkind, hapart⟩ := hwf.get_cases hsk
  · simp only [hkind.ops, pp2_close, hpp, if_true, Except.ok.injEq] at h
    subst h
    exact .backend hpp (hwf.backend _ _ hpp).2.2
  · simp only [hkind.close_eq, sk_close, hclient] at h
    obtain ⟨work_list, hunlink, h⟩ := Except.bind_eq_ok_iff.mp h
    cases h
    exact .client work_list hclient hapart hunlink

/-- Closing a socket which is known. -/
theorem close_get {w w' : World} {id : Nat} {sk : Sk} (hwf : w.Wf) (hget : w.get id = some sk)
    (h : close w id = .ok w') : Closed w id sk w' := by
  obtain ⟨sk', hget', hclosed⟩ := close_inv hwf h
  have hsame : sk = sk' := Option.some.inj (hget.symm.trans hget')
  rwa [hsame]

namespace Closed

variable {w w' : World} {id : Nat} {sk : Sk}

theorem get_eq (h : Closed w id sk w') : w'.get = Function.update w.get id none := by
  funext j
  cases h with
  | client work_list hclient hapart hunlink =>
    cases hpp : w.pp2sk with
    | none => simp only [World.get, hpp, Function.update_apply]
    | some pp =>
      have hne := hapart pp hpp
      simp only [World.get, hpp, Function.update_apply]
      by_cases hj : j = pp.1
      · simp [hj, hne]
      · simp [hj]
  | backend hpp hclient =>
    simp only [World.get, hpp, Function.update_apply]
    by_cases hj : j = id
    · simp [hj, hclient]
    · simp [hj]

theorem wf (h : Closed w id sk w') (hwf : w.Wf) : w'.Wf := by
  cases h with
  | client work_list hclient hapart hunlink =>
    constructor
    · intro j sk' hj
      by_cases hid : j = id
      · subst hid
        simp at hj
      · simp only [Function.update_of_ne hid] at hj
        exact hwf.client j sk' hj
    · intro p pp2sk hpp
      have hp := hwf.backend p pp2sk hpp
      refine ⟨hp.1, hp.2.1, ?_⟩
      simp only [Function.update_of_ne (hapart _ hpp)]
      exact hp.2.2
  | backend hpp hclient =>
    refine ⟨hwf.client, ?_⟩
    intro p pp2sk hnone
    cases hnone

end Closed

end wsd
