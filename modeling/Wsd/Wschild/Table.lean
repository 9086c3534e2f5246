import Wsd.Wschild.World

namespace wsd

/-- The calls which insert into the connection table and remove from it. -/
inductive TableCall
  | sk_accept (accepted : Accepted)
  | sk_close (id : Nat)
  deriving DecidableEq, Repr

def World.table_call (w : World) : TableCall → Except Fault World
  | .sk_accept accepted => do
    let (_, w) ← sk_accept (some accepted) w
    return w
  | .sk_close id => sk_close w id

def World.table_calls (w : World) : List TableCall → Except Fault World
  | [] => .ok w
  | call :: calls => do
    let w ← w.table_call call
    w.table_calls calls

/-- What the connection table stands for: the hashes of the open clients by address,
    and the address of the next one. -/
structure Registered where
  hashes : Nat → Option UInt64
  next : Nat

namespace Registered

def empty : Registered where
  hashes := fun _ => none
  next := 0

def after (r : Registered) : TableCall → Registered
  | .sk_accept a =>
    { hashes := Function.update r.hashes r.next (some (hash a.src_addr a.tv_nsec)), next := r.next + 1 }
  | .sk_close id => { r with hashes := Function.update r.hashes id none }

/-- Each call of the history which closes a client closes one that is open then. -/
def Allows (r : Registered) : List TableCall → Prop
  | [] => True
  | call :: calls => (∀ id, call = .sk_close id → r.hashes id ≠ none) ∧ (r.after call).Allows calls

end Registered

/-- Every open client is linked in the chain of its hash and nowhere else, once. -/
structure World.Linked (w : World) : Prop where
  fresh : ∀ id sk, w.clients id = some sk → id < w.next
  mem_iff : ∀ bucket id, id ∈ w.sk_hash bucket ↔ ∃ sk, w.clients id = some sk ∧ hash_min sk.hash = bucket
  nodup : ∀ bucket, (w.sk_hash bucket).Nodup

theorem World.linked_init : World.init.Linked where
  fresh := by simp [World.init]
  mem_iff := by simp [World.init]
  nodup := by simp [World.init]

section Linked

variable {w w' : World} {id : Nat} {sk : Sk}

theorem World.Linked.not_mem_next (h : w.Linked) (bucket : Nat) : w.next ∉ w.sk_hash bucket := by
  intro hmem
  obtain ⟨sk, hclient, -⟩ := (h.mem_iff bucket w.next).mp hmem
  exact Nat.lt_irrefl _ (h.fresh w.next sk hclient)

theorem World.Linked.accept (h : w.Linked) (a : Accepted) : (w.accept a).Linked := by
  constructor
  · intro id sk hclient
    simp only [World.accept, Function.update_apply] at hclient ⊢
    split at hclient
    · omega
    · have hlt := h.fresh id sk hclient
      omega
  · intro bucket id
    simp only [World.accept, Function.update_apply]
    by_cases hid : id = w.next
    · subst hid
      rw [if_pos rfl]
      have hnot := h.not_mem_next
      split
      · rename_i hbucket
        exact iff_of_true List.mem_cons_self ⟨_, rfl, hbucket.symm⟩
      · rename_i hbucket
        apply iff_of_false (hnot bucket)
        rintro ⟨sk, hsk, hmin⟩
        cases hsk
        exact hbucket hmin.symm
    · rw [if_neg hid, ← h.mem_iff]
      split
      · rename_i hbucket
        simp [hid, hbucket]
      · exact Iff.rfl
  · intro bucket
    simp only [World.accept, Function.update_apply]
    split
    · exact List.nodup_cons.mpr ⟨h.not_mem_next _, h.nodup _⟩
    · exact h.nodup bucket

/-- A closed client is no longer linked. -/
theorem sk_close_eq (h : sk_close w id = .ok w') : ∃ sk work_list, w.clients id = some sk ∧
    w' = { w with
      clients := Function.update w.clients id none
      sk_hash := fun bucket => (w.sk_hash bucket).erase id
      sk_list := w.sk_list.erase id
      work_list } := by
  unfold sk_close at h
  cases hclient : w.clients id with
  | none => simp [hclient] at h
  | some sk =>
    rw [hclient] at h
    obtain ⟨work_list, -, h⟩ := Except.bind_eq_ok_iff.mp h
    cases h
    exact ⟨sk, work_list, rfl, rfl⟩

/-- A client which is taken out of memory and of all chains leaves the others linked. -/
theorem World.Linked.removed (h : w.Linked) (id : Nat) (sk_list work_list : List Nat) :
    World.Linked { w with
      clients := Function.update w.clients id none
      sk_hash := fun bucket => (w.sk_hash bucket).erase id
      sk_list
      work_list } := by
  constructor
  · intro id' sk' hclient
    simp only [Function.update_apply] at hclient ⊢
    split at hclient
    · cases hclient
    · exact h.fresh id' sk' hclient
  · intro bucket id'
    simp only [Function.update_apply, (h.nodup bucket).mem_erase_iff, h.mem_iff]
    by_cases hid : id' = id
    · simp [hid]
    · simp [hid]
  · intro bucket
    exact (h.nodup bucket).erase id

theorem World.Linked.sk_close (h : w.Linked) (hclose : sk_close w id = .ok w') : w'.Linked := by
  obtain ⟨sk, work_list, -, rfl⟩ := sk_close_eq hclose
  exact h.removed id _ work_list

/-- The walk along a chain of open clients ends, and finds a client with the hash if
    the chain has one. -/
theorem hash_for_each_possible_ends {clients : Nat → Option Sk} {chain : List Nat} (hash : UInt64)
    (hopen : ∀ id ∈ chain, ∃ sk, clients id = some sk) :
    ∃ found, hash_for_each_possible clients hash chain = .ok found ∧
      (found = none → ∀ id ∈ chain, ∀ sk, clients id = some sk → sk.hash ≠ hash) := by
  induction chain with
  | nil => exact ⟨none, rfl, by simp⟩
  | cons first chain ih =>
    obtain ⟨sk, hfirst⟩ := hopen first List.mem_cons_self
    unfold hash_for_each_possible
    simp only [hfirst]
    by_cases heq : sk.hash = hash
    · rw [if_pos heq]
      exact ⟨_, rfl, by simp⟩
    · rw [if_neg heq]
      obtain ⟨found, hfound, hnone⟩ := ih fun id hid => hopen id (List.mem_cons_of_mem _ hid)
      refine ⟨found, hfound, fun hf id hid sk' hid' => ?_⟩
      obtain rfl | hid := List.mem_cons.mp hid
      · rw [hfirst] at hid'
        cases hid'
        exact heq
      · exact hnone hf id hid sk' hid'

end Linked

section Refinement

variable {w w' : World} {r : Registered}

/-- The world's table refines the registered hashes. -/
structure Refines (w : World) (r : Registered) : Prop where
  linked : w.Linked
  hashes : ∀ id, r.hashes id = (w.clients id).map Sk.hash
  next : r.next = w.next

theorem Refines.init : Refines World.init Registered.empty :=
  ⟨World.linked_init, fun _ => rfl, rfl⟩

theorem Refines.accept (h : Refines w r) (a : Accepted) : Refines (w.accept a) (r.after (.sk_accept a)) := by
  refine ⟨h.linked.accept a, fun id => ?_, by simp [Registered.after, World.accept, h.next]⟩
  simp only [Registered.after, World.accept, Function.update_apply, h.next]
  split
  · rfl
  · exact h.hashes id

theorem Refines.sk_close {id : Nat} (h : Refines w r) (hclose : wsd.sk_close w id = .ok w') :
    Refines w' (r.after (.sk_close id)) := by
  have hlinked := h.linked.sk_close hclose
  obtain ⟨sk, work_list, -, rfl⟩ := sk_close_eq hclose
  refine ⟨hlinked, fun id' => ?_, h.next⟩
  simp only [Registered.after, Function.update_apply]
  split
  · rfl
  · exact h.hashes id'

/-- A call of a history goes through, unless it links a client behind the table. -/
theorem Refines.table_call {call : TableCall} (h : Refines w r) (hwork : w.work_list = [])
    (hclose : ∀ id, call = .sk_close id → r.hashes id ≠ none)
    (hnear : ∀ a, call = .sk_accept a → hash_min (hash a.src_addr a.tv_nsec) < HASH_SIZE) :
    ∃ w', w.table_call call = .ok w' ∧ Refines w' (r.after call) ∧ w'.work_list = [] := by
  cases call with
  | sk_accept a =>
    refine ⟨w.accept a, ?_, h.accept a, hwork⟩
    rw [World.table_call, sk_accept_of_near w (hnear a rfl)]
    rfl
  | sk_close id =>
    obtain ⟨sk, hclient⟩ : ∃ sk, w.clients id = some sk := by
      have hopen := hclose id rfl
      rw [h.hashes] at hopen
      cases hclient : w.clients id with
      | none => exact absurd (by rw [hclient]; rfl) hopen
      | some sk => exact ⟨sk, rfl⟩
    obtain ⟨w', hcall⟩ : ∃ w', wsd.sk_close w id = .ok w' := by
      unfold wsd.sk_close
      rw [hclient, hwork]
      exact ⟨_, rfl⟩
    refine ⟨w', hcall, h.sk_close hcall, ?_⟩
    unfold wsd.sk_close at hcall
    rw [hclient, hwork] at hcall
    cases hcall
    rfl

theorem Refines.table_calls {calls : List TableCall} (h : Refines w r) (hwork : w.work_list = [])
    (hcalls : r.Allows calls) (hnear : ∀ a, .sk_accept a ∈ calls → hash_min (hash a.src_addr a.tv_nsec) < HASH_SIZE) :
    ∃ w', w.table_calls calls = .ok w' ∧ Refines w' (calls.foldl Registered.after r) := by
  induction calls generalizing w r with
  | nil => exact ⟨w, rfl, h⟩
  | cons call calls ih =>
    obtain ⟨hclose, hcalls⟩ := hcalls
    obtain ⟨w1, hcall, h1, hwork1⟩ := h.table_call hwork hclose fun a ha => hnear a (by rw [ha]; exact List.mem_cons_self)
    obtain ⟨w', hrun, h'⟩ := ih h1 hwork1 hcalls fun a ha => hnear a (List.mem_cons_of_mem _ ha)
    refine ⟨w', ?_, h'⟩
    rw [World.table_calls, hcall]
    exact hrun

/-- The lookup finds an open client with the hash, or there is none. -/
def Finds (w : World) (r : Registered) (hash : UInt64) : Prop :=
  ∃ found, hash_lookup w.clients w.sk_hash hash = .ok found ∧
    (∀ id sk, found = some (id, sk) → sk.hash = hash ∧ r.hashes id = some hash) ∧
    (found = none ↔ ∀ id, r.hashes id ≠ some hash)

theorem Refines.finds (h : Refines w r) {hash : UInt64} (hnear : hash_min hash < HASH_SIZE) : Finds w r hash := by
  have hopen : ∀ id ∈ w.sk_hash (hash_min hash), ∃ sk, w.clients id = some sk := by
    intro id hid
    obtain ⟨sk, hclient, -⟩ := (h.linked.mem_iff _ id).mp hid
    exact ⟨sk, hclient⟩
  obtain ⟨found, hlookup, hnone⟩ := hash_for_each_possible_ends hash hopen
  rw [← hash_lookup_of_near hnear] at hlookup
  have hsome (id : Nat) (sk : Sk) (hf : found = some (id, sk)) : sk.hash = hash ∧ r.hashes id = some hash := by
    rw [hf] at hlookup
    obtain ⟨-, hclient, heq⟩ := hash_lookup_found hlookup
    exact ⟨heq, by rw [h.hashes, hclient, Option.map_some, heq]⟩
  refine ⟨found, hlookup, hsome, fun hf id hid => ?_, fun hall => ?_⟩
  · rw [h.hashes, Option.map_eq_some_iff] at hid
    obtain ⟨sk, hclient, heq⟩ := hid
    have hmem := (h.linked.mem_iff (hash_min hash) id).mpr ⟨sk, hclient, by rw [heq]⟩
    exact hnone hf id hmem sk hclient heq
  · match found, hsome with
    | none, _ => rfl
    | some (id, sk), hsome => exact absurd (hsome id sk rfl).2 (hall id)

end Refinement

/-- The last number of the dotted address. -/
def SockaddrIn.last (saddr : SockaddrIn) : Nat :=
  saddr.sin_addr.toNat >>> 24

/-- The address, the port and the low bits of the clock stand side by side in the hash. -/
theorem toNat_hash (saddr : SockaddrIn) (tv_nsec : Nat) :
    (hash saddr tv_nsec).toNat =
      saddr.sin_addr.toNat * 4294967296 + saddr.sin_port.toNat * 65536 + tv_nsec % 65536 := by
  have haddr := saddr.sin_addr.toNat_lt
  have hport := saddr.sin_port.toNat_lt
  have hclock : (UInt64.ofNat tv_nsec &&& (0x00000000ffff0000 : UInt64) >>> 16).toNat = tv_nsec % 65536 := by
    rw [UInt64.toNat_and, UInt64.toNat_ofNat']
    exact (Nat.and_two_pow_sub_one_eq_mod _ 16).trans (Nat.mod_mod_of_dvd tv_nsec (by decide))
  have hlow : tv_nsec % 65536 < 2 ^ 16 := Nat.mod_lt _ (by decide)
  have hloaded : (saddr.sin_addr.toUInt64 <<< 16 ||| saddr.sin_port.toUInt64).toNat =
      saddr.sin_addr.toNat * 65536 + saddr.sin_port.toNat := by
    rw [UInt64.toNat_or, UInt64.toNat_shiftLeft, UInt32.toNat_toUInt64, UInt16.toNat_toUInt64]
    change (saddr.sin_addr.toNat <<< 16) % 2 ^ 64 ||| saddr.sin_port.toNat = _
    rw [Nat.mod_eq_of_lt (by rw [Nat.shiftLeft_eq]; omega), ← Nat.shiftLeft_add_eq_or_of_lt hport, Nat.shiftLeft_eq]
  unfold hash
  rw [UInt64.toNat_or, UInt64.toNat_shiftLeft, hloaded, hclock]
  change ((saddr.sin_addr.toNat * 65536 + saddr.sin_port.toNat) <<< 16) % 2 ^ 64 ||| tv_nsec % 65536 = _
  rw [Nat.mod_eq_of_lt (by rw [Nat.shiftLeft_eq]; omega), ← Nat.shiftLeft_add_eq_or_of_lt hlow, Nat.shiftLeft_eq]
  omega

/-- The high bits of a connection's hash are the last number of its address. -/
theorem hash_min_hash (saddr : SockaddrIn) (tv_nsec : Nat) : hash_min (hash saddr tv_nsec) = saddr.last := by
  have haddr := saddr.sin_addr.toNat_lt
  have hport := saddr.sin_port.toNat_lt
  calc hash_min (hash saddr tv_nsec)
      = (hash saddr tv_nsec).toNat / 2 ^ 56 := Nat.shiftRight_eq_div_pow ..
    _ = saddr.sin_addr.toNat / 2 ^ 24 := by
      rw [toNat_hash]
      omega
    _ = saddr.last := (Nat.shiftRight_eq_div_pow ..).symm

/-- The hashes which a history of calls registers, and the key of a lookup behind it,
    have their buckets in the table. -/
def InTable (calls : List TableCall) (saddr : SockaddrIn) (tv_nsec : Nat) : Prop :=
  (∀ a, .sk_accept a ∈ calls → hash_min (hash a.src_addr a.tv_nsec) < HASH_SIZE) ∧
    hash_min (hash saddr tv_nsec) < HASH_SIZE

/-- The history runs through, and a lookup behind it finds an open client with the hash
    or tells that there is none. -/
def Maps (calls : List TableCall) (saddr : SockaddrIn) (tv_nsec : Nat) : Prop :=
  ∃ w, World.init.table_calls calls = .ok w ∧
    Finds w (calls.foldl Registered.after .empty) (hash saddr tv_nsec)

/-- In every history the buckets are in the table and a lookup is right if and only if
    the last numbers of the addresses are less than the size of the table. -/
theorem connection_table_iff {calls : List TableCall} (hcalls : Registered.empty.Allows calls)
    (saddr : SockaddrIn) (tv_nsec : Nat) :
    (InTable calls saddr tv_nsec ∧ Maps calls saddr tv_nsec) ↔
      (∀ a, .sk_accept a ∈ calls → a.src_addr.last < HASH_SIZE) ∧ saddr.last < HASH_SIZE := by
  have hin : InTable calls saddr tv_nsec ↔
      (∀ a, .sk_accept a ∈ calls → a.src_addr.last < HASH_SIZE) ∧ saddr.last < HASH_SIZE := by
    simp only [InTable, hash_min_hash]
  rw [← hin]
  refine ⟨And.left, fun h => ⟨h, ?_⟩⟩
  obtain ⟨w, hrun, hrefines⟩ := Refines.init.table_calls rfl hcalls h.1
  exact ⟨w, hrun, hrefines.finds h.2⟩

namespace Sample

/-- A connection from 10.0.0.5. -/
def near : Accepted where
  fd := 5
  src_addr := { sin_addr := 0x0500000a, sin_port := 7 }
  dst_addr := { sin_addr := 0x0100000a, sin_port := 7 }
  tv_nsec := 0

/-- A connection from 10.0.0.16. -/
def far : Accepted :=
  { near with src_addr := { sin_addr := 0x1000000a, sin_port := 7 } }

end Sample

/-- A client which was accepted, closed and accepted again. -/
theorem connection_table_reconnect :
    InTable [.sk_accept Sample.near, .sk_close 0, .sk_accept Sample.near] Sample.near.src_addr 0 ∧
      Maps [.sk_accept Sample.near, .sk_close 0, .sk_accept Sample.near] Sample.near.src_addr 0 := by
  have hallows : Registered.empty.Allows [.sk_accept Sample.near, .sk_close 0, .sk_accept Sample.near] := by
    refine ⟨by simp, ?_, by simp, trivial⟩
    rintro id hid
    cases hid
    decide
  refine (connection_table_iff hallows Sample.near.src_addr 0).mpr ⟨?_, by decide⟩
  · simp only [List.mem_cons, TableCall.sk_accept.injEq, reduceCtorEq, List.not_mem_nil, or_false, false_or, or_self]
    rintro a rfl
    decide

/-- The first bucket behind the table belongs to an address which ends in 16: linking the
    client there faults. -/
theorem bucket_behind_table :
    ¬ ∀ (calls : List TableCall) (saddr : SockaddrIn) (tv_nsec : Nat),
      Registered.empty.Allows calls → InTable calls saddr tv_nsec ∧ Maps calls saddr tv_nsec := by
  intro h
  obtain ⟨hin, -⟩ := h [.sk_accept Sample.far] Sample.near.src_addr 0 ⟨by simp, trivial⟩
  exact absurd (hin.1 Sample.far List.mem_cons_self) (by decide)

end wsd
