import Wsd.Wschild.Invariant
import Wsd.Wschild.Table

namespace wsd

/-- The address and the port can be told from a hash, whatever the clock was. -/
theorem hash_inj {saddr saddr' : SockaddrIn} {tv_nsec tv_nsec' : Nat} (h : hash saddr tv_nsec = hash saddr' tv_nsec') :
    saddr = saddr' := by
  have hvalue := congrArg UInt64.toNat h
  rw [toNat_hash, toNat_hash] at hvalue
  have hport := saddr.sin_port.toNat_lt
  have hport' := saddr'.sin_port.toNat_lt
  obtain ⟨addr, port⟩ := saddr
  obtain ⟨addr', port'⟩ := saddr'
  have haddr : addr = addr' := UInt32.toNat_inj.mp (by simp only at *; omega)
  have hsame : port = port' := UInt16.toNat_inj.mp (by simp only at *; omega)
  rw [haddr, hsame]

/-- The socket has a hash of its own address, taken at some reading of the clock. -/
def Sk.Hashed (sk : Sk) : Prop :=
  ∃ tv_nsec, sk.hash = wsd.hash sk.src_addr tv_nsec

section Identity

variable {cfg : Config} {ssl : Openssl} {env : Env} {s : State} {id : Nat} {sk sk' : Sk} {pc : Pc}

theorem Sk.Hashed.of_eq (h : sk.Hashed) (hhash : sk'.hash = sk.hash) (haddr : sk'.src_addr = sk.src_addr) :
    sk'.Hashed := by
  obtain ⟨tv_nsec, heq⟩ := h
  exact ⟨tv_nsec, by rw [hhash, haddr, heq]⟩

theorem Written.identity {write : WriteResult} {now : Timespec} (h : Written write now sk sk') :
    sk'.hash = sk.hash ∧ sk'.src_addr = sk.src_addr := by
  cases h <;> exact ⟨rfl, rfl⟩

/-- Hash, address and way of closing are set when a socket is accepted or opened, and kept from then on. -/
theorem SocketStep.identity {o : Option Sk} (h : SocketStep cfg env s pc id o (some sk')) :
    (∃ sk, o = some sk ∧ sk'.hash = sk.hash ∧ sk'.src_addr = sk.src_addr ∧ sk'.ops.close = sk.ops.close) ∨
      sk'.Hashed ∨ sk'.ops.close = some .pp2_close := by
  have hcore {sk sk1 : Sk} (h : sk1.core = sk.core) :
      sk1.hash = sk.hash ∧ sk1.src_addr = sk.src_addr ∧ sk1.ops.close = sk.ops.close :=
    ⟨congrArg Sk.Core.hash h, congrArg Sk.Core.src_addr h, congrArg (fun core => core.ops.close) h⟩
  cases h with
  | same => exact .inl ⟨sk', rfl, rfl, rfl, rfl⟩
  | accepted a events todo hpc => exact .inr (.inl ⟨a.tv_nsec, rfl⟩)
  | opened fd id' todo hpc => exact .inr (.inr rfl)
  | handshakeFailed todo sk _ rv wsd_errno hpc hrecv hfailed =>
    refine .inl ⟨sk, rfl, ?_⟩
    rw [hfailed.sk_eq]
    exact ⟨rfl, rfl, rfl⟩
  | handshakeDone todo sk _ rv hpc hrecv hdone =>
    refine .inl ⟨sk, rfl, ?_⟩
    rw [hdone.sk_eq]
    exact ⟨rfl, rfl, rfl⟩
  | decoded frames todo sk p pp2sk rv c' hpc hclient hup hpp hdecoded hnext =>
    obtain ⟨events, hleave⟩ := ws_recv_leave_sk rv frames c'
    rw [hleave]
    exact .inl ⟨sk, rfl, hcore hdecoded.core.1⟩
  | forwarded id' frames todo sk pp2sk rv c' hpc hclient hpp hdecoded =>
    obtain ⟨events, hleave⟩ := ws_recv_leave_pp2sk rv frames c'
    rw [hleave]
    exact .inl ⟨pp2sk, rfl, hcore hdecoded.core.2⟩
  | demuxed frames todo pp2sk rv m' hpc hpp hdemuxed =>
    obtain ⟨events, hleave⟩ := pp2_recv_leave_sk rv frames m'.pp2sk
    rw [hleave]
    exact .inl ⟨pp2sk, rfl, hcore hdemuxed.core⟩
  | delivered p frames todo pp2sk sk _ rv m' hpc hpp hne hdemuxed hclient hclient' =>
    obtain ⟨cl, hcl, hsame⟩ := hdemuxed.clients_core hclient'
    cases hclient.symm.trans hcl
    exact .inl ⟨sk, rfl, hcore hsame⟩
  | started todo sk sendbuf => exact .inl ⟨sk, rfl, rfl, rfl, rfl⟩
  | pinged todo sk sendbuf => exact .inl ⟨sk, rfl, rfl, rfl, rfl⟩
  | read events todo sk bytes => exact .inl ⟨sk, rfl, rfl, rfl, rfl⟩
  | readFull events todo sk => exact .inl ⟨sk, rfl, rfl, rfl, rfl⟩
  | readFailed events todo sk retries => exact .inl ⟨sk, rfl, rfl, rfl, rfl⟩
  | written events todo sk _ hpc hwritten =>
    obtain ⟨hhash, haddr⟩ := hwritten.identity
    exact .inl ⟨sk, rfl, hhash, haddr, congrArg Ops.close hwritten.kind.1⟩

/-- In every run each open client has a hash of its own address. -/
theorem reach_hashed {P : State → Env → Prop} (h : (daemon cfg ssl).Reach P s) (hclient : s.world.clients id = some sk) :
    sk.Hashed := by
  have hwf := reach_wf h
  refine reach_sockets (I := fun _ _ sk => sk.ops.close = some .sk_close → sk.Hashed) h ?_ id sk
    (hwf.world.get_of_client hclient) (hwf.world.client id sk hclient).1.close_eq
  intro s pc env id sk' _ _ _ hold hstep hclose
  obtain ⟨sk, hget, hhash, haddr, hclose'⟩ | hhashed | hbackend := hstep.identity
  · exact (hold sk hget (hclose'.symm.trans hclose)).of_eq hhash haddr
  · exact hhashed
  · rw [hbackend] at hclose
    cases hclose

end Identity

/-- The comparison in `pp2_decode_frame` holds for the client at an address. -/
def World.Selects (w : World) (hash : UInt64) (id : Nat) : Prop :=
  ∃ sk, w.clients id = some sk ∧ sk.hash = hash

/-- No two open clients have the same source address and port. -/
def World.ApartAddrs (w : World) : Prop :=
  ∀ id id' sk sk', w.clients id = some sk → w.clients id' = some sk' → id ≠ id' → sk.src_addr ≠ sk'.src_addr

/-- Hashes of different addresses or ports differ, and so do those of open clients in every run. Among clients
    with different ones a hash selects at most one, which is the one that a walk along any chain finds. -/
theorem hashes_identify (cfg : Config) (ssl : Openssl) :
    (∀ (saddr saddr' : SockaddrIn) (tv_nsec tv_nsec' : Nat), saddr ≠ saddr' →
      hash saddr tv_nsec ≠ hash saddr' tv_nsec') ∧
    ∀ s, (daemon cfg ssl).Reach (fun _ _ => True) s →
      (∀ id id' sk sk', s.world.clients id = some sk → s.world.clients id' = some sk' → sk.src_addr ≠ sk'.src_addr →
        sk.hash ≠ sk'.hash) ∧
      (s.world.ApartAddrs → ∀ hash id, s.world.Selects hash id →
        (∀ id', s.world.Selects hash id' → id' = id) ∧
        ∀ chain id' sk', hash_for_each_possible s.world.clients hash chain = .ok (some (id', sk')) → id' = id) := by
  refine ⟨fun saddr saddr' _ _ hne h => hne (hash_inj h), fun s hreach => ?_⟩
  have hdiffer (id id' : Nat) (sk sk' : Sk) (hclient : s.world.clients id = some sk)
      (hclient' : s.world.clients id' = some sk') (hne : sk.src_addr ≠ sk'.src_addr) : sk.hash ≠ sk'.hash := by
    obtain ⟨tv_nsec, heq⟩ := reach_hashed hreach hclient
    obtain ⟨tv_nsec', heq'⟩ := reach_hashed hreach hclient'
    rw [heq, heq']
    exact fun h => hne (hash_inj h)
  refine ⟨hdiffer, fun hapart hash id ⟨sk, hclient, heq⟩ => ?_⟩
  have hunique (id' : Nat) (h : s.world.Selects hash id') : id' = id := by
    obtain ⟨sk', hclient', heq'⟩ := h
    by_contra hne
    exact hdiffer id' id sk' sk hclient' hclient (hapart id' id sk' sk hclient' hclient hne) (heq'.trans heq.symm)
  refine ⟨hunique, fun chain id' sk' hlookup => ?_⟩
  obtain ⟨-, hclient', heq'⟩ := hash_for_each_possible_found hlookup
  exact hunique id' ⟨sk', hclient', heq'⟩

namespace Sample

/-- A second client of the same host, at the same reading of the clock. -/
def neighbour : Accepted :=
  { client with fd := 6, src_addr := { client.src_addr with sin_port := 0x32d4 } }

/-- Both clients connect. -/
def twoClients : List Env :=
  iteration 9 2 none EPOLLIN { accepted := some client } ++ iteration 9 3 none EPOLLIN { accepted := some neighbour }

theorem exists_two_clients : ∃ s, (daemon config openssl).Reach (fun _ _ => True) s ∧
    ∃ sk sk', s.world.clients 0 = some sk ∧ s.world.clients 1 = some sk' ∧ sk.src_addr ≠ sk'.src_addr := by
  obtain ⟨s, hreach, ⟨sk, hclient, sk', hclient', hne⟩⟩ :=
    @Transition.System.exists_reach _ _ _ (fun _ _ => True) (daemon config openssl) _ _
      (fun s => ∃ sk ∈ s.world.clients 0, ∃ sk' ∈ s.world.clients 1, sk.src_addr ≠ sk'.src_addr) _ twoClients
      (by decide +kernel)
  exact ⟨s, hreach, sk, sk', hclient, hclient', hne⟩

end Sample

/-- Two clients of one host which connect at the same time. -/
theorem hashes_identify_neighbours :
    hash Sample.client.src_addr 7 ≠ hash Sample.neighbour.src_addr 7 ∧
    ∃ s, (daemon Sample.config Sample.openssl).Reach (fun _ _ => True) s ∧
      ∃ sk sk', s.world.clients 0 = some sk ∧ s.world.clients 1 = some sk' ∧ sk.hash ≠ sk'.hash := by
  obtain ⟨hhash, hrun⟩ := hashes_identify Sample.config Sample.openssl
  obtain ⟨s, hreach, sk, sk', hclient, hclient', hne⟩ := Sample.exists_two_clients
  exact ⟨hhash _ _ 7 7 (by decide), s, hreach, sk, sk', hclient, hclient', (hrun s hreach).1 0 1 sk sk' hclient hclient' hne⟩

end wsd
