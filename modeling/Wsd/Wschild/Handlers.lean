import Wsd.Wschild.Live

namespace wsd

/-- A client which has not finished its handshake is about to be sent a ping, since
    the interval has passed, or a payload, since the backend has addressed one to it. -/
inductive State.Early (cfg : Config) (s : State) : Prop
  | ping (id : Nat) (todo : List Nat) (sk : Sk) (hpc : s.pc = .check_timeouts (id :: todo))
      (hget : s.world.get id = some sk) (hhttp : sk.ops.recv = some .http_recv)
      (hping : check_timeout sk s.now cfg.ping_interval = true)
      (hidle : ¬ (cfg.idle_timeout ≠ -1 ∧ check_timeout sk s.now cfg.idle_timeout = true))
  | payload (p frames : Nat) (todo : List Nat) (pp2sk : Sk) (hash : UInt64) (len : Nat) (rest : List UInt8)
      (id : Nat) (sk : Sk) (hpc : s.pc = .pp2_recv p frames todo) (hpp : s.world.pp2sk = some (p, pp2sk))
      (haccepted : Pp2Accepted pp2sk.recvbuf.readable hash len rest) (hlen : len ≤ rest.length)
      (hlookup : hash_lookup s.world.clients s.world.sk_hash hash = .ok (some (id, sk)))
      (hhttp : sk.ops.recv = some .http_recv)

section Handlers

variable {cfg : Config} {ssl : Openssl} {env : Env} {s : State} {sk : Sk}

/-- A client without a handler for frames is in its HTTP phase. -/
theorem IsClient.http_of_encode (h : IsClient sk) (hencode : sk.proto.encode_frame = none) :
    sk.ops.recv = some .http_recv := by
  obtain ⟨ops, -⟩ | ⟨-, proto⟩ := h
  · rw [ops]
  · rw [proto] at hencode
    cases hencode

theorem World.Wf.http_of_ping {w : World} {id : Nat} (hwf : w.Wf) (hget : w.get id = some sk)
    (hping : sk.proto.ping = none) : sk.ops.recv = some .http_recv := by
  obtain ⟨-, hkind⟩ | ⟨-, ⟨ops, -⟩ | ⟨-, proto⟩, -⟩ := hwf.get_cases hget
  · rw [hkind.proto] at hping
    cases hping
  · rw [ops]
  · rw [proto] at hping
    cases hping

/-- A state of a run calls a missing handler in one of the two ways only. -/
theorem State.Wf.early (hwf : s.Wf) (h : step cfg ssl env s = .error .null_function) : s.Early cfg := by
  have hfaulted := step_watched hwf h (by decide)
  generalize hfault : Fault.null_function = fault at hfaulted
  cases hfaulted with
  | forbidden id frames todo sk fault hpc hclient hforbidden =>
    subst hfault
    cases hforbidden
  | unready p frames todo pp2sk hpc hpp hunready =>
    obtain ⟨hash, len, rest, id, sk, haccepted, hlen, hlookup, hencode⟩ := hunready
    obtain ⟨-, hclient, -⟩ := hash_lookup_found hlookup
    exact .payload p frames todo pp2sk hash len rest id sk hpc hpp haccepted hlen hlookup
      ((hwf.world.client id sk hclient).1.http_of_encode hencode)
  | ping id todo sk hpc hget hproto hping hidle =>
    exact .ping id todo sk hpc hget (hwf.world.http_of_ping hget hproto) hping hidle
  | _ => cases hfault

/-- As long as neither a ping nor a payload falls due for a client which has not finished its
    handshake, and the backend's socket is not closed while it is linked for `try_recv`, every
    indirect call of a run goes through a handler of an open socket. -/
theorem handlers_installed
    (h : (daemon cfg ssl).Reach (fun s env => ¬ s.Early cfg ∧ ¬ s.ClosesLinked cfg env) s) (hready : ¬ s.Early cfg) :
    step cfg ssl env s ≠ .error .null_function ∧ step cfg ssl env s ≠ .error .use_after_free := by
  have hwf := reach_wf h
  refine ⟨fun hnull => hready (hwf.early hnull), fun hfreed => ?_⟩
  exact step_live hwf (reach_inOrder (h.mono fun _ _ h => h.2)) (reach_eventsOpen h) _ hfreed rfl

namespace Sample

/-- Pings are on, and nothing is closed for being idle. -/
def ping_config : Config :=
  { config with idle_timeout := -1, ping_interval := 1000 }

/-- The backend's socket is not visited while it is linked. -/
def Apart (s : State) : Prop :=
  ∀ pp ∈ s.world.pp2sk, pp.1 ∈ s.world.work_list → s.pc.source ≠ some pp.1 ∧ pp.1 ∉ s.pc.sk_queue

instance (s : State) : Decidable (Apart s) :=
  inferInstanceAs (Decidable (∀ pp ∈ s.world.pp2sk, _ → _))

/-- No client in its HTTP phase is due for a ping, or in the table of a daemon with a backend. -/
def Timely (s : State) : Prop :=
  (∀ id ∈ s.pc.sk_queue, ∀ sk ∈ s.world.get id, sk.ops.recv = some .http_recv →
      check_timeout sk s.now ping_config.ping_interval = false) ∧
    (∀ bucket < HASH_SIZE, ∀ id ∈ s.world.sk_hash bucket, ∀ sk ∈ s.world.clients id, s.world.pp2sk.isSome →
      sk.ops.recv ≠ some .http_recv) ∧ Apart s

instance (s : State) : Decidable (Timely s) :=
  inferInstanceAs (Decidable (_ ∧ _ ∧ _))

theorem Timely.ready (h : Timely s) : ¬ s.Early ping_config ∧ ¬ s.ClosesLinked ping_config env := by
  obtain ⟨hping, hpayload, hlinked⟩ := h
  constructor
  · rintro (⟨id, todo, sk, hpc, hget, hhttp, hdue, -⟩ |
      ⟨p, frames, todo, pp2sk, hash, len, rest, id, sk, -, hpp, -, -, hlookup, hhttp⟩)
    · have hnot := hping id (by rw [hpc]; exact List.mem_cons_self) sk hget hhttp
      rw [hdue] at hnot
      cases hnot
    · obtain ⟨hmem, hclient, -⟩ := hash_lookup_found hlookup
      exact hpayload _ (hash_lookup_near hlookup) id hmem sk hclient (by rw [hpp]; rfl) hhttp
  · rintro ⟨p, sk, hpp, hmem, ⟨events, todo, hpc, -⟩ | ⟨todo, -, hidle, -⟩ | ⟨todo, hpc⟩⟩
    · exact (hlinked (p, sk) hpp hmem).1 (by rw [hpc]; rfl)
    · exact hidle rfl
    · exact (hlinked (p, sk) hpp hmem).2 (by rw [hpc]; exact List.mem_cons_self)

end Sample

/-- The backend's payload has been handed to a client, which is due for a ping. -/
theorem handlers_installed_pinged : ∃ (s : State) (sk : Sk), s.pc = .check_timeouts [0, 1] ∧
    s.world.clients 0 = some sk ∧ sk.sendbuf.readable.drop 182 = [0x81, 0x02, 0x68, 0x69] ∧
    check_timeout sk s.now Sample.ping_config.ping_interval = true ∧
    step Sample.ping_config Sample.openssl {} s ≠ .error .null_function ∧
    step Sample.ping_config Sample.openssl {} s ≠ .error .use_after_free := by
  obtain ⟨s, hreach, htimely, hpc, sk, hclient, hread, hdue⟩ := Transition.System.exists_reach
    (daemon Sample.ping_config Sample.openssl) (P := fun s _ => Sample.Timely s)
    (B := fun s => Sample.Timely s ∧ s.pc = .check_timeouts [0, 1] ∧
      ∃ sk ∈ s.world.clients 0, sk.sendbuf.readable.drop 182 = [0x81, 0x02, 0x68, 0x69] ∧
        check_timeout sk s.now Sample.ping_config.ping_interval = true)
    (Sample.connected Sample.request ++ Sample.iteration 9 4 (some 0) EPOLLIN { read := .ok [0x81, 0x80, 0, 0, 0, 0] } ++
      ([{ clock := { tv_sec := 9, tv_nsec := 0 } }, { opens := [.connected 6] }] ++ List.replicate 6 ({} : Env) ++
        [{ events := some [(some 1, EPOLLIN)] }, { read := .ok (Sample.message [0x68, 0x69]) }, ({} : Env)]) ++
      { clock := { tv_sec := 20, tv_nsec := 0 } } :: List.replicate 4 ({} : Env)) (by decide +kernel)
  exact ⟨s, sk, hpc, hclient, hread, hdue, handlers_installed (hreach.mono fun _ _ => Sample.Timely.ready)
    (@Sample.Timely.ready {} s htimely).1⟩

/-- A client which has sent a part of its request when the ping interval has passed is
    sent a ping through a pointer which is NULL. -/
theorem ping_not_installed : ¬ ∀ (cfg : Config) (ssl : Openssl) (s : State) (env : Env),
    (daemon cfg ssl).Reach (fun _ _ => True) s → env.Valid cfg s → step cfg ssl env s ≠ .error .null_function := by
  intro h
  obtain ⟨s, hreach, hvalid, hnull⟩ := Transition.System.exists_reach
    (daemon { Sample.config with idle_timeout := -1, ping_interval := 1000 } Sample.openssl)
    (P := fun _ _ => True)
    (B := fun s => Env.Valid { Sample.config with idle_timeout := -1, ping_interval := 1000 } s {} ∧
      (daemon { Sample.config with idle_timeout := -1, ping_interval := 1000 } Sample.openssl).failure {} s =
        some .null_function)
    (Sample.connected (ascii "G") ++ (Sample.iteration 20 4 none EPOLLIN {}).take 3) (by decide +kernel)
  exact h _ _ s {} hreach hvalid (Transition.System.failure_eq_some.mp hnull)

end Handlers

end wsd
