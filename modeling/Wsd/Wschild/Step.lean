import Wsd.Wschild.Inversion

namespace wsd

/-- What holds of every state of a run: sockets have the handlers of their kind,
    the daemon bounds the buffers which it bounds itself, the backend is never being
    closed with a handshake, and a receive loop runs on a socket of its kind. -/
structure State.Wf (s : State) : Prop where
  world : s.world.Wf
  bounded : s.world.Bounded
  quiet : ∀ p sk, s.world.pp2sk = some (p, sk) → sk.Quiet
  ws_recv : ∀ id frames todo, s.pc = .ws_recv id frames todo →
    ∃ sk, s.world.clients id = some sk ∧ Upgraded sk
  pp2_recv : ∀ id frames todo, s.pc = .pp2_recv id frames todo → ∃ sk, s.world.pp2sk = some (id, sk)

/-- What a step of the daemon can do. -/
inductive Stepped (cfg : Config) (ssl : Openssl) (env : Env) (s : State) : State → Prop
  | done (hpc : s.pc = .iteration) (hdone : env.done = true) :
      Stepped cfg ssl env s { s with pc := .shutdown s.world.sk_list }
  | iteration (hpc : s.pc = .iteration) (hdone : env.done = false) :
      Stepped cfg ssl env s { s with now := env.clock, pc := .try_recv s.world.work_list }
  | received (hpc : s.pc = .try_recv []) :
      Stepped cfg ssl env s { s with pc := .check_timeouts s.world.sk_list }
  | try_recv (id : Nat) (todo : List Nat) (sk : Sk) (world : World) (pc : Pc) (hpc : s.pc = .try_recv (id :: todo))
      (hget : s.world.get id = some sk) (hrecv : RecvStep cfg ssl env s.world id sk todo world pc) :
      Stepped cfg ssl env s { s with world, pc }
  | ws_recv (id frames : Nat) (todo : List Nat) (sk : Sk) (p : Nat) (pp2sk : Sk) (world : World) (pc : Pc)
      (hpc : s.pc = .ws_recv id frames todo) (hclient : s.world.clients id = some sk) (hup : Upgraded sk)
      (hpp : s.world.pp2sk = some (p, pp2sk))
      (hrecv : WsRecvStep s.world id frames todo { sk, pp2sk, wsd_errno := s.world.wsd_errno } world pc) :
      Stepped cfg ssl env s { s with world, pc }
  | pp2_recv (id frames : Nat) (todo : List Nat) (sk : Sk) (world : World) (pc : Pc)
      (hpc : s.pc = .pp2_recv id frames todo) (hpp : s.world.pp2sk = some (id, sk))
      (hrecv : Pp2RecvStep s.world id frames todo
        { clients := s.world.clients, sk_hash := s.world.sk_hash, pp2sk := sk, wsd_errno := s.world.wsd_errno }
        world pc) :
      Stepped cfg ssl env s { s with world, pc }
  | checked (hpc : s.pc = .check_timeouts []) : Stepped cfg ssl env s { s with pc := .epoll_wait }
  | check_timeouts (id : Nat) (todo : List Nat) (sk : Sk) (world : World) (hpc : s.pc = .check_timeouts (id :: todo))
      (hget : s.world.get id = some sk) (hcheck : CheckTimeouts cfg s.now s.world id sk world) :
      Stepped cfg ssl env s { s with world, pc := .check_timeouts todo }
  | interrupted (hpc : s.pc = .epoll_wait) (hevents : env.events = none) :
      Stepped cfg ssl env s { s with pc := .iteration }
  | waited (events : List (Option Nat × EpollEvents)) (hpc : s.pc = .epoll_wait)
      (hevents : env.events = some events) : Stepped cfg ssl env s { s with pc := .on_event events }
  | handled (hpc : s.pc = .on_event []) : Stepped cfg ssl env s { s with pc := .iteration }
  | accepted (a : Accepted) (events : EpollEvents) (todo : List (Option Nat × EpollEvents))
      (hpc : s.pc = .on_event ((none, events) :: todo)) (haccepted : env.accepted = some a)
      (hnear : hash_min (hash a.src_addr a.tv_nsec) < HASH_SIZE) :
      Stepped cfg ssl env s { s with world := s.world.accept a, pc := .on_event todo }
  | on_event (id : Nat) (events : EpollEvents) (todo : List (Option Nat × EpollEvents)) (sk : Sk) (world : World)
      (hpc : s.pc = .on_event ((some id, events) :: todo)) (hget : s.world.get id = some sk)
      (hevent : OnEvent cfg env s.now s.world id events sk world) :
      Stepped cfg ssl env s { s with world, pc := .on_event todo }
  | exit (hpc : s.pc = .shutdown []) : Stepped cfg ssl env s s
  | shutdown (id : Nat) (todo : List Nat) (sk : Sk) (world : World) (hpc : s.pc = .shutdown (id :: todo))
      (hget : s.world.get id = some sk) (hclosed : Closed s.world id sk world) :
      Stepped cfg ssl env s { s with world, pc := .shutdown todo }

theorem step_inv {cfg : Config} {ssl : Openssl} {env : Env} {s s' : State} (hwf : s.Wf)
    (h : step cfg ssl env s = .ok s') : Stepped cfg ssl env s s' := by
  unfold step at h
  cases hpc : s.pc with
  | iteration =>
    simp only [hpc] at h
    cases hdone : env.done with
    | true =>
      simp only [hdone, if_true] at h
      cases h
      exact .done hpc hdone
    | false =>
      simp only [hdone, Bool.false_eq_true, if_false] at h
      cases h
      exact .iteration hpc hdone
  | try_recv todo =>
    cases todo with
    | nil =>
      simp only [hpc] at h
      cases h
      exact .received hpc
    | cons id todo =>
      simp only [hpc] at h
      obtain ⟨⟨world, pc⟩, hrecv, hret⟩ := Except.bind_eq_ok_iff.mp h
      cases hret
      obtain ⟨sk, hget, hrecv⟩ := recv_step_inv hwf.world hrecv
      exact .try_recv id todo sk world pc hpc hget hrecv
  | ws_recv id frames todo =>
    simp only [hpc] at h
    obtain ⟨⟨world, pc⟩, hrecv, hret⟩ := Except.bind_eq_ok_iff.mp h
    cases hret
    obtain ⟨sk, hclient, hup⟩ := hwf.ws_recv id frames todo hpc
    obtain ⟨p, pp2sk, hpp, hrecv⟩ := ws_recv_step_inv hwf.world hwf.bounded hclient hup hrecv
    exact .ws_recv id frames todo sk p pp2sk world pc hpc hclient hup hpp hrecv
  | pp2_recv id frames todo =>
    simp only [hpc] at h
    obtain ⟨⟨world, pc⟩, hrecv, hret⟩ := Except.bind_eq_ok_iff.mp h
    cases hret
    obtain ⟨sk, hpp⟩ := hwf.pp2_recv id frames todo hpc
    exact .pp2_recv id frames todo sk world pc hpc hpp (pp2_recv_step_inv hwf.world hwf.bounded hpp hrecv)
  | check_timeouts todo =>
    cases todo with
    | nil =>
      simp only [hpc] at h
      cases h
      exact .checked hpc
    | cons id todo =>
      simp only [hpc] at h
      obtain ⟨world, hcheck, hret⟩ := Except.bind_eq_ok_iff.mp h
      cases hret
      obtain ⟨sk, hget, hcheck⟩ := check_timeouts_inv hwf.world hcheck
      exact .check_timeouts id todo sk world hpc hget hcheck
  | epoll_wait =>
    simp only [hpc] at h
    cases hevents : env.events with
    | none =>
      simp only [hevents] at h
      cases h
      exact .interrupted hpc hevents
    | some events =>
      simp only [hevents] at h
      cases h
      exact .waited events hpc hevents
  | on_event todo =>
    cases todo with
    | nil =>
      simp only [hpc] at h
      cases h
      exact .handled hpc
    | cons event todo =>
      obtain ⟨source, events⟩ := event
      cases source with
      | none =>
        simp only [hpc] at h
        obtain ⟨⟨world, pc⟩, haccept, hret⟩ := Except.bind_eq_ok_iff.mp h
        cases hret
        unfold accept_step at haccept
        cases haccepted : env.accepted with
        | none =>
          rw [haccepted] at haccept
          cases haccept
        | some a =>
          rw [haccepted] at haccept
          obtain ⟨⟨rv, w⟩, hlink, haccept⟩ := Except.bind_eq_ok_iff.mp haccept
          obtain ⟨hnear, rfl, rfl⟩ := sk_accept_inv hlink
          cases haccept
          exact .accepted a events todo hpc haccepted hnear
      | some id =>
        simp only [hpc] at h
        obtain ⟨world, hevent, hret⟩ := Except.bind_eq_ok_iff.mp h
        cases hret
        obtain ⟨sk, hget, hevent⟩ := on_epoll_event_inv hwf.world hevent
        exact .on_event id events todo sk world hpc hget hevent
  | shutdown todo =>
    cases todo with
    | nil =>
      simp only [hpc] at h
      cases h
      exact .exit hpc
    | cons id todo =>
      simp only [hpc] at h
      obtain ⟨world, hclose, hret⟩ := Except.bind_eq_ok_iff.mp h
      cases hret
      obtain ⟨sk, hget, hclosed⟩ := close_inv hwf.world hclose
      exact .shutdown id todo sk world hpc hget hclosed

end wsd
