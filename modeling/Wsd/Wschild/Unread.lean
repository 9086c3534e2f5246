import Wsd.Wschild.Fault
import Wsd.Wschild.Interest

namespace wsd

/-- Whether the closing of a socket has been decided. -/
def Sk.Decided (sk : Sk) : Prop :=
  sk.close = true ∨ sk.close_on_write = true

instance (sk : Sk) : Decidable sk.Decided :=
  inferInstanceAs (Decidable (_ ∨ _))

/-- The backend's next payload goes to a client whose closing has been decided, while
    the backend's own reading is switched off. -/
def State.Reenables (s : State) : Prop :=
  ∃ p frames todo pp2sk hash len rest id sk, s.pc = .pp2_recv p frames todo ∧ s.world.pp2sk = some (p, pp2sk) ∧
    pp2sk.events.EPOLLIN = false ∧ Pp2Accepted pp2sk.recvbuf.readable hash len rest ∧ len ≤ rest.length ∧
    hash_lookup s.world.clients s.world.sk_hash hash = .ok (some (id, sk)) ∧ sk.Decided ∧
    frameLen len ≤ skb_wrsz sk.sendbuf

/-- Urgent data are reported for a socket whose closing has been decided. -/
def Env.Urgent (env : Env) (s : State) : Prop :=
  s.pc = .epoll_wait ∧ ∃ events ∈ env.events, ∃ id ev sk, (some id, ev) ∈ events ∧ s.world.get id = some sk ∧
    sk.Decided ∧ ev.EPOLLPRI = true

/-- A socket whose closing has been decided is not read, unless `ws_recv` is working
    on it and will see to that. -/
def Sk.Unread (pc : Pc) (id : Nat) (sk : Sk) : Prop :=
  sk.Decided → sk.events.EPOLLIN = false ∨ pc.receiver = some id

/-- No event which is still to be handled makes a socket be read whose closing has been
    decided. -/
def State.EventsUnread (s : State) : Prop :=
  ∀ todo id ev sk, s.pc = .on_event todo → (some id, ev) ∈ todo → s.world.get id = some sk → sk.Decided →
    ev.EPOLLIN = false ∧ ev.EPOLLPRI = false

section Unread

variable {cfg : Config} {ssl : Openssl} {env : Env} {s s' : State} {id : Nat} {pc : Pc}

theorem encodeEvents_in {events pp2events : EpollEvents} (hpp : pp2events.EPOLLIN = true) :
    (encodeEvents events pp2events).EPOLLIN = events.EPOLLIN := by
  simp only [encodeEvents, EpollEvents.union, EPOLLIN, EPOLLOUT, hpp]
  split_ifs <;> simp_all

theorem SocketStep.unread (hwf : s.Wf) (hreenables : ¬ s.Reenables)
    (hold : ∀ sk, s.world.get id = some sk → Sk.Unread s.pc id sk) {o' : Option Sk} {sk' : Sk}
    (h : SocketStep cfg env s pc id (s.world.get id) o') (hsk' : o' = some sk') : Sk.Unread pc id sk' := by
  intro hdecided
  generalize hget : s.world.get id = o at h
  have hkept {sk : Sk} (hsk : o = some sk) (hpc : s.pc.receiver ≠ some id) (hset : sk.Decided) :
      sk.events.EPOLLIN = false := by
    obtain hin | hreceiver := hold sk (hget.trans hsk) hset
    · exact hin
    · exact absurd hreceiver hpc
  cases h with
  | same _ hpc => exact Or.inl (hkept hsk' hpc hdecided)
  | accepted a events todo hpc =>
    cases hsk'
    simp [Sk.Decided, sk_init] at hdecided
  | opened fd id' todo hpc =>
    cases hsk'
    simp [Sk.Decided, sk_init] at hdecided
  | handshakeFailed todo sk sk1 rv wsd_errno hpc hrecv hfailed =>
    cases hsk'
    rw [hfailed.events_eq]
    cases hset : sk'.close_on_write with
    | true => exact Or.inl (by simp [EpollEvents.union, EpollEvents.diff, EPOLLIN, EPOLLOUT])
    | false =>
      have hclose : sk'.close = sk.close := by rw [hfailed.sk_eq]
      simp only [Sk.Decided, hset, hclose] at hdecided
      exact Or.inl (hkept rfl (by simp [hpc, Pc.receiver]) (Or.inl (by simpa using hdecided)))
  | handshakeDone todo sk sk1 rv hpc hrecv hdone =>
    cases hsk'
    have hset : sk.Decided := by
      rw [hdone.sk_eq] at hdecided
      exact hdecided
    rw [hdone.events_eq]
    left
    simpa [EpollEvents.union, EPOLLOUT] using hkept rfl (by simp [hpc, Pc.receiver]) hset
  | decoded frames todo sk p pp2sk rv c' hpc hclient hup hpp hdecoded hnext =>
    cases hsk'
    by_cases hrv : rv = 0
    · rw [if_pos hrv] at hnext
      rw [hnext]
      exact Or.inr rfl
    · simp only [if_neg hrv] at hdecided ⊢
      refine Or.inl (ws_recv_leave_in ?_)
      obtain ⟨events, pp2events, hleave⟩ := ws_recv_leave_eq frames c'
      rwa [hleave] at hdecided
  | forwarded id' frames todo sk pp2sk rv c' hpc hclient hpp hdecoded =>
    cases hsk'
    obtain ⟨events, hleave⟩ := ws_recv_leave_pp2sk rv frames c'
    rw [hleave, hdecoded.backend_flags] at hdecided
    simp [Sk.Decided, (hwf.quiet id pp2sk hpp).2.1, (hwf.quiet id pp2sk hpp).2.2] at hdecided
  | demuxed frames todo pp2sk rv m' hpc hpp hdemuxed =>
    cases hsk'
    obtain ⟨events, hleave⟩ := pp2_recv_leave_sk rv frames m'.pp2sk
    rw [hleave, hdemuxed.backend_flags] at hdecided
    simp [Sk.Decided, (hwf.quiet id pp2sk hpp).2.1, (hwf.quiet id pp2sk hpp).2.2] at hdecided
  | delivered p frames todo pp2sk sk sk1 rv m' hpc hpp hne hdemuxed hclient hclient' =>
    cases hsk'
    left
    obtain rfl | ⟨-, hash, len, rest, sendbuf, haccepted, hlen, hlookup, -, hcheck, -, rfl⟩ :=
      hdemuxed.client_cases hclient hclient'
    · exact hkept rfl (by simp [hpc, Pc.receiver]) hdecided
    · cases hin : pp2sk.events.EPOLLIN with
      | true =>
        rw [encodeEvents_in hin]
        exact @hkept sk rfl (by simp [hpc, Pc.receiver]) hdecided
      | false =>
        exact absurd ⟨p, frames, todo, pp2sk, hash, len, rest, id, sk, hpc, hpp, hin, haccepted, hlen, hlookup,
          hdecided, hcheck⟩ hreenables
  | started todo sk sendbuf hpc hquiet hproto hsend =>
    cases hsk'
    obtain ⟨-, hclose, hclose_on_write⟩ := hquiet
    simp [Sk.Decided, hclose, hclose_on_write] at hdecided
  | pinged todo sk sendbuf hpc hquiet hproto hsend =>
    cases hsk'
    obtain ⟨-, hclose, hclose_on_write⟩ := hquiet
    simp [Sk.Decided, hclose, hclose_on_write] at hdecided
  | read events todo sk bytes hpc hclose_on_write hclose hread hne hroom =>
    cases hsk'
    simp [Sk.Decided, hclose_on_write, hclose] at hdecided
  | readFull events todo sk hpc hclose_on_write hclose hroom =>
    cases hsk'
    simp [Sk.Decided, turn_off_events, hclose_on_write, hclose] at hdecided
  | readFailed events todo sk retries hpc hclose_on_write hclose =>
    cases hsk'
    simp [Sk.Decided, hclose_on_write, hclose] at hdecided
  | written events todo sk sk1 hpc hwritten hclose hdrained =>
    cases hsk'
    have hset : sk.Decided := by
      rwa [Sk.Decided, hwritten.flags.1, hwritten.flags.2.1] at hdecided
    have hin := hkept rfl (by simp [hpc, Pc.receiver]) hset
    left
    cases hwritten with
    | none => simpa [turn_off_events, EpollEvents.diff, EPOLLOUT] using hin
    | failed => exact hin
    | some => exact hin
  | gone => cases hsk'

/-- While events are handled no socket's closing is decided. -/
theorem SocketStep.decided_on_event {todo : List (Option Nat × EpollEvents)} {o o' : Option Sk} {sk' : Sk}
    (hpc : s.pc = .on_event todo) (h : SocketStep cfg env s pc id o o') (hsk' : o' = some sk')
    (hdecided : sk'.Decided) : ∃ sk, o = some sk ∧ sk.Decided := by
  cases h with
  | same => exact ⟨sk', hsk', hdecided⟩
  | accepted a events todo hpc' =>
    cases hsk'
    simp [Sk.Decided, sk_init] at hdecided
  | read events todo sk bytes hpc' hclose_on_write hclose =>
    cases hsk'
    exact ⟨sk, rfl, hdecided⟩
  | readFull events todo sk hpc' hclose_on_write hclose =>
    cases hsk'
    exact ⟨sk, rfl, hdecided⟩
  | readFailed events todo sk retries hpc' hclose_on_write hclose =>
    cases hsk'
    exact ⟨sk, rfl, hdecided⟩
  | written events todo sk sk1 hpc' hwritten =>
    cases hsk'
    exact ⟨sk, rfl, by rwa [Sk.Decided, hwritten.flags.1, hwritten.flags.2.1] at hdecided⟩
  | gone => cases hsk'
  | opened fd id' todo hpc' =>
    rw [hpc] at hpc'
    cases hpc'
  | handshakeFailed todo sk sk1 rv wsd_errno hpc' =>
    rw [hpc] at hpc'
    cases hpc'
  | handshakeDone todo sk sk1 rv hpc' =>
    rw [hpc] at hpc'
    cases hpc'
  | decoded frames todo sk p pp2sk rv c' hpc' =>
    rw [hpc] at hpc'
    cases hpc'
  | forwarded id' frames todo sk pp2sk rv c' hpc' =>
    rw [hpc] at hpc'
    cases hpc'
  | demuxed frames todo pp2sk rv m' hpc' =>
    rw [hpc] at hpc'
    cases hpc'
  | delivered p frames todo pp2sk sk sk1 rv m' hpc' =>
    rw [hpc] at hpc'
    cases hpc'
  | started todo sk sendbuf hpc' =>
    rw [hpc] at hpc'
    cases hpc'
  | pinged todo sk sendbuf hpc' =>
    rw [hpc] at hpc'
    cases hpc'

/-- An event reports reading only if the socket's interest set has it. -/
theorem eventOf_in {w : World} {ev : EpollEvents} {sk : Sk} (h : EventOf w (some id, ev)) (hget : w.get id = some sk)
    (hin : sk.events.EPOLLIN = false) : ev.EPOLLIN = false := by
  obtain ⟨sk', hsk', -, hdiff⟩ := h id rfl
  rw [hget] at hsk'
  cases hsk'
  have hbit := congrArg EpollEvents.EPOLLIN hdiff
  simpa [EpollEvents.diff, EpollEvents.union, hin] using hbit

theorem Stepped.eventsUnread (hwf : s.Wf) (hvalid : env.Valid cfg s) (hurgent : ¬ env.Urgent s)
    (hsockets : ∀ id sk, s.world.get id = some sk → Sk.Unread s.pc id sk) (hold : s.EventsUnread)
    (h : Stepped cfg ssl env s s') : s'.EventsUnread := by
  intro todo id ev sk' hpc' hmem hget' hdecided
  have hsocket := h.socket hwf id
  rw [hget'] at hsocket
  have hrest {first : Option Nat × EpollEvents} {rest : List (Option Nat × EpollEvents)}
      (hpc : s.pc = .on_event (first :: rest)) (hmem : (some id, ev) ∈ rest) :
      ev.EPOLLIN = false ∧ ev.EPOLLPRI = false := by
    obtain ⟨sk, hget, hset⟩ := hsocket.decided_on_event hpc rfl hdecided
    exact hold (first :: rest) id ev sk hpc (List.mem_cons_of_mem _ hmem) hget hset
  cases h with
  | waited events hpc hevents =>
    cases hpc'
    have hin : sk'.events.EPOLLIN = false := by
      obtain hin | hreceiver := hsockets id sk' hget' hdecided
      · exact hin
      · rw [hpc] at hreceiver
        cases hreceiver
    have hof := (hvalid.2.2.2.1 hpc todo hevents).2.2 (some id, ev) hmem
    refine ⟨eventOf_in hof hget' hin, ?_⟩
    cases hpri : ev.EPOLLPRI with
    | false => rfl
    | true => exact absurd ⟨hpc, todo, hevents, id, ev, sk', hmem, hget', hdecided, hpri⟩ hurgent
  | accepted a events rest hpc haccepted =>
    cases hpc'
    exact hrest hpc hmem
  | on_event id' events rest sk world hpc hget hevent =>
    cases hpc'
    exact hrest hpc hmem
  | try_recv id' rest sk world pc hpc hget hrecv =>
    cases hpc'
    cases hrecv
  | ws_recv id' frames rest sk p pp2sk world pc hpc hclient hup hpp hrecv =>
    cases hpc'
    cases hrecv
  | pp2_recv id' frames rest sk world pc hpc hpp hrecv =>
    cases hpc'
    cases hrecv
  | exit hpc =>
    rw [hpc] at hpc'
    cases hpc'
  | _ => cases hpc'

theorem reach_unread (h : (daemon cfg ssl).Reach (fun s env => ¬ s.Reenables ∧ ¬ env.Urgent s) s) :
    (∀ id sk, s.world.get id = some sk → Sk.Unread s.pc id sk) ∧ s.EventsUnread := by
  refine reach_invariant (I := fun s => (∀ id sk, s.world.get id = some sk → Sk.Unread s.pc id sk) ∧ s.EventsUnread)
    h ?_ ?_
  · constructor
    · intro id sk hget
      cases hget
    · intro todo id ev sk hpc
      cases hpc
  · intro s s' env hwf hI hvalid hP hstepped
    refine ⟨fun id sk' hget' => ?_, hstepped.eventsUnread hwf hvalid hP.2 hI.1 hI.2⟩
    have hsocket := hstepped.socket hwf id
    rw [hget'] at hsocket
    exact hsocket.unread hwf hP.1 (hI.1 id) rfl

/-- As long as no payload is delivered which switches reading on again, and no urgent
    data are reported, for a socket whose closing has been decided, `on_read` is not
    entered on such a socket. -/
theorem decided_sockets_unread
    (h : (daemon cfg ssl).Reach (fun s env => ¬ s.Reenables ∧ ¬ env.Urgent s) s) :
    (∀ id ev todo sk, s.pc = .on_event ((some id, ev) :: todo) → s.world.get id = some sk → sk.Decided →
      ¬ (ev.EPOLLIN = true ∨ ev.EPOLLPRI = true)) ∧
    ∀ env, step cfg ssl env s ≠ .error (.assertion .on_read_close_on_write) ∧
      step cfg ssl env s ≠ .error (.assertion .on_read_close) := by
  have hevents := (reach_unread h).2
  have hnone (id : Nat) (ev : EpollEvents) (todo : List (Option Nat × EpollEvents)) (sk : Sk)
      (hpc : s.pc = .on_event ((some id, ev) :: todo)) (hget : s.world.get id = some sk) (hdecided : sk.Decided) :
      ¬ (ev.EPOLLIN = true ∨ ev.EPOLLPRI = true) := by
    obtain ⟨hin, hpri⟩ := hevents _ id ev sk hpc List.mem_cons_self hget hdecided
    simp [hin, hpri]
  refine ⟨hnone, fun env => ⟨fun hfault => ?_, fun hfault => ?_⟩⟩
  · have hfaulted := step_watched (reach_wf h) hfault (by decide)
    generalize hf : Fault.assertion .on_read_close_on_write = fault at hfaulted
    cases hfaulted with
    | forbidden id frames todo sk fault hpc hclient hforbidden =>
      subst hf
      cases hforbidden
    | close_on_write id events todo sk hpc hget hin hflag =>
      exact hnone id events todo sk hpc hget (Or.inr hflag) hin
    | _ => cases hf
  · have hfaulted := step_watched (reach_wf h) hfault (by decide)
    generalize hf : Fault.assertion .on_read_close = fault at hfaulted
    cases hfaulted with
    | forbidden id frames todo sk fault hpc hclient hforbidden =>
      subst hf
      cases hforbidden
    | close id events todo sk hpc hget hin hflag => exact hnone id events todo sk hpc hget (Or.inl hflag) hin
    | _ => cases hf

/-- A rejected client, whose closing has been decided, is reported writable. -/
theorem decided_sockets_unread_rejected : ∃ (s : State) (ev : EpollEvents) (sk : Sk),
    s.pc = .on_event [(some 0, ev)] ∧ s.world.get 0 = some sk ∧ sk.Decided ∧
    ¬ (ev.EPOLLIN = true ∨ ev.EPOLLPRI = true) := by
  obtain ⟨s, hreach, hpc, sk, hget, hdecided⟩ := Transition.System.exists_reach
    (daemon Sample.config Sample.openssl)
    (P := fun s env => s.world.pp2sk.isNone = true ∧ ∀ events ∈ env.events, ∀ event ∈ events, event.2.EPOLLPRI = false)
    (B := fun s => s.pc = .on_event [(some 0, EPOLLOUT)] ∧ ∃ sk ∈ s.world.get 0, sk.Decided)
    (Sample.connected (ascii "X\r\n\r\n") ++ (Sample.iteration 9 4 (some 0) EPOLLOUT {}).take 6) (by decide +kernel)
  refine ⟨s, EPOLLOUT, sk, hpc, hget, hdecided, (decided_sockets_unread (hreach.mono ?_)).1 0 _ _ sk hpc hget hdecided⟩
  rintro s env ⟨hnone, hpri⟩
  constructor
  · rintro ⟨p, frames, todo, pp2sk, hash, len, rest, id, sk, -, hpp, -⟩
    rw [hpp] at hnone
    cases hnone
  · rintro ⟨-, events, hevents, id, ev, sk, hmem, -, -, hset⟩
    rw [hpri events hevents _ hmem] at hset
    cases hset

/-- EPOLLPRI is never switched off, so that a rejected client which sends urgent data
    ends the process. -/
theorem decided_socket_read : ¬ ∀ (cfg : Config) (ssl : Openssl) (s : State) (env : Env),
    (daemon cfg ssl).Reach (fun _ _ => True) s → env.Valid cfg s →
      step cfg ssl env s ≠ .error (.assertion .on_read_close_on_write) ∧
      step cfg ssl env s ≠ .error (.assertion .on_read_close) := by
  intro h
  obtain ⟨s, hreach, hvalid, hfault⟩ := Transition.System.exists_reach
    (daemon Sample.config Sample.openssl) (P := fun _ _ => True)
    (B := fun s => Env.Valid Sample.config s {} ∧
      (daemon Sample.config Sample.openssl).failure {} s = some (.assertion .on_read_close_on_write))
    (Sample.connected (ascii "X\r\n\r\n") ++ (Sample.iteration 9 4 (some 0) { EPOLLPRI := true } {}).take 6)
    (by decide +kernel)
  exact (h _ _ s {} hreach hvalid).1 (Transition.System.failure_eq_some.mp hfault)

end Unread

end wsd
