import Wsd.Wschild.Interest

namespace wsd

/-- The decoder is about to find the answer to our close frame on a socket which does
    not wait for a write, since its send buffer has been found empty before. -/
def State.AnsweredUnarmed (s : State) : Prop :=
  ∃ id frames todo sk, s.pc = .ws_recv id frames todo ∧ s.world.clients id = some sk ∧
    sk.closing = true ∧ sk.close_on_write = false ∧ sk.events.EPOLLOUT = false ∧
    ∃ (f : Frame) (key : UInt32) (rest : List UInt8),
      sk.recvbuf.readable = f.masked key ++ rest ∧ f.opcode = WS_CLOSE_FRAME

/-- A socket whose closing has been decided waits for its next write, or `ws_recv`
    is working on it and will make it wait. -/
def Sk.Armed (pc : Pc) (id : Nat) (sk : Sk) : Prop :=
  sk.close = true ∨ sk.close_on_write = true →
    sk.events.EPOLLOUT = true ∨ sk.close_on_write = true ∧ pc.receiver = some id

section Armed

variable {cfg : Config} {ssl : Openssl} {env : Env} {s : State} {id : Nat} {pc : Pc}

/-- The decoder keeps EPOLLOUT. -/
theorem Decoded.out {c c' : Conn} {rv : Int} (h : Decoded c rv c') (hout : c.sk.events.EPOLLOUT = true) :
    c'.sk.events.EPOLLOUT = true := by
  cases h with
  | ping => simp [EpollEvents.union, EPOLLOUT]
  | unknown => simp [EpollEvents.union, EPOLLOUT]
  | _ => exact hout

/-- The decoder sets the two flags for close frames only. -/
theorem Decoded.flags {c c' : Conn} {rv : Int} (h : Decoded c rv c') :
    (c'.sk.close = c.sk.close ∧ c'.sk.close_on_write = c.sk.close_on_write) ∨
      (c.sk.closing = true ∧ c'.sk.close_on_write = c.sk.close_on_write ∧ ∃ (f : Frame) (key : UInt32) (rest : List UInt8),
        c.sk.recvbuf.readable = f.masked key ++ rest ∧ f.opcode = WS_CLOSE_FRAME) ∨
      c'.sk.close_on_write = true := by
  cases h with
  | closed f key rest recvbuf hread hclose hclosing => exact Or.inr (Or.inl ⟨hclosing, rfl, f, key, rest, hread, hclose⟩)
  | reply => exact Or.inr (Or.inr rfl)
  | _ => exact Or.inl ⟨rfl, rfl⟩

/-- What the decoder leaves waits for a write, or is about to be made to. -/
theorem Decoded.armed {c c' : Conn} {rv : Int} (h : Decoded c rv c') (hold : Sk.Armed s.pc id c.sk)
    {frames : Nat} {todo : List Nat} (hpc : s.pc = .ws_recv id frames todo) (hclient : s.world.clients id = some c.sk)
    (hanswered : ¬ s.AnsweredUnarmed) (hflag : c'.sk.close = true ∨ c'.sk.close_on_write = true) :
    c'.sk.events.EPOLLOUT = true ∨ c'.sk.close_on_write = true := by
  obtain ⟨hclose, hclose_on_write⟩ | ⟨hclosing, hclose_on_write, hframe⟩ | hclose_on_write := h.flags
  · rw [hclose, hclose_on_write] at hflag
    obtain hout | ⟨hset, -⟩ := hold hflag
    · exact Or.inl (h.out hout)
    · exact Or.inr (hclose_on_write.trans hset)
  · cases hset : c.sk.close_on_write with
    | true => exact Or.inr (hclose_on_write.trans hset)
    | false =>
      cases hout : c.sk.events.EPOLLOUT with
      | true => exact Or.inl (h.out hout)
      | false => exact absurd ⟨id, frames, todo, c.sk, hpc, hclient, hclosing, hset, hout, hframe⟩ hanswered
  · exact Or.inr hclose_on_write

theorem Written.out {write : WriteResult} {now : Timespec} {sk sk' : Sk} (h : Written write now sk sk')
    (hclose : sk'.close = false) (hdrained : sk'.close_on_write = true → skb_rdsz sk'.sendbuf ≠ 0)
    (hflag : sk'.close = true ∨ sk'.close_on_write = true) (hout : sk.events.EPOLLOUT = true) :
    sk'.events.EPOLLOUT = true := by
  cases h with
  | none hzero =>
    obtain hset | hset := hflag
    · rw [hclose] at hset
      cases hset
    · exact absurd hzero (hdrained hset)
  | failed => exact hout
  | some => exact hout

theorem SocketStep.armed (hwf : s.Wf) (hanswered : ¬ s.AnsweredUnarmed)
    (hold : ∀ sk, s.world.get id = some sk → Sk.Armed s.pc id sk) {o' : Option Sk} {sk' : Sk}
    (h : SocketStep cfg env s pc id (s.world.get id) o') (hsk' : o' = some sk') : Sk.Armed pc id sk' := by
  intro hflag
  generalize hget : s.world.get id = o at h
  -- every step but the decoder's on this socket finds it armed by its interest set
  have hkept {sk : Sk} (hsk : o = some sk) (hpc : s.pc.receiver ≠ some id)
      (hset : sk.close = true ∨ sk.close_on_write = true) : sk.events.EPOLLOUT = true := by
    obtain hout | ⟨-, hreceiver⟩ := hold sk (hget.trans hsk) hset
    · exact hout
    · exact absurd hreceiver hpc
  cases h with
  | same _ hpc => exact Or.inl (hkept hsk' hpc hflag)
  | accepted a events todo hpc =>
    cases hsk'
    simp [sk_init] at hflag
  | opened fd id' todo hpc =>
    cases hsk'
    simp [sk_init] at hflag
  | handshakeFailed todo sk sk1 rv wsd_errno hpc hrecv hfailed =>
    cases hsk'
    rw [hfailed.events_eq]
    cases hset : sk'.close_on_write with
    | true => exact Or.inl (by simp [EpollEvents.union, EPOLLOUT])
    | false =>
      have hclose : sk'.close = sk.close := by rw [hfailed.sk_eq]
      rw [hset, hclose] at hflag
      exact Or.inl (hkept rfl (by simp [hpc, Pc.receiver]) (Or.inl (by simpa using hflag)))
  | handshakeDone todo sk sk1 rv hpc hrecv hdone =>
    cases hsk'
    rw [hdone.events_eq]
    exact Or.inl (by simp [EpollEvents.union, EPOLLOUT])
  | decoded frames todo sk p pp2sk rv c' hpc hclient hup hpp hdecoded hnext =>
    cases hsk'
    have harmed := hdecoded.armed (hold sk hget) hpc hclient hanswered
    by_cases hrv : rv = 0
    · simp only [if_pos hrv] at hflag hnext ⊢
      obtain hout | hset := harmed hflag
      · exact Or.inl hout
      · exact Or.inr ⟨hset, by rw [hnext]; rfl⟩
    · simp only [if_neg hrv] at hflag ⊢
      refine Or.inl (ws_recv_leave_out (harmed ?_))
      obtain ⟨events, pp2events, hleave⟩ := ws_recv_leave_eq frames c'
      rwa [hleave] at hflag
  | forwarded id' frames todo sk pp2sk rv c' hpc hclient hpp hdecoded =>
    cases hsk'
    obtain ⟨events, hleave⟩ := ws_recv_leave_pp2sk rv frames c'
    rw [hleave, hdecoded.backend_flags] at hflag
    simp [(hwf.quiet id pp2sk hpp).2.1, (hwf.quiet id pp2sk hpp).2.2] at hflag
  | demuxed frames todo pp2sk rv m' hpc hpp hdemuxed =>
    cases hsk'
    obtain ⟨events, hleave⟩ := pp2_recv_leave_sk rv frames m'.pp2sk
    rw [hleave, hdemuxed.backend_flags] at hflag
    simp [(hwf.quiet id pp2sk hpp).2.1, (hwf.quiet id pp2sk hpp).2.2] at hflag
  | delivered p frames todo pp2sk sk sk1 rv m' hpc hpp hne hdemuxed hclient hclient' =>
    cases hsk'
    obtain rfl | ⟨sendbuf, rfl⟩ := hdemuxed.client_encoded hclient hclient'
    · exact Or.inl (hkept rfl (by simp [hpc, Pc.receiver]) hflag)
    · exact Or.inl (encodeEvents_out _ _)
  | started todo sk sendbuf hpc hquiet hproto hsend =>
    cases hsk'
    exact Or.inl (by simp [EpollEvents.union, EPOLLOUT])
  | pinged todo sk sendbuf hpc hquiet hproto hsend =>
    cases hsk'
    exact Or.inl (by simp [EpollEvents.union, EPOLLOUT])
  | read events todo sk bytes hpc hclose_on_write hclose hread hne hroom =>
    cases hsk'
    simp [hclose_on_write, hclose] at hflag
  | readFull events todo sk hpc hclose_on_write hclose hroom =>
    cases hsk'
    simp [turn_off_events, hclose_on_write, hclose] at hflag
  | readFailed events todo sk retries hpc hclose_on_write hclose =>
    cases hsk'
    simp [hclose_on_write, hclose] at hflag
  | written events todo sk sk1 hpc hwritten hclose hdrained =>
    cases hsk'
    refine Or.inl (hwritten.out hclose hdrained hflag (hkept rfl (by simp [hpc, Pc.receiver]) ?_))
    rwa [hwritten.flags.1, hwritten.flags.2.1] at hflag
  | gone => cases hsk'

/-- When an iteration ends, every client whose closing has been decided waits for a
    write, provided that no answer to our close frame is decoded while EPOLLOUT is off. -/
theorem closing_client_waits_for_write {sk : Sk}
    (h : (daemon cfg ssl).Reach (fun s _ => ¬ s.AnsweredUnarmed) s) (hpc : s.pc = .epoll_wait)
    (hclient : s.world.clients id = some sk) (hflag : sk.close = true ∨ sk.close_on_write = true) :
    sk.events.EPOLLOUT = true := by
  have harmed := reach_sockets (I := Sk.Armed) h
    (fun s pc env id sk' hwf hvalid hanswered hold hsocket => hsocket.armed hwf hanswered hold rfl)
  obtain hout | ⟨-, hreceiver⟩ := harmed id sk ((reach_wf h).world.get_of_client hclient) hflag
  · exact hout
  · rw [hpc] at hreceiver
    cases hreceiver

/-- A client whose request is rejected waits for the write of the response. -/
theorem rejected_client_waits_for_write : ∃ (s : State) (sk : Sk), s.pc = .epoll_wait ∧ s.world.clients 0 = some sk ∧
    sk.close_on_write = true ∧ sk.events.EPOLLOUT = true := by
  obtain ⟨s, hreach, hpc, sk, hclient, hflag⟩ := Transition.System.exists_reach
    (daemon Sample.config Sample.openssl) (P := fun s _ => s.pc.receiver = none)
    (B := fun s => s.pc = .epoll_wait ∧ ∃ sk ∈ s.world.clients 0, sk.close_on_write = true)
    (Sample.connected (ascii "X\r\n\r\n") ++ (Sample.iteration 9 4 none EPOLLIN {}).take 5) (by decide +kernel)
  refine ⟨s, sk, hpc, hclient, hflag, ?_⟩
  refine closing_client_waits_for_write (hreach.mono ?_) hpc hclient (Or.inr hflag)
  rintro s _ hreceiver ⟨id, frames, todo, sk, hpc, -⟩
  rw [hpc] at hreceiver
  cases hreceiver

/-- A client which answers our close frame after its send buffer has been found empty
    is left with neither EPOLLIN nor EPOLLOUT. -/
theorem closing_client_stuck : ¬ ∀ (cfg : Config) (ssl : Openssl) (s : State) (id : Nat) (sk : Sk),
    (daemon cfg ssl).Reach (fun _ _ => True) s → s.pc = .epoll_wait → s.world.clients id = some sk →
      sk.close = true ∨ sk.close_on_write = true → sk.events.EPOLLOUT = true := by
  intro h
  obtain ⟨s, hreach, hpc, sk, hclient, hclose, hout⟩ := Transition.System.exists_reach
    (daemon Sample.config Sample.openssl) (P := fun _ _ => True)
    (B := fun s => s.pc = .epoll_wait ∧ ∃ sk ∈ s.world.clients 0, sk.close = true ∧ sk.events.EPOLLOUT = false)
    (Sample.connected Sample.request ++ Sample.iteration 9 4 (some 0) EPOLLOUT { write := .ok 182 } ++
      Sample.iteration 20 3 (some 0) EPOLLOUT { write := .ok 4 } ++ Sample.iteration 20 3 (some 0) EPOLLOUT {} ++
      Sample.iteration 20 3 (some 0) EPOLLIN { read := .ok [0x88, 0x80, 0, 0, 0, 0] } ++
      [{ clock := { tv_sec := 20, tv_nsec := 0 } }, { opens := [.connected 6] }] ++
      List.replicate 6 ({} : Env)) (by decide +kernel)
  have htrue := h _ _ s 0 sk hreach hpc hclient (Or.inl hclose)
  rw [hout] at htrue
  cases htrue

end Armed

end wsd
