import Wsd.Pp2.RoundTrip
import Wsd.Wschild.Interest

namespace wsd

/-- The backend's next payload goes to a client whose free space passes the capacity
    check but is short by a byte or two. -/
def State.Overflows (s : State) : Prop :=
  ∃ p frames todo pp2sk hash len rest id sk, s.pc = .pp2_recv p frames todo ∧ s.world.pp2sk = some (p, pp2sk) ∧
    Pp2Accepted pp2sk.recvbuf.readable hash len rest ∧ len ≤ rest.length ∧
    hash_lookup s.world.clients s.world.sk_hash hash = .ok (some (id, sk)) ∧
    ShortBy len (skb_wrsz sk.sendbuf)

section Room

variable {cfg : Config} {ssl : Openssl} {env : Env} {s : State} {id : Nat} {pc : Pc}

/-- The decoder appends to the client's send buffer only what fits. -/
theorem Decoded.sendbuf_ok {c c' : Conn} {rv : Int} (h : Decoded c rv c') (hok : c.sk.sendbuf.Ok) :
    c'.sk.sendbuf.Ok := by
  cases h with
  | reply f key rest recvbuf sendbuf status hread hclose hclosing hsend => exact (hsend hok).ok hok
  | ping f key rest recvbuf sendbuf hread hping hclosing hok' hrest hpos hsend => exact (hsend hok).ok hok
  | unknown f key rest recvbuf sendbuf hread hunknown hclosing hok' hrest hwr hsend => exact (hsend hok).ok hok
  | _ => exact hok

/-- A frame which is delivered to a client fits unless it overflows. -/
theorem Demuxed.appended {p frames : Nat} {todo : List Nat} {pp2sk sk sk' : Sk} {rv : Int} {m' : Mux}
    (hpc : s.pc = .pp2_recv p frames todo) (hpp : s.world.pp2sk = some (p, pp2sk))
    (h : Demuxed
      { clients := s.world.clients, sk_hash := s.world.sk_hash, pp2sk, wsd_errno := s.world.wsd_errno } rv m')
    (hclient : s.world.clients id = some sk) (hclient' : m'.clients id = some sk') (hroom : ¬ s.Overflows)
    (hok : sk.sendbuf.Ok) :
    sk' = sk ∨ ∃ hash len rest sendbuf events, Pp2Accepted pp2sk.recvbuf.readable hash len rest ∧ len ≤ rest.length ∧
      hash_lookup s.world.clients s.world.sk_hash hash = .ok (some (id, sk)) ∧
      frameLen len ≤ skb_wrsz sk.sendbuf ∧ sk.sendbuf.Appended (wsFrame (rest.take len)) sendbuf ∧
      sk' = { sk with sendbuf, events } := by
  obtain rfl | ⟨-, hash, len, rest, sendbuf, haccepted, hlen, hlookup, -, hcheck, hsend, rfl⟩ :=
    h.client_cases hclient hclient'
  · exact Or.inl rfl
  · have hfits : (wsFrame (rest.take len)).length ≤ skb_wrsz sk.sendbuf := by
      by_contra hover
      have hshort := shortBy_iff (rest.take len) (skb_wrsz sk.sendbuf)
      rw [List.length_take, Nat.min_eq_left hlen] at hshort
      exact hroom ⟨p, frames, todo, pp2sk, hash, len, rest, id, sk, hpc, hpp, haccepted, hlen, hlookup,
        hshort.mpr ⟨hcheck, Nat.not_le.mp hover⟩⟩
    exact Or.inr ⟨hash, len, rest, sendbuf, _, haccepted, hlen, hlookup, hcheck, hsend hok hfits, rfl⟩

theorem SocketStep.sendbuf_ok (hwf : s.Wf) (hvalid : env.Valid cfg s) (hroom : ¬ s.Overflows)
    (hold : ∀ sk, s.world.get id = some sk → sk.sendbuf.Ok) {o' : Option Sk} {sk' : Sk}
    (h : SocketStep cfg env s pc id (s.world.get id) o') (hsk' : o' = some sk') : sk'.sendbuf.Ok := by
  generalize hget : s.world.get id = o at h
  cases h with
  | same => exact hold sk' (hget.trans hsk')
  | accepted a events todo hpc =>
    cases hsk'
    exact Skb.ok_zero
  | opened fd id' todo hpc =>
    cases hsk'
    exact Skb.ok_zero
  | handshakeFailed todo sk sk1 rv wsd_errno hpc hrecv hfailed =>
    cases hsk'
    exact hfailed.sendbuf_ok (hold sk hget)
  | handshakeDone todo sk sk1 rv hpc hrecv hdone =>
    cases hsk'
    exact hdone.sendbuf_ok (hold sk hget)
  | decoded frames todo sk p pp2sk rv c' hpc hclient hup hpp hdecoded hnext =>
    cases hsk'
    obtain ⟨events, hleave⟩ := ws_recv_leave_sk rv frames c'
    rw [hleave]
    exact hdecoded.sendbuf_ok (hold sk hget)
  | forwarded id' frames todo sk pp2sk rv c' hpc hclient hpp hdecoded =>
    cases hsk'
    obtain ⟨events, hleave⟩ := ws_recv_leave_pp2sk rv frames c'
    rw [hleave]
    exact hdecoded.backend_ok (hwf.bounded.backend id pp2sk hpp)
  | demuxed frames todo pp2sk rv m' hpc hpp hdemuxed =>
    cases hsk'
    obtain ⟨events, hleave⟩ := pp2_recv_leave_sk rv frames m'.pp2sk
    rw [hleave]
    change m'.pp2sk.sendbuf.Ok
    rw [hdemuxed.backend_sendbuf]
    exact hwf.bounded.backend id pp2sk hpp
  | delivered p frames todo pp2sk sk sk1 rv m' hpc hpp hne hdemuxed hclient hclient' =>
    cases hsk'
    have hok := hold sk hget
    obtain rfl | ⟨hash, len, rest, sendbuf, events, -, -, -, -, happended, rfl⟩ :=
      hdemuxed.appended hpc hpp hclient hclient' hroom hok
    · exact hok
    · exact happended.ok hok
  | started todo sk sendbuf hpc hquiet hproto hsend =>
    cases hsk'
    have hok := hold sk hget
    exact (hsend hok).ok hok
  | pinged todo sk sendbuf hpc hquiet hproto hsend =>
    cases hsk'
    have hok := hold sk hget
    exact (hsend hok).ok hok
  | read events todo sk bytes hpc hflag hclose hread hne hfree =>
    cases hsk'
    exact hold sk hget
  | readFull events todo sk hpc hflag hclose hfull =>
    cases hsk'
    exact hold sk hget
  | readFailed events todo sk retries hpc hflag hclose =>
    cases hsk'
    exact hold sk hget
  | written events todo sk sk1 hpc hwritten hclose hdrained =>
    cases hsk'
    exact hwritten.sendbuf_ok (hvalid.2.2.2.2 id (by rw [hpc]; rfl) sk hget).2 (hold sk hget)
  | gone => cases hsk'

/-- The send buffers of every state of a run without an overflow are in order. -/
theorem reach_sendbuf (h : (daemon cfg ssl).Reach (fun s _ => ¬ s.Overflows) s) {sk : Sk}
    (hget : s.world.get id = some sk) : sk.sendbuf.Ok :=
  reach_sockets (I := fun _ _ sk => sk.sendbuf.Ok) h
    (fun _ _ _ _ _ hwf hvalid hroom hold hsocket => hsocket.sendbuf_ok hwf hvalid hroom hold rfl) id sk hget

/-- The positions of a buffer are in order, and neither of its sizes wraps. -/
structure Skb.InOrder (b : Skb) : Prop where
  ok : b.Ok
  rdsz_eq : skb_rdsz b = b.wrpos - b.rdpos
  wrsz_eq : skb_wrsz b = SKB_SIZE - b.wrpos

theorem Skb.Ok.inOrder {b : Skb} (h : b.Ok) : b.InOrder :=
  ⟨h, h.rdsz_eq, h.wrsz_eq⟩

/-- What a delivery does to the client's send buffer: the frame is appended whole. -/
theorem SocketStep.delivery {s' : State} {p frames : Nat} {todo : List Nat} {sk sk' : Sk} (hwf : s.Wf)
    (hroom : ¬ s.Overflows) (hpc : s.pc = .pp2_recv p frames todo) (hclient : s.world.clients id = some sk)
    (hok : sk.sendbuf.Ok)
    (h : SocketStep cfg env s s'.pc id (some sk) (some sk')) :
    sk'.sendbuf = sk.sendbuf ∨ ∃ payload, sk.sendbuf.Appended (wsFrame payload) sk'.sendbuf := by
  cases h with
  | same => exact Or.inl rfl
  | delivered p frames todo pp2sk sk sk1 rv m' hpc' hpp hne hdemuxed hclient' hclient1 =>
    obtain rfl | ⟨hash, len, rest, sendbuf, events, -, -, -, -, happended, rfl⟩ :=
      hdemuxed.appended hpc' hpp hclient' hclient1 hroom hok
    · exact Or.inl rfl
    · exact Or.inr ⟨_, happended⟩
  | demuxed frames todo pp2sk rv m' hpc' hpp =>
    have hnone := (hwf.world.backend id _ hpp).2.2
    rw [hclient] at hnone
    cases hnone
  | forwarded id' frames todo sk pp2sk rv c' hpc' hclient' hpp =>
    have hnone := (hwf.world.backend id _ hpp).2.2
    rw [hclient] at hnone
    cases hnone
  | handshakeFailed todo sk sk1 rv wsd_errno hpc' =>
    rw [hpc] at hpc'
    cases hpc'
  | handshakeDone todo sk sk1 rv hpc' =>
    rw [hpc] at hpc'
    cases hpc'
  | decoded frames todo sk p pp2sk rv c' hpc' =>
    rw [hpc] at hpc'
    cases hpc'
  | started todo sk sendbuf hpc' =>
    rw [hpc] at hpc'
    cases hpc'
  | pinged todo sk sendbuf hpc' =>
    rw [hpc] at hpc'
    cases hpc'
  | read events todo sk bytes hpc' =>
    rw [hpc] at hpc'
    cases hpc'
  | readFull events todo sk hpc' =>
    rw [hpc] at hpc'
    cases hpc'
  | readFailed events todo sk retries hpc' =>
    rw [hpc] at hpc'
    cases hpc'
  | written events todo sk sk1 hpc' =>
    rw [hpc] at hpc'
    cases hpc'

/-- As long as no payload goes to a client whose free space is short by a byte or two,
    the buffers of all sockets are in order, and every frame which is delivered fits. -/
theorem buffers_in_order (h : (daemon cfg ssl).Reach (fun s _ => ¬ s.Overflows) s) :
    (∀ id sk, s.world.get id = some sk → sk.recvbuf.InOrder ∧ sk.sendbuf.InOrder) ∧
    ∀ env s' id sk sk' p frames todo, ¬ s.Overflows → env.Valid cfg s → step cfg ssl env s = .ok s' →
      s.pc = .pp2_recv p frames todo → s.world.clients id = some sk → s'.world.clients id = some sk' →
      sk'.sendbuf = sk.sendbuf ∨ ∃ payload, sk.sendbuf.Appended (wsFrame payload) sk'.sendbuf := by
  have hwf := reach_wf h
  refine ⟨fun id sk hget => ⟨(hwf.bounded.socket hwf.world hget).recvbuf.inOrder, (reach_sendbuf h hget).inOrder⟩, ?_⟩
  intro env s' id sk sk' p frames todo hroom hvalid hstep hpc hclient hclient'
  have hstepped := step_inv hwf hstep
  have hget := hwf.world.get_of_client hclient
  have hsocket := hstepped.socket hwf id
  rw [hget, (hstepped.world_wf hwf).get_of_client hclient'] at hsocket
  exact hsocket.delivery hwf hroom hpc hclient (reach_sendbuf h hget)

/-- The response to the handshake is in a client's send buffer. -/
theorem buffers_in_order_upgraded : ∃ (s : State) (sk : Sk), s.world.get 0 = some sk ∧ skb_rdsz sk.sendbuf = 182 ∧
    sk.recvbuf.InOrder ∧ sk.sendbuf.InOrder := by
  obtain ⟨s, hreach, sk, hget, hsize⟩ := Transition.System.exists_reach
    (daemon Sample.config Sample.openssl) (P := fun s _ => s.world.pp2sk.isNone = true)
    (B := fun s => ∃ sk ∈ s.world.get 0, skb_rdsz sk.sendbuf = 182)
    (Sample.connected Sample.request ++ (Sample.iteration 9 4 none EPOLLIN {}).take 3) (by decide +kernel)
  refine ⟨s, sk, hget, hsize, (buffers_in_order (hreach.mono ?_)).1 0 sk hget⟩
  rintro s _ hnone ⟨p, frames, todo, pp2sk, hash, len, rest, id, sk, -, hpp, -⟩
  rw [hpp] at hnone
  cases hnone

end Room

section Overflow

variable {cfg : Config} {ssl : Openssl} {env : Env} {s : State} {id : Nat} {sk : Sk}

theorem post_read_empty {w : World} (hget : w.get id = some sk) (hlist : w.work_list = []) :
    post_read w id = .ok { w with work_list := [id] } := by
  unfold post_read
  simp [World.deref_of_get hget, hlist, has_fd]

/-- A read event which delivers bytes links the socket for `try_recv`. -/
theorem step_read (cfg : Config) (ssl : Openssl) (env : Env) {events : EpollEvents}
    {todo : List (Option Nat × EpollEvents)} {bytes : List UInt8}
    (hpc : s.pc = .on_event ((some id, events) :: todo)) (hget : s.world.get id = some sk) (hin : events.EPOLLIN = true)
    (hquiet : sk.Quiet) (hfd : 0 ≤ sk.fd) (hroom : skb_wrsz sk.recvbuf ≠ 0) (hread : env.read = .ok bytes)
    (hne : bytes ≠ []) (hlist : s.world.work_list = []) :
    step cfg ssl env s = .ok { s with
      world := { s.world.set id { sk with recvbuf := skb_put sk.recvbuf bytes, ts_last_io := s.now } with
        wsd_errno := s.world.wsd_errno
        work_list := [id] }
      pc := .on_event todo } := by
  obtain ⟨-, hclose, hflag⟩ := hquiet
  cases bytes with
  | nil => exact absurd rfl hne
  | cons byte bytes =>
    have hsk : sk_read env.read sk s.world.wsd_errno =
        .ok (0, { sk with recvbuf := skb_put sk.recvbuf (byte :: bytes) }, s.world.wsd_errno) := by
      unfold sk_read
      simp [hfd, hroom, hread, skb_put]
    have hpost := post_read_empty (w := { s.world.set id
        { sk with recvbuf := skb_put sk.recvbuf (byte :: bytes), ts_last_io := s.now } with
        wsd_errno := s.world.wsd_errno }) (World.get_set_self s.world id _) (by simpa using hlist)
    have hflag' : (!sk.close_on_write) = true := by rw [hflag]; rfl
    have hclose' : (!sk.close) = true := by rw [hclose]; rfl
    unfold step
    rw [hpc]
    simp only [on_epoll_event, World.deref_of_get hget, Except.ok_bind, hfd, decide_true, assert_true, hin, true_or,
      if_true, on_read, hflag', hclose', hsk, Int.reduceLT, false_and, if_false, hpost]
    rw [if_neg (by rw [hclose]; decide)]
    rfl

/-- In an event's step the environment may deliver bytes for which there is room. -/
theorem valid_read {events : EpollEvents} {todo : List (Option Nat × EpollEvents)} {bytes : List UInt8}
    (hpc : s.pc = .on_event ((some id, events) :: todo)) (hget : s.world.get id = some sk)
    (hlen : bytes.length ≤ skb_wrsz sk.recvbuf) : Env.Valid cfg s { read := .ok bytes } := by
  refine ⟨fun h => ?_, fun _ h => (by cases h), fun _ h => (by cases h), fun h => ?_, ?_⟩
  · rw [hpc] at h
    cases h
  · rw [hpc] at h
    cases h
  · intro j hj sk' hsk'
    rw [hpc] at hj
    cases hj
    rw [hget] at hsk'
    cases hsk'
    exact ⟨hlen, Nat.zero_le _⟩

/-- A payload for which the free space is short is put all the same, over the end of
    the client's send buffer. -/
theorem step_overflow (cfg : Config) (ssl : Openssl) (env : Env) {p frames : Nat} {todo : List Nat} {pp2sk : Sk} {hash : UInt64} {len : Nat} {rest : List UInt8}
    (hwf : s.Wf) (hpc : s.pc = .pp2_recv p frames todo) (hpp : s.world.pp2sk = some (p, pp2sk))
    (haccepted : Pp2Accepted pp2sk.recvbuf.readable hash len rest) (hne : rest ≠ []) (hlen : len ≤ rest.length)
    (hlookup : hash_lookup s.world.clients s.world.sk_hash hash = .ok (some (id, sk)))
    (hencode : sk.proto.encode_frame = some .ws_encode_frame) (hok : sk.sendbuf.Ok)
    (hshort : ShortBy len (skb_wrsz sk.sendbuf)) (hheader : 1 + (payloadLenBytes len).length ≤ skb_wrsz sk.sendbuf) :
    ∃ s' sk', step cfg ssl env s = .ok s' ∧ s'.world.get id = some sk' ∧ SKB_SIZE < sk'.sendbuf.wrpos := by
  have hkind := (hwf.world.backend p pp2sk hpp).1
  have hrecv := (hwf.bounded.socket hwf.world (World.get_backend hpp)).recvbuf
  obtain ⟨hrest, hread⟩ := haccepted.readable_rd_forward hrecv
  have hleft : len ≤ skb_rdsz (skb_rd_forward pp2sk.recvbuf PP2_HEADER_LEN) := by
    rwa [← hrest.length_readable_eq, hread]
  have htake : (rest.take len).length = len := by
    rw [List.length_take, Nat.min_eq_left hlen]
  have hiff := shortBy_iff (rest.take len) (skb_wrsz sk.sendbuf)
  rw [htake] at hiff
  obtain ⟨hpass, hover⟩ := hiff.mp hshort
  have hdecode := pp2_decode_frame_accepted
    (m := { clients := s.world.clients, sk_hash := s.world.sk_hash, pp2sk, wsd_errno := s.world.wsd_errno })
    hrecv haccepted hne
  rw [if_neg (by omega), pp2_decode_payload_put hrest hleft hlookup hencode hok hpass hheader, hread] at hdecode
  obtain ⟨m', hdecoded, hclients⟩ : ∃ m', pp2_decode_frame
      { clients := s.world.clients, sk_hash := s.world.sk_hash, pp2sk, wsd_errno := s.world.wsd_errno } = .ok (0, m') ∧
      m'.clients = Function.update s.world.clients id (some { sk with
        sendbuf := skb_put sk.sendbuf (wsFrame (rest.take len))
        events := encodeEvents sk.events pp2sk.events }) := ⟨_, hdecode, rfl⟩
  have hclient := (hash_lookup_found hlookup).2.1
  have hne' : id ≠ p := by
    rintro rfl
    rw [(hwf.world.backend id pp2sk hpp).2.2] at hclient
    cases hclient
  refine ⟨{ s with world := s.world.setMux m', pc := .pp2_recv p (frames + 1) todo }, _, ?_,
    by
    rw [World.get_setMux_update hpp hclients, Function.update_of_ne hne', Function.update_self], ?_⟩
  · unfold step
    rw [hpc]
    simp [pp2_recv_step, decode_frame, World.deref_of_get (World.get_backend hpp), hkind.proto, World.mux, hpp, hdecoded]
  · have hwr := hok.wrpos_le
    have hrdsz := hrest.rdsz_le
    have hform := (LenForm.shortest len).extLen_le
    have hsize := length_wsFrame (rest.take len)
    rw [htake] at hsize
    change SKB_SIZE < u32 (sk.sendbuf.wrpos + (wsFrame (rest.take len)).length)
    rw [hok.wrsz_eq] at hover
    rw [u32_of_lt]
    · omega
    · unfold SKB_SIZE at hwr hrdsz
      omega

/-- A payload which leaves one byte too little after the response to the handshake. -/
def Sample.largePayload : List UInt8 :=
  List.replicate 1048385 0x68

theorem Sample.length_largePayload : Sample.largePayload.length = 1048385 :=
  List.length_replicate

/-- The whole message fits into the backend's receive buffer. -/
theorem Sample.length_message : (Sample.message Sample.largePayload).length = 1048431 := by
  rw [Sample.message, List.length_append, length_pp2Header, Sample.length_largePayload]
  rfl

/-- A step which needs nothing from the environment. -/
theorem valid_default (hsource : s.pc.source = none) (hiter : s.pc ≠ .iteration) (hwait : s.pc ≠ .epoll_wait) :
    Env.Valid cfg s {} := by
  refine ⟨fun h => absurd h hiter, fun _ h => (by cases h), fun _ h => (by cases h), fun h => absurd h hwait, ?_⟩
  intro j hj
  rw [hsource] at hj
  cases hj

/-- The backend's socket is read and its receive handler entered. -/
theorem reach_pp2_recv {P : State → Env → Prop} {events : EpollEvents} {bytes : List UInt8} {p : Nat} {pp2sk : Sk} (hP : ∀ s env, P s env)
    (h : (daemon cfg ssl).Reach P s) (hpc : s.pc = .on_event [(some p, events)]) (hnow : s.now.Normal)
    (hlist : s.world.work_list = []) (hpp : s.world.pp2sk = some (p, pp2sk)) (hin : events.EPOLLIN = true)
    (hfd : 0 ≤ pp2sk.fd) (hlen : bytes.length ≤ skb_wrsz pp2sk.recvbuf) (hne : bytes ≠ []) :
    (daemon cfg ssl).Reach P { s with
      world := { s.world with
        pp2sk := some (p, { pp2sk with recvbuf := skb_put pp2sk.recvbuf bytes, ts_last_io := s.now })
        work_list := [p] }
      pc := .pp2_recv p 0 [] } := by
  have hwf := reach_wf h
  have hget := World.get_backend hpp
  have hok := hwf.bounded.socket hwf.world hget
  have hpos := List.length_pos_iff.mpr hne
  have hread := step_read cfg ssl { read := .ok bytes } hpc hget hin (hwf.quiet p pp2sk hpp)
    hfd (by omega) rfl hne hlist
  rw [World.set_backend hpp] at hread
  have h1 := h.step (valid_read hpc hget hlen) (hP _ _) hread
  generalize hw : ({ s.world with
    pp2sk := some (p, { pp2sk with recvbuf := skb_put pp2sk.recvbuf bytes, ts_last_io := s.now })
    work_list := [p] } : World) = w
  change (daemon cfg ssl).Reach P { s with
    world := { s.world with
      pp2sk := some (p, { pp2sk with recvbuf := skb_put pp2sk.recvbuf bytes, ts_last_io := s.now })
      work_list := [p] }
    pc := .on_event [] } at h1
  rw [hw] at h1
  have h2 : (daemon cfg ssl).Reach P { s with world := w, pc := .iteration } :=
    h1.step (i := {}) (valid_default rfl (by simp) (by simp)) (hP _ _) rfl
  have h3 : (daemon cfg ssl).Reach P { s with world := w, pc := .try_recv [p] } := by
    refine h2.step (i := { clock := s.now }) ?_ (hP _ _) ?_
    · exact ⟨fun _ => ⟨Int.le_refl _, hnow⟩, fun _ h => (by cases h), fun _ h => (by cases h), fun h => (by cases h),
        fun _ h => (by cases h)⟩
    · rw [← hw]
      rfl
  refine h3.step (i := {}) (valid_default rfl (by simp) (by simp)) (hP _ _) ?_
  have hput : skb_rdsz (skb_put pp2sk.recvbuf bytes) ≠ 0 := by
    rw [← (hok.recvbuf.put hlen).length_readable_eq, hok.recvbuf.readable_put hlen, List.length_append]
    omega
  have hderef : w.deref p = .ok { pp2sk with recvbuf := skb_put pp2sk.recvbuf bytes, ts_last_io := s.now } := by
    rw [← hw]
    exact World.deref_of_get (World.get_backend rfl)
  have hisSome : w.pp2sk.isSome = true := by
    rw [← hw]
    rfl
  change step cfg ssl {} { s with world := w, pc := .try_recv [p] } = _
  simp only [step, recv_step, hderef, Except.ok_bind, (hwf.world.backend p pp2sk hpp).1.ops, pp2_recv_enter, hput,
    hisSome, ne_eq, not_false_eq_true, decide_true, assert_true, Except.pure_eq_ok]

/-- A payload of 1048385 bytes behind the response to the handshake. -/
theorem delivery_overflows : ¬ ∀ (cfg : Config) (ssl : Openssl) (s : State) (id : Nat) (sk : Sk),
    (daemon cfg ssl).Reach (fun _ _ => True) s → s.world.get id = some sk → sk.recvbuf.InOrder ∧ sk.sendbuf.InOrder := by
  intro h
  obtain ⟨s, hreach, hpc, hnow, hlist, ⟨p, pp2sk⟩, hpp, hp, hzero, hquiet, hfd, sk, hclient, hsend, hhash, hencode, hchain⟩ :=
    Transition.System.exists_reach (daemon Sample.config Sample.openssl) (P := fun _ _ => True)
    (B := fun s => s.pc = .on_event [(some 1, EPOLLIN)] ∧ s.now = { tv_sec := 9, tv_nsec := 0 } ∧
      s.world.work_list = [] ∧ ∃ pp ∈ s.world.pp2sk, pp.1 = 1 ∧ (pp.2.recvbuf.rdpos = 0 ∧ pp.2.recvbuf.wrpos = 0) ∧
      (pp.2.closing = false ∧ pp.2.close = false ∧ pp.2.close_on_write = false) ∧ 0 ≤ pp.2.fd ∧
      ∃ sk ∈ s.world.clients 0, (sk.sendbuf.rdpos = 0 ∧ sk.sendbuf.wrpos = 182) ∧
        sk.hash = hash Sample.client.src_addr Sample.client.tv_nsec ∧ sk.proto.encode_frame = some .ws_encode_frame ∧
        s.world.sk_hash (hash_min (hash Sample.client.src_addr Sample.client.tv_nsec)) = [0])
    (Sample.connected Sample.request ++ Sample.iteration 9 4 (some 0) EPOLLIN { read := .ok [0x81, 0x80, 0, 0, 0, 0] } ++
      ([{ clock := { tv_sec := 9, tv_nsec := 0 } }, { opens := [.connected 6] }] ++ List.replicate 6 ({} : Env) ++
        [{ events := some [(some 1, EPOLLIN)] }])) (by decide +kernel)
  simp only at hp hzero hfd
  subst hp
  have hok : pp2sk.recvbuf.Ok := ⟨by omega, by rw [hzero.2]; exact Nat.zero_le _⟩
  have hread : pp2sk.recvbuf.readable = [] := by
    rw [Skb.readable, hzero.1, hzero.2, Nat.sub_self, Memory.window_zero]
  have hwrsz : skb_wrsz pp2sk.recvbuf = SKB_SIZE := by rw [hok.wrsz_eq, hzero.2, Nat.sub_zero]
  have hfit : (Sample.message Sample.largePayload).length ≤ skb_wrsz pp2sk.recvbuf := by
    rw [Sample.length_message, hwrsz]
    decide
  have hreach' := reach_pp2_recv (fun _ _ => trivial) hreach hpc (by rw [hnow]; decide) hlist hpp rfl hfd hfit
    (List.ne_nil_of_length_pos (by rw [Sample.length_message]; decide))
  have haccepted : Pp2Accepted (skb_put pp2sk.recvbuf (Sample.message Sample.largePayload)).readable
      (hash Sample.client.src_addr Sample.client.tv_nsec) 1048385 Sample.largePayload := by
    rw [hok.readable_put hfit, hread, List.nil_append]
    have hframe := @pp2Frame_accepted { sk_init 0 (hash Sample.client.src_addr Sample.client.tv_nsec) with
      src_addr := Sample.client.src_addr, dst_addr := Sample.client.dst_addr } Sample.largePayload []
      (by decide) (by rw [Sample.length_largePayload]; decide)
    rw [List.append_nil, List.append_nil, Sample.length_largePayload] at hframe
    rw [Sample.message]
    exact hframe
  have hlookup : hash_lookup s.world.clients s.world.sk_hash (hash Sample.client.src_addr Sample.client.tv_nsec) =
      .ok (some (0, sk)) := by
    have hclient' : s.world.clients 0 = some sk := hclient
    rw [hash_lookup_of_near (by decide), hchain]
    simp only [hash_for_each_possible, hclient', if_pos hhash]
  have hsendok : sk.sendbuf.Ok := ⟨by omega, by rw [hsend.2]; decide⟩
  have hfree : skb_wrsz sk.sendbuf = 1048394 := by rw [hsendok.wrsz_eq, hsend.2]; rfl
  obtain ⟨s', sk', hstep, hget, hover⟩ := step_overflow Sample.config Sample.openssl {}
      (reach_wf hreach') rfl rfl haccepted (List.ne_nil_of_length_pos (by rw [Sample.length_largePayload]; decide))
      (Nat.le_of_eq Sample.length_largePayload.symm) hlookup hencode hsendok
      (by rw [hfree]; decide) (by rw [hfree]; decide)
  have hreach1 := hreach'.step (valid_default rfl (by simp) (by simp)) trivial hstep
  have hwr := ((h _ _ s' 0 sk' hreach1 hget).2.ok).wrpos_le
  omega

end Overflow

end wsd
