import Wsd.Transition.History
import Wsd.Ws.Sent
import Wsd.Wschild.Room

namespace wsd

/-- A close frame has been put into the socket's send buffer. -/
def Sk.SentClose (sk : Sk) : Prop :=
  sk.closing = true ∨ sk.close = true

instance (sk : Sk) : Decidable sk.SentClose :=
  inferInstanceAs (Decidable (_ ∨ _))

/-- The backend's next payload goes to a client which has been sent a close frame. -/
def State.FollowsClose (s : State) : Prop :=
  ∃ p frames todo pp2sk hash len rest id sk, s.pc = .pp2_recv p frames todo ∧ s.world.pp2sk = some (p, pp2sk) ∧
    Pp2Accepted pp2sk.recvbuf.readable hash len rest ∧ len ≤ rest.length ∧
    hash_lookup s.world.clients s.world.sk_hash hash = .ok (some (id, sk)) ∧
    frameLen len ≤ skb_wrsz sk.sendbuf ∧ sk.SentClose

/-- The bytes between the write positions before and after a step. -/
def Skb.added (b b' : Skb) : List UInt8 :=
  b'.data.window b.wrpos (b'.wrpos - b.wrpos)

/-- A step adds to the record of a socket what it puts into the send buffer. The record
    starts behind the handshake. -/
def Sk.record : Option Sk → Option Sk → List UInt8 → List UInt8
  | some sk, some sk', sent => if sk.ops.recv = some .ws_recv then sent ++ sk.sendbuf.added sk'.sendbuf else []
  | none, some _, _ => []
  | _, none, sent => sent

/-- The daemon with the record of what each socket has been sent after its handshake. -/
def daemonSent (cfg : Config) (ssl : Openssl) : Transition.System (State × (Nat → List UInt8)) Env Fault :=
  (daemon cfg ssl).history (fun s s' sent id => Sk.record (s.world.get id) (s'.world.get id) (sent id)) fun _ => []

instance (cfg : Config) (ssl : Openssl) (s : State × (Nat → List UInt8)) (env : Env) :
    Decidable ((daemonSent cfg ssl).valid s env) :=
  inferInstanceAs (Decidable (env.Valid cfg s.1))

/-- What a step puts into a socket's send buffer: nothing, or a frame before which no
    close frame has been put. -/
inductive Sends (sk sk' : Sk) : Prop
  | nothing (hwr : sk'.sendbuf.wrpos ≤ sk.sendbuf.wrpos) (hkept : sk.SentClose → sk'.SentClose)
  | frame (f : Frame) (happended : sk.sendbuf.Appended f.unmasked sk'.sendbuf) (hopen : ¬ sk.SentClose)
      (hclose : f.opcode = WS_CLOSE_FRAME → sk'.SentClose)

section Closing

variable {cfg : Config} {ssl : Openssl} {env : Env} {s : State} {id : Nat} {pc : Pc}

theorem Skb.Appended.added {b b' : Skb} {obj : List UInt8} (h : b.Appended obj b') (hok : b.Ok) : b.added b' = obj := by
  unfold Skb.added
  rw [h.eq, hok.put_wrpos h.room, Nat.add_sub_cancel_left]
  exact Memory.window_store_self ..

theorem Skb.added_of_le {b b' : Skb} (h : b'.wrpos ≤ b.wrpos) : b.added b' = [] := by
  unfold Skb.added
  rw [Nat.sub_eq_zero_of_le h, Memory.window_zero]

/-- The decoder finds nothing in an empty buffer. -/
theorem Decoded.of_empty {c c' : Conn} {rv : Int} (h : Decoded c rv c') (hempty : c.sk.recvbuf.readable = []) :
    c'.sk = c.sk := by
  have hframe {f : Frame} {key : UInt32} {rest : List UInt8} (hread : c.sk.recvbuf.readable = f.masked key ++ rest) :
      c'.sk = c.sk := by
    have hlen := congrArg List.length hread
    rw [hempty, List.length_append, Frame.length_masked, List.length_nil] at hlen
    omega
  cases h with
  | input => rfl
  | malformed hbad =>
    obtain ⟨byte1, byte2, rest, hread, -⟩ := hbad
    rw [hempty] at hread
    cases hread
  | keyCut consumed hcut =>
    obtain ⟨byte1, byte2, rest, hread, -⟩ := hcut
    rw [hempty] at hread
    cases hread
  | data f key rest recvbuf hread => exact hframe hread
  | full f key rest recvbuf hread => exact hframe hread
  | closed f key rest recvbuf hread => exact hframe hread
  | reply f key rest recvbuf sendbuf status hread => exact hframe hread
  | noReply f key rest recvbuf hread => exact hframe hread
  | ping f key rest recvbuf sendbuf hread => exact hframe hread
  | pingFull f key rest recvbuf hread => exact hframe hread
  | pong f key rest recvbuf hread => exact hframe hread
  | unknown f key rest recvbuf sendbuf hread => exact hframe hread
  | unknownFull f key rest recvbuf hread => exact hframe hread

/-- What has been received from a socket with both close frames is dropped. -/
def Sk.Drained (sk : Sk) : Prop :=
  sk.close = true → sk.recvbuf.readable = []

theorem Decoded.drained {c c' : Conn} {rv : Int} (h : Decoded c rv c') (hold : c.sk.Drained) : c'.sk.Drained := by
  by_cases hclose : c.sk.close = true
  · rw [h.of_empty (hold hclose)]
    exact hold
  · intro hclose'
    cases h with
    | closed => exact Skb.readable_reset _
    | _ => exact absurd hclose' hclose

theorem SocketStep.drained (hwf : s.Wf) (hold : ∀ sk, s.world.get id = some sk → sk.Drained) {o' : Option Sk}
    {sk' : Sk} (h : SocketStep cfg env s pc id (s.world.get id) o') (hsk' : o' = some sk') : sk'.Drained := by
  intro hset
  generalize hget : s.world.get id = o at h
  cases h with
  | same => exact hold sk' (hget.trans hsk') hset
  | accepted a events todo hpc =>
    cases hsk'
    rfl
  | opened fd id' todo hpc =>
    cases hsk'
    rfl
  | handshakeFailed todo sk sk1 rv wsd_errno hpc hrecv hfailed =>
    cases hsk'
    rw [hfailed.sk_eq]
    exact Skb.readable_reset _
  | handshakeDone todo sk sk1 rv hpc hrecv hdone =>
    cases hsk'
    exact hdone.recvbuf_ok.readable_eq_nil_iff.mpr hdone.rdsz_eq
  | decoded frames todo sk p pp2sk rv c' hpc hclient hup hpp hdecoded hnext =>
    cases hsk'
    obtain ⟨events, hleave⟩ := ws_recv_leave_sk rv frames c'
    rw [hleave] at hset ⊢
    exact hdecoded.drained (hold sk hget) hset
  | forwarded id' frames todo sk pp2sk rv c' hpc hclient hpp hdecoded =>
    cases hsk'
    obtain ⟨events, hleave⟩ := ws_recv_leave_pp2sk rv frames c'
    rw [hleave, hdecoded.backend_flags] at hset
    rw [hleave]
    change c'.pp2sk.recvbuf.readable = []
    rw [hdecoded.backend_recvbuf]
    exact hold pp2sk hget hset
  | demuxed frames todo pp2sk rv m' hpc hpp hdemuxed =>
    cases hsk'
    obtain ⟨events, hleave⟩ := pp2_recv_leave_sk rv frames m'.pp2sk
    rw [hleave, hdemuxed.backend_flags] at hset
    simp [(hwf.quiet id pp2sk hpp).2.1] at hset
  | delivered p frames todo pp2sk sk sk1 rv m' hpc hpp hne hdemuxed hclient hclient' =>
    cases hsk'
    obtain ⟨sendbuf, events, rfl⟩ := hdemuxed.client_eq hclient hclient'
    exact hold sk hget hset
  | started todo sk sendbuf hpc hquiet hproto hsend =>
    cases hsk'
    exact hold sk hget hset
  | pinged todo sk sendbuf hpc hquiet hproto hsend =>
    cases hsk'
    exact hold sk hget hset
  | read events todo sk bytes hpc hflag hclose hread hne hfree =>
    cases hsk'
    rw [hclose] at hset
    cases hset
  | readFull events todo sk hpc hflag hclose hfull =>
    cases hsk'
    exact hold sk hget hset
  | readFailed events todo sk retries hpc hflag hclose =>
    cases hsk'
    exact hold sk hget hset
  | written events todo sk sk1 hpc hwritten hclose hdrained =>
    cases hsk'
    rw [hwritten.recvbuf_eq]
    exact hold sk hget (hwritten.flags.1 ▸ hset)
  | gone => cases hsk'

theorem reach_drained {P : State → Env → Prop} (h : (daemon cfg ssl).Reach P s) {sk : Sk}
    (hget : s.world.get id = some sk) : sk.Drained :=
  reach_sockets (I := fun _ _ sk => sk.Drained) h
    (fun _ _ _ _ _ hwf _ _ hold hsocket => hsocket.drained hwf hold rfl) id sk hget

/-- A write takes bytes from the send buffer and does not add any. -/
theorem Written.wrpos_le {write : WriteResult} {now : Timespec} {sk sk' : Sk} (h : Written write now sk sk')
    (hlen : write.len ≤ skb_rdsz sk.sendbuf) (hok : sk.sendbuf.Ok) : sk'.sendbuf.wrpos ≤ sk.sendbuf.wrpos := by
  cases h with
  | none => exact Nat.le_refl _
  | failed => exact Nat.le_refl _
  | some len hwrite =>
    rw [hwrite] at hlen
    have hwr := (@Skb.Ok.rd_forward _ len hok hlen).wrpos_compact
    change (skb_compact (skb_rd_forward sk.sendbuf len)).wrpos ≤ _
    rw [hwr]
    exact Nat.sub_le _ _

/-- The decoder puts one frame at most, and none behind a close frame. -/
theorem Decoded.sends {c c' : Conn} {rv : Int} (h : Decoded c rv c') (hok : c.sk.sendbuf.Ok)
    (hdrained : c.sk.Drained) : Sends c.sk c'.sk := by
  by_cases hempty : c.sk.recvbuf.readable = []
  · rw [h.of_empty hempty]
    exact .nothing (Nat.le_refl _) id
  have hopen (hclosing : c.sk.closing = false) : ¬ c.sk.SentClose := by
    rintro (hset | hset)
    · rw [hclosing] at hset
      cases hset
    · exact hempty (hdrained hset)
  cases h with
  | reply f key rest recvbuf sendbuf status hread hclose hclosing hsend =>
    obtain ⟨g, -, hbytes, -⟩ := closeFrame_unmasked status
    exact .frame g (hbytes ▸ hsend hok) (hopen hclosing) fun _ => Or.inl rfl
  | ping f key rest recvbuf sendbuf hread hping hclosing hok' hrest hpos hsend =>
    obtain ⟨g, hbytes, hopcode⟩ := pongFrame_unmasked
    exact .frame g (hbytes ▸ hsend hok) (hopen hclosing) fun hclose => absurd (hopcode.symm.trans hclose) (by decide)
  | unknown f key rest recvbuf sendbuf hread hunknown hclosing hok' hrest hwr hsend =>
    obtain ⟨g, -, hbytes, -⟩ := closeFrame_unmasked WS_1011
    exact .frame g (hbytes ▸ hsend hok) (hopen hclosing) fun _ => Or.inl rfl
  | closed => exact .nothing (Nat.le_refl _) fun _ => Or.inr rfl
  | _ => exact .nothing (Nat.le_refl _) id

/-- What a step does to the send buffer of a socket after its handshake. -/
theorem SocketStep.sends {sk sk' : Sk} (hwf : s.Wf) (hvalid : env.Valid cfg s) (hroom : ¬ s.Overflows)
    (hfollows : ¬ s.FollowsClose) (hget : s.world.get id = some sk) (hok : sk.sendbuf.Ok) (hdrained : sk.Drained)
    (hrecv : sk.ops.recv = some .ws_recv) (h : SocketStep cfg env s pc id (some sk) (some sk')) : Sends sk sk' := by
  cases h with
  | same => exact .nothing (Nat.le_refl _) fun hset => hset
  | handshakeFailed todo sk sk1 rv wsd_errno hpc hhttp hfailed =>
    rw [hhttp] at hrecv
    cases hrecv
  | handshakeDone todo sk sk1 rv hpc hhttp hdone =>
    rw [hhttp] at hrecv
    cases hrecv
  | decoded frames todo sk p pp2sk rv c' hpc hclient hup hpp hdecoded hnext =>
    obtain ⟨events, hleave⟩ := ws_recv_leave_sk rv frames c'
    rw [hleave]
    cases hdecoded.sends hok hdrained with
    | nothing hwr hkept => exact .nothing hwr hkept
    | frame f happended hopen hclose => exact .frame f happended hopen hclose
  | forwarded id' frames todo sk pp2sk rv c' hpc hclient hpp hdecoded =>
    have hops := (hwf.world.backend id _ hpp).1.ops
    rw [hops] at hrecv
    cases hrecv
  | demuxed frames todo pp2sk rv m' hpc hpp hdemuxed =>
    have hops := (hwf.world.backend id _ hpp).1.ops
    rw [hops] at hrecv
    cases hrecv
  | delivered p frames todo pp2sk sk sk1 rv m' hpc hpp hne hdemuxed hclient hclient' =>
    obtain rfl | ⟨hash, len, rest, sendbuf, events, haccepted, hlen, hlookup, hcheck, happended, rfl⟩ :=
      hdemuxed.appended hpc hpp hclient hclient' hroom hok
    · exact .nothing (Nat.le_refl _) fun hset => hset
    · have hsize : (rest.take len).length < 18446744073709551616 := by
        have hspace := happended.room
        rw [length_wsFrame, hok.wrsz_eq] at hspace
        unfold SKB_SIZE at hspace
        omega
      obtain ⟨g, hbytes, hopcode⟩ := wsFrame_unmasked hsize
      refine .frame g (hbytes ▸ happended) (fun hset => ?_)
        fun hclose => absurd (hopcode.symm.trans hclose) (by decide)
      exact hfollows ⟨p, frames, todo, pp2sk, hash, len, rest, id, sk, hpc, hpp, haccepted, hlen, hlookup, hcheck, hset⟩
  | started todo sk sendbuf hpc hquiet hproto hsend =>
    obtain ⟨g, -, hbytes, -⟩ := closeFrame_unmasked WS_1000
    refine .frame g (hbytes ▸ hsend hok) ?_ fun _ => Or.inl rfl
    simp [Sk.SentClose, hquiet.1, hquiet.2.1]
  | pinged todo sk sendbuf hpc hquiet hproto hsend =>
    obtain ⟨g, hbytes, hopcode⟩ := pingFrame_unmasked
    refine .frame g (hbytes ▸ hsend hok) ?_ fun hclose => absurd (hopcode.symm.trans hclose) (by decide)
    simp [Sk.SentClose, hquiet.1, hquiet.2.1]
  | read => exact .nothing (Nat.le_refl _) fun hset => hset
  | readFull => exact .nothing (Nat.le_refl _) fun hset => hset
  | readFailed => exact .nothing (Nat.le_refl _) fun hset => hset
  | written events todo sk sk1 hpc hwritten hclose hdrained =>
    have hlen := (hvalid.2.2.2.2 id (by rw [hpc]; rfl) sk hget).2
    refine .nothing (hwritten.wrpos_le hlen hok) ?_
    unfold Sk.SentClose
    rw [hwritten.flags.1, hwritten.flags.2.2]
    exact fun hset => hset

theorem Sk.record_of_upgraded {sk sk' : Sk} {sent : List UInt8} (h : sk.ops.recv = some .ws_recv) :
    Sk.record (some sk) (some sk') sent = sent ++ sk.sendbuf.added sk'.sendbuf :=
  if_pos h

theorem Sk.record_of_not_upgraded {sk sk' : Sk} {sent : List UInt8} (h : ¬ sk.ops.recv = some .ws_recv) :
    Sk.record (some sk) (some sk') sent = [] :=
  if_neg h

/-- What a socket has been sent are frames, and a close frame is among them only if the
    socket's flags say so. -/
def SentFrames (o : Option Sk) (sent : List UInt8) : Prop :=
  ∃ frames : List Frame, sent = Framing.stream Frame.unmasked frames ∧
    (frames.Pairwise fun f _ => f.opcode ≠ WS_CLOSE_FRAME) ∧
    ∀ sk ∈ o, ¬ sk.SentClose → ∀ f ∈ frames, f.opcode ≠ WS_CLOSE_FRAME

theorem sentFrames_nil (o : Option Sk) : SentFrames o [] :=
  ⟨[], rfl, .nil, fun _ _ _ f hf => by cases hf⟩

/-- A step continues the record of a socket by nothing or by one frame. -/
theorem Sends.sentFrames {sk sk' : Sk} {sent : List UInt8} (h : Sends sk sk') (hok : sk.sendbuf.Ok)
    (hsent : SentFrames (some sk) sent) : SentFrames (some sk') (sent ++ sk.sendbuf.added sk'.sendbuf) := by
  obtain ⟨frames, rfl, hlast, hnone⟩ := hsent
  cases h with
  | nothing hwr hkept =>
    rw [Skb.added_of_le hwr, List.append_nil]
    refine ⟨frames, rfl, hlast, ?_⟩
    intro sk1 hsk1 hopen
    cases hsk1
    exact hnone sk rfl fun hset => hopen (hkept hset)
  | frame f happended hopen hclose =>
    have hnone := hnone sk rfl hopen
    refine ⟨frames ++ [f], ?_, pairwise_snoc hlast hnone, ?_⟩
    · rw [happended.added hok]
      simp
    · intro sk1 hsk1 hopen'
      cases hsk1
      rw [List.forall_mem_append]
      refine ⟨hnone, ?_⟩
      rw [List.forall_mem_singleton]
      exact fun hf => hopen' (hclose hf)

theorem reach_sentFrames {sent : Nat → List UInt8}
    (h : (daemonSent cfg ssl).Reach (fun s _ => ¬ s.1.Overflows ∧ ¬ s.1.FollowsClose) (s, sent)) (id : Nat) :
    SentFrames (s.world.get id) (sent id) := by
  refine @Transition.System.Reach.history_invariant _ _ _ _ (daemon cfg ssl) _ _
    (fun s _ => ¬ s.Overflows ∧ ¬ s.FollowsClose) (fun s sent => ∀ id, SentFrames (s.world.get id) (sent id)) _ h
    (fun id => sentFrames_nil _) ?_ id
  intro s s' env sent hreach hsent hvalid hP hstep id
  have hwf := reach_wf hreach
  have hsocket := (step_inv hwf hstep).socket hwf id
  have hold := hsent id
  change SentFrames (s'.world.get id) (Sk.record (s.world.get id) (s'.world.get id) (sent id))
  generalize hget' : s'.world.get id = o' at *
  cases hget : s.world.get id with
  | none =>
    rw [hget] at hold
    cases o' with
    | none => exact hold
    | some sk' => exact sentFrames_nil _
  | some sk =>
    rw [hget] at hsocket hold
    cases o' with
    | none =>
      obtain ⟨frames, hstream, hlast, -⟩ := hold
      exact ⟨frames, hstream, hlast, fun _ hsk => by cases hsk⟩
    | some sk' =>
      by_cases hrecv : sk.ops.recv = some .ws_recv
      · rw [Sk.record_of_upgraded hrecv]
        have hok := reach_sendbuf (hreach.mono fun _ _ h => h.1) hget
        exact (hsocket.sends hwf hvalid hP.1 hP.2 hget hok (reach_drained hreach hget) hrecv).sentFrames hok hold
      · rw [Sk.record_of_not_upgraded hrecv]
        exact sentFrames_nil _

/-- As long as no payload overflows a send buffer or goes to a client which has been
    sent a close frame, a client is sent complete frames, and none behind a close frame. -/
theorem close_frame_last {sent : Nat → List UInt8}
    (h : (daemonSent cfg ssl).Reach (fun s _ => ¬ s.1.Overflows ∧ ¬ s.1.FollowsClose) (s, sent)) (id : Nat) :
    CloseLast (sent id) := by
  obtain ⟨frames, hstream, hlast, -⟩ := reach_sentFrames h id
  exact ⟨frames, hstream, hlast⟩

/-- An idle client is sent one close frame. -/
theorem close_frame_last_idle : ∃ sent : Nat → List UInt8, sent 0 = closeFrame WS_1000 false ∧ CloseLast (sent 0) := by
  obtain ⟨⟨s, sent⟩, hreach, hsent⟩ := Transition.System.exists_reach
    (daemonSent Sample.config Sample.openssl) (P := fun s _ => s.1.world.pp2sk.isNone = true)
    (B := fun s => s.2 0 = closeFrame WS_1000 false)
    (Sample.connected Sample.request ++ Sample.iteration 9 4 (some 0) EPOLLOUT { write := .ok 182 } ++
      (Sample.iteration 20 3 none EPOLLIN {}).take 3) (by decide +kernel)
  refine ⟨sent, hsent, close_frame_last (hreach.mono fun s _ hnone => ?_) 0⟩
  constructor
  · rintro ⟨p, frames, todo, pp2sk, hash, len, rest, id, sk, -, hpp, -⟩
    rw [hpp] at hnone
    cases hnone
  · rintro ⟨p, frames, todo, pp2sk, hash, len, rest, id, sk, -, hpp, -⟩
    rw [hpp] at hnone
    cases hnone

/-- What the backend sends to an idle client goes out behind the close frame. -/
theorem payload_behind_close : ¬ ∀ (cfg : Config) (ssl : Openssl) (s : State) (sent : Nat → List UInt8) (id : Nat),
    (daemonSent cfg ssl).Reach (fun _ _ => True) (s, sent) → CloseLast (sent id) := by
  intro h
  obtain ⟨⟨s, sent⟩, hreach, hsent⟩ := Transition.System.exists_reach
    (daemonSent Sample.config Sample.openssl) (P := fun _ _ => True)
    (B := fun s => s.2 0 = closeFrame WS_1000 false ++ wsFrame [0x68])
    (Sample.connected Sample.request ++ Sample.iteration 9 4 (some 0) EPOLLIN { read := .ok [0x81, 0x80, 0, 0, 0, 0] } ++
      ([{ clock := { tv_sec := 20, tv_nsec := 0 } }, { opens := [.connected 6] }] ++ List.replicate 6 ({} : Env) ++
        [{ events := some [(some 1, EPOLLIN)] }, { read := .ok (Sample.message [0x68]) }, ({} : Env)]) ++
      (Sample.iteration 20 2 none EPOLLIN {}).take 3) (by decide +kernel)
  obtain ⟨f, -, hbytes, hclose⟩ := closeFrame_unmasked WS_1000
  have hlast := h _ _ s sent 0 hreach
  change sent 0 = _ at hsent
  rw [hsent, ← hbytes] at hlast
  have hnil := hlast.nil_of_close hclose
  cases hnil

end Closing

end wsd
