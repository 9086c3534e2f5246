import Wsd.Transition.Path
import Wsd.Wschild.Loop
import Wsd.Wschild.Segment

namespace wsd

/-- What happens between the clients and the backend: bytes of a client arrive, `ws_recv`
    runs on a client whose receive buffer holds the given frames, the backend takes bytes. -/
inductive MuxEvent
  | read (id : Nat) (bytes : List UInt8)
  | recv (id : Nat) (frames : List DataFrame)
  | write (result : WriteResult)

/-- The daemon with the bytes which the backend has taken. -/
structure Muxing where
  world : World
  written : List UInt8

/-- A write of the backend's socket. -/
def Muxing.write (s : Muxing) (result : WriteResult) (p : Nat) (pp2sk : Sk) : Int × Muxing :=
  let write := sk_write result pp2sk s.world.wsd_errno
  (write.1, {
    world := { s.world with pp2sk := some (p, write.2.1), wsd_errno := write.2.2 }
    written := s.written ++ s.world.queued.take result.len })

theorem Muxing.write_eq {s : Muxing} {result : WriteResult} {p : Nat} {pp2sk pp2sk' : Sk} {rv : Int} {e : Errno}
    (h : sk_write result pp2sk s.world.wsd_errno = (rv, pp2sk', e)) : s.write result p pp2sk =
      (rv, ⟨{ s.world with pp2sk := some (p, pp2sk'), wsd_errno := e }, s.written ++ s.world.queued.take result.len⟩) := by
  rw [Muxing.write, h]

namespace MuxEvent

/-- The call which handles an event. -/
def call (cfg : Config) (opens : List OpenResult) : MuxEvent → Muxing → Except Fault (Int × Muxing)
  | .read id bytes, s => do
    let sk ← s.world.deref id
    let (rv, sk, wsd_errno) ← sk_read (.ok bytes) sk s.world.wsd_errno
    return (rv, { s with world := { s.world.set id sk with wsd_errno } })
  | .recv id _, s => do
    let (rv, world) ← ws_recv cfg opens s.world id
    return (rv, { s with world })
  | .write result, s =>
    match s.world.pp2sk with
    | none => .error .null_pointer
    | some (p, pp2sk) => .ok (s.write result p pp2sk)

/-- The events are about upgraded clients. A read delivers no more than there is room
    for, and a write takes no more than waits. -/
def Valid (s : Muxing) : MuxEvent → Prop
  | .read id bytes => ∃ sk ∈ s.world.clients id, Upgraded sk ∧ bytes.length ≤ skb_wrsz sk.recvbuf
  | .recv id frames => frames ≠ [] ∧
    ∃ sk ∈ s.world.clients id, Upgraded sk ∧ sk.recvbuf.readable = Framing.stream DataFrame.bytes frames
  | .write result => result.len ≤ s.world.queued.length

instance (sk : Sk) : Decidable (Upgraded sk) :=
  decidable_of_iff (sk.proto.encode_frame = some .ws_encode_frame ∧ sk.proto.decode_frame = some .ws_decode_frame ∧
      sk.proto.ping = some .ws_ping ∧ sk.proto.pong = some .ws_pong ∧
      sk.proto.start_closing_handshake = some .ws_start_closing_handshake)
    ⟨fun ⟨hencode, hdecode, hping, hpong, hstart⟩ => ⟨hencode, hdecode, hping, hpong, hstart⟩,
      fun h => ⟨h.encode_frame, h.decode_frame, h.ping, h.pong, h.start_closing_handshake⟩⟩

instance (s : Muxing) : (event : MuxEvent) → Decidable (event.Valid s)
  | .read id _ => inferInstanceAs (Decidable (∃ sk ∈ s.world.clients id, _ ∧ _))
  | .recv id _ => inferInstanceAs (Decidable (_ ∧ ∃ sk ∈ s.world.clients id, _ ∧ _))
  | .write _ => inferInstanceAs (Decidable (_ ≤ _))

/-- The call does not report that it has to be made again. -/
def Unhindered (cfg : Config) (opens : List OpenResult) (s : Muxing) (event : MuxEvent) : Prop :=
  match event.call cfg opens s with
  | .error _ => True
  | .ok (rv, s') => rv < 0 → s'.world.wsd_errno ≠ .WSD_EAGAIN

instance (cfg : Config) (opens : List OpenResult) (s : Muxing) (event : MuxEvent) :
    Decidable (event.Unhindered cfg opens s) :=
  match h : event.call cfg opens s with
  | .error _ => isTrue (by rw [Unhindered, h]; trivial)
  | .ok (rv, s') => decidable_of_iff (rv < 0 → s'.world.wsd_errno ≠ .WSD_EAGAIN) (by rw [Unhindered, h])

/-- The bytes of a client which arrive. -/
def arrived (id : Nat) : MuxEvent → List UInt8
  | .read j bytes => if j = id then bytes else []
  | _ => []

/-- The frames of a client which are processed. -/
def processed (id : Nat) : MuxEvent → List DataFrame
  | .recv j frames => if j = id then frames else []
  | _ => []

/-- The payloads which are processed, with the clients which sent them. -/
def sent (w : World) : MuxEvent → List (Sk × List UInt8)
  | .recv id frames =>
    match w.clients id with
    | none => []
    | some sk => frames.map fun d => (sk, d.frame.payload)
  | _ => []

end MuxEvent

/-- The clients and the backend as a system of calls. -/
def multiplexer (cfg : Config) (opens : List OpenResult) (w : World) : Transition.System Muxing MuxEvent Fault where
  init := { world := w, written := [] }
  valid := MuxEvent.Valid
  step event s := do
    let (_, s) ← event.call cfg opens s
    return s

instance (cfg : Config) (opens : List OpenResult) (w : World) (s : Muxing) (event : MuxEvent) :
    Decidable ((multiplexer cfg opens w).valid s event) :=
  inferInstanceAs (Decidable (event.Valid s))

/-- An open backend, and upgraded clients with different hashes. -/
structure World.Multiplexes (w : World) : Prop where
  wf : w.Wf
  backend : ∃ p pp2sk, w.pp2sk = some (p, pp2sk) ∧ pp2sk.sendbuf.Ok
  client : ∀ id sk, w.clients id = some sk → Upgraded sk → 0 ≤ sk.fd ∧ sk.recvbuf.Ok
  hashes : ∀ id sk id' sk', w.clients id = some sk → w.clients id' = some sk' → Upgraded sk → Upgraded sk' →
    sk.hash = sk'.hash → id = id'

/-- The payloads of an event which carry a client's hash are those which that client sent. -/
def MuxEvent.Attributed (w : World) (event : MuxEvent) : Prop :=
  ∀ id sk, w.clients id = some sk → Upgraded sk →
    ((event.sent w).filter fun e => e.1.hash = sk.hash).map Prod.snd = (event.processed id).map fun d => d.frame.payload

/-- What holds after the given events: the sockets are the same as at first, the PP2 frames
    are on their way in order, and each client's frames are processed in order. -/
structure Muxed (w : World) (events : List MuxEvent) (s : Muxing) : Prop where
  wf : s.world.Wf
  backend : ∃ p pp2sk, s.world.pp2sk = some (p, pp2sk) ∧ pp2sk.sendbuf.Ok
  cores : ∀ id, (s.world.clients id).map Sk.core = (w.clients id).map Sk.core
  client : ∀ id sk, s.world.clients id = some sk → Upgraded sk → 0 ≤ sk.fd ∧ sk.recvbuf.Ok
  frames : s.written ++ s.world.queued =
    w.queued ++ (events.flatMap (·.sent w)).flatMap fun e => pp2Frame e.1 e.2
  bytes : ∀ id sk, s.world.clients id = some sk → Upgraded sk → w.unread id ++ events.flatMap (·.arrived id) =
    Framing.stream DataFrame.bytes (events.flatMap (·.processed id)) ++ s.world.unread id
  attributed : ∀ event ∈ events, event.Attributed w

section Calls

variable {cfg : Config} {opens : List OpenResult} {w : World} {id p : Nat} {sk pp2sk : Sk}

/-- Where not all frames have room there is a first one which has none. -/
theorem exists_first_full {sk : Sk} {room : Nat} {frames : List DataFrame} (h : room < (forwarded sk frames).length) :
    ∃ done d rest, frames = done ++ d :: rest ∧ (forwarded sk done).length ≤ room ∧
      room - (forwarded sk done).length < (pp2Frame sk d.frame.payload).length := by
  induction frames generalizing room with
  | nil => exact absurd h (Nat.not_lt_zero _)
  | cons d frames ih =>
    rw [forwarded_cons, List.length_append] at h
    by_cases hfull : room < (pp2Frame sk d.frame.payload).length
    · exact ⟨[], d, frames, rfl, Nat.zero_le _, hfull⟩
    · obtain ⟨done, d', rest, rfl, hdone, hd'⟩ := @ih (room - (pp2Frame sk d.frame.payload).length) (by omega)
      refine ⟨d :: done, d', rest, rfl, ?_, ?_⟩
      · rw [forwarded_cons, List.length_append]
        omega
      · rw [forwarded_cons, List.length_append]
        omega

/-- A call of `ws_recv` on complete frames forwards all of them, or reports that it has to
    be made again. -/
theorem ws_recv_complete {frames : List DataFrame} (h : w.Forwards id p sk pp2sk) (hne : frames ≠ [])
    (hread : sk.recvbuf.readable = Framing.stream DataFrame.bytes frames) :
    ∃ recvbuf sendbuf events pp2events wsd_errno, ws_recv cfg opens w id = .ok (-1, w.setConn id
        { sk := { sk with recvbuf, events }, pp2sk := { pp2sk with sendbuf, events := pp2events }, wsd_errno }) ∧
      (wsd_errno = .WSD_EAGAIN ∨ recvbuf.Ok ∧ recvbuf.readable = [] ∧ sendbuf.Ok ∧
        sendbuf.readable = pp2sk.sendbuf.readable ++ forwarded sk frames) := by
  have hbytes : sk.recvbuf.readable ≠ [] := by
    intro hnil
    obtain ⟨d, rest, rfl⟩ := List.exists_cons_of_ne_nil hne
    have hsix := d.six_le_length
    rw [hread, Framing.stream_cons, List.append_eq_nil_iff] at hnil
    rw [hnil.1] at hsix
    exact absurd hsix (by decide)
  by_cases hroom : (forwarded sk frames).length ≤ skb_wrsz pp2sk.sendbuf
  · obtain ⟨recvbuf, sendbuf, events, pp2events, e, hrecv, hok, hend, hsend, hsent, -⟩ := @ws_recv_forwards
      _ _ _ _ _ cfg opens frames [] (fun recvbuf _ => recvbuf.readable = []) h (by rw [hread, List.append_nil]) hbytes
      hroom (by
        intro recvbuf sendbuf hok hnil _ _
        exact ⟨recvbuf, _, hok, hnil, ws_decode_frame_short (by
          rw [← hok.length_readable_eq, hnil]
          decide)⟩)
    exact ⟨recvbuf, sendbuf, events, pp2events, e, hrecv, Or.inr ⟨hok, hend, hsend, hsent⟩⟩
  · obtain ⟨done, d, rest, rfl, hdone, hfull⟩ := exists_first_full (Nat.not_le.mp hroom)
    have hencode : pp2sk.proto.encode_frame = some .pp2_encode_frame := by
      rw [(h.wf.backend _ _ h.backend).1.proto]
    obtain ⟨recvbuf, sendbuf, events, pp2events, e, hrecv, -, hagain, -⟩ := @ws_recv_forwards
      _ _ _ _ _ cfg opens done (d.bytes ++ Framing.stream DataFrame.bytes rest) (fun _ e => e = .WSD_EAGAIN) h
      (by rw [hread, Framing.stream_append, Framing.stream_cons]) hbytes hdone (by
        intro recvbuf sendbuf hok hpart hsend hleft
        obtain ⟨recvbuf', hdecode, hok', -⟩ := @ws_decode_frame_data_full
          { sk := { sk with recvbuf }, pp2sk := { pp2sk with sendbuf }, wsd_errno := w.wsd_errno } _ _ _ hok hsend
          hencode d.data hpart (by
            change skb_wrsz sendbuf < _
            rw [hleft, Nat.add_comm, ← length_pp2Frame sk]
            exact hfull)
        exact ⟨recvbuf', _, hok', rfl, hdecode⟩)
    exact ⟨recvbuf, sendbuf, events, pp2events, e, hrecv, Or.inl hagain⟩

/-- A read of a client appends the bytes which arrive. -/
theorem sk_read_appends {bytes : List UInt8} (hfd : 0 ≤ sk.fd) (hok : sk.recvbuf.Ok)
    (hroom : bytes.length ≤ skb_wrsz sk.recvbuf) (wsd_errno : Errno) :
    ∃ rv recvbuf events e, sk_read (.ok bytes) sk wsd_errno = .ok (rv, { sk with recvbuf, events }, e) ∧
      recvbuf.Ok ∧ recvbuf.readable = sk.recvbuf.readable ++ bytes := by
  cases bytes with
  | nil =>
    by_cases hfull : skb_wrsz sk.recvbuf = 0
    · refine ⟨-1, sk.recvbuf, sk.events.diff EPOLLIN, .WSD_EAGAIN, ?_, hok, (List.append_nil _).symm⟩
      simp [sk_read, hfd, hfull, turn_off_events]
    · refine ⟨-1, sk.recvbuf, sk.events, .WSD_CHECKERRNO, ?_, hok, (List.append_nil _).symm⟩
      simp [sk_read, hfd, hfull]
  | cons byte bytes =>
    exact ⟨0, _, sk.events, wsd_errno, sk_read_ok hfd (by simp) hroom, hok.put hroom, hok.readable_put hroom⟩

/-- A write takes the first bytes which wait. -/
theorem sk_write_takes {result : WriteResult} (hok : pp2sk.sendbuf.Ok)
    (hlen : result.len ≤ pp2sk.sendbuf.readable.length) (wsd_errno : Errno) :
    ∃ rv sendbuf events e, sk_write result pp2sk wsd_errno = (rv, { pp2sk with sendbuf, events }, e) ∧ sendbuf.Ok ∧
      pp2sk.sendbuf.readable.take result.len ++ sendbuf.readable = pp2sk.sendbuf.readable := by
  by_cases hempty : skb_rdsz pp2sk.sendbuf = 0
  · refine ⟨-1, pp2sk.sendbuf, pp2sk.events.diff EPOLLOUT, .WSD_EAGAIN, ?_, hok, ?_⟩
    · unfold sk_write
      rw [if_pos hempty]
      rfl
    · rw [hok.readable_eq_nil_iff.mpr hempty, List.take_nil, List.append_nil]
  · cases result with
    | error =>
      refine ⟨-1, pp2sk.sendbuf, pp2sk.events, .WSD_CHECKERRNO, ?_, hok, rfl⟩
      unfold sk_write
      rw [if_neg hempty]
    | ok len =>
      rw [hok.length_readable_eq] at hlen
      obtain ⟨sendbuf, hwrite, hok', hrest⟩ := @sk_write_ok _ wsd_errno len hok hempty hlen
      refine ⟨0, sendbuf, pp2sk.events, wsd_errno, hwrite, hok', ?_⟩
      rw [hrest]
      exact List.take_append_drop ..

end Calls

section Steps

variable {cfg : Config} {opens : List OpenResult} {w : World} {events : List MuxEvent} {event : MuxEvent} {s s' : Muxing}

/-- The PP2 frames of one call of `ws_recv`. -/
theorem sent_eq {id : Nat} {sk sk0 : Sk} (hclient : w.clients id = some sk0) (hcore : sk.core = sk0.core)
    (frames : List DataFrame) :
    (MuxEvent.sent w (.recv id frames)).flatMap (fun e => pp2Frame e.1 e.2) = forwarded sk frames := by
  have hsame := forwarded_congr (congrArg Sk.Core.src_addr hcore) (congrArg Sk.Core.dst_addr hcore)
    (congrArg Sk.Core.hash hcore) frames
  rw [hsame]
  simp only [MuxEvent.sent, hclient, List.flatMap_map, forwarded]

/-- Different clients have different hashes. -/
theorem attributed_recv (hw : w.Multiplexes) {id : Nat} {sk0 : Sk} (hclient : w.clients id = some sk0)
    (hup : Upgraded sk0) (frames : List DataFrame) : (MuxEvent.recv id frames).Attributed w := by
  intro j skj hj hupj
  simp only [MuxEvent.sent, hclient, MuxEvent.processed]
  by_cases hid : id = j
  · subst hid
    rw [hclient] at hj
    cases hj
    rw [if_pos rfl, List.filter_eq_self.mpr (by simp), List.map_map]
    rfl
  · have hne : sk0.hash ≠ skj.hash := fun heq => hid (hw.hashes id sk0 j skj hclient hj hup hupj heq)
    rw [if_neg hid, List.filter_eq_nil_iff.mpr (by simp [hne])]
    rfl

theorem flatMap_snoc_nil {α : Type} {f : MuxEvent → List α} (hnil : f event = []) :
    (events ++ [event]).flatMap f = events.flatMap f := by
  rw [List.flatMap_append, List.flatMap_singleton, hnil, List.append_nil]

/-- A client which is open now was open at first, with the same addresses and handlers. -/
theorem Muxed.first (h : Muxed w events s) {id : Nat} {sk : Sk} (hclient : s.world.clients id = some sk) :
    ∃ sk0, w.clients id = some sk0 ∧ sk.core = sk0.core := by
  have hcore := h.cores id
  rw [hclient] at hcore
  obtain ⟨sk0, hclient0, hcore0⟩ := Option.map_eq_some_iff.mp hcore.symm
  exact ⟨sk0, hclient0, hcore0.symm⟩

/-- An event of a client which keeps its addresses and handlers. -/
theorem Muxed.client_snoc (h : Muxed w events s) {id : Nat} {sk sk' : Sk} (hclient : s.world.clients id = some sk)
    (hup : Upgraded sk) (hwf : s'.world.Wf)
    (hbackend : ∃ p pp2sk, s'.world.pp2sk = some (p, pp2sk) ∧ pp2sk.sendbuf.Ok)
    (hclients : s'.world.clients = Function.update s.world.clients id (some sk')) (hcore : sk'.core = sk.core)
    (hok : sk'.recvbuf.Ok)
    (hframes : s'.written ++ s'.world.queued =
      s.written ++ s.world.queued ++ (event.sent w).flatMap fun e => pp2Frame e.1 e.2)
    (hbytes : sk.recvbuf.readable ++ event.arrived id =
      Framing.stream DataFrame.bytes (event.processed id) ++ sk'.recvbuf.readable)
    (hothers : ∀ j, j ≠ id → event.arrived j = [] ∧ event.processed j = []) (hattributed : event.Attributed w) :
    Muxed w (events ++ [event]) s' where
  wf := hwf
  backend := hbackend
  cores j := by
    rw [hclients]
    by_cases hj : j = id
    · rw [hj, Function.update_self, Option.map_some, hcore, ← h.cores id, hclient, Option.map_some]
    · rw [Function.update_of_ne hj]
      exact h.cores j
  client j skj hj hupj := by
    rw [hclients] at hj
    by_cases hid : j = id
    · rw [hid, Function.update_self] at hj
      cases hj
      have hfd : sk'.fd = sk.fd := congrArg Sk.Core.fd hcore
      exact ⟨hfd ▸ (h.client id sk hclient hup).1, hok⟩
    · rw [Function.update_of_ne hid] at hj
      exact h.client j skj hj hupj
  frames := by
    rw [hframes, h.frames, List.flatMap_append, List.flatMap_append, List.append_assoc]
    simp
  bytes j skj hj hupj := by
    have hunread : s'.world.unread j = skj.recvbuf.readable := by rw [World.unread, hj]
    rw [hclients] at hj
    rw [List.flatMap_append, List.flatMap_append, List.flatMap_singleton, List.flatMap_singleton, Framing.stream_append,
      hunread]
    by_cases hid : j = id
    · rw [hid, Function.update_self] at hj
      cases hj
      have hbefore := h.bytes id sk hclient hup
      rw [World.unread, World.unread, hclient] at hbefore
      rw [hid, ← List.append_assoc, World.unread, hbefore, List.append_assoc, hbytes, List.append_assoc]
    · rw [Function.update_of_ne hid] at hj
      obtain ⟨harrived, hprocessed⟩ := hothers j hid
      have hbefore := h.bytes j skj hj hupj
      rw [harrived, hprocessed, List.append_nil, Framing.stream_nil, List.append_nil, hbefore, World.unread, hj]
  attributed := by
    rw [List.forall_mem_append, List.forall_mem_singleton]
    exact ⟨h.attributed, hattributed⟩

/-- What a call does: it returns, and what holds before it holds behind it unless it reports
    that it has to be made again. -/
def MuxEvent.Keeps (cfg : Config) (opens : List OpenResult) (w : World) (events : List MuxEvent) (s : Muxing)
    (event : MuxEvent) : Prop :=
  ∃ rv s', event.call cfg opens s = .ok (rv, s') ∧
    (rv < 0 ∧ s'.world.wsd_errno = .WSD_EAGAIN ∨ Muxed w (events ++ [event]) s')

theorem Muxed.read (h : Muxed w events s) {id : Nat} {bytes : List UInt8} (hvalid : (MuxEvent.read id bytes).Valid s) :
    (MuxEvent.read id bytes).Keeps cfg opens w events s := by
  obtain ⟨p, pp2sk, hpp, hsend⟩ := h.backend
  obtain ⟨sk, hclient, hup, hroom⟩ := hvalid
  obtain ⟨hfd, hok⟩ := h.client id sk hclient hup
  have hforwards : s.world.Forwards id p sk pp2sk := ⟨h.wf, hclient, hup, hpp, hfd, hok, hsend⟩
  obtain ⟨rv, recvbuf, evs, e, hread, hok', happend⟩ := sk_read_appends hfd hok hroom s.world.wsd_errno
  have hafter := hforwards.setConn hok' hsend evs pp2sk.events e
  have hset : { s.world.set id { sk with recvbuf, events := evs } with wsd_errno := e } =
      s.world.setConn id { sk := { sk with recvbuf, events := evs }, pp2sk, wsd_errno := e } := by
    rw [World.set_client hforwards.apart]
    simp only [World.setConn, hpp, Option.map_some]
  refine ⟨rv, { s with world := { s.world.set id { sk with recvbuf, events := evs } with wsd_errno := e } }, ?_, Or.inr ?_⟩
  · rw [MuxEvent.call, World.deref_of_get (h.wf.get_of_client hclient), Except.ok_bind, hread]
    rfl
  · rw [hset]
    refine h.client_snoc hclient hup hafter.wf ⟨p, _, hafter.backend, hsend⟩ rfl rfl hok' ?_ ?_ ?_ ?_
    · rw [hafter.queued_eq, hforwards.queued_eq]
      simp [MuxEvent.sent]
    · simp [MuxEvent.arrived, MuxEvent.processed, happend]
    · intro j hj
      simp [MuxEvent.arrived, MuxEvent.processed, hj.symm]
    · exact fun _ _ _ _ => rfl

theorem Muxed.recv (hw : w.Multiplexes) (h : Muxed w events s) {id : Nat} {frames : List DataFrame}
    (hvalid : (MuxEvent.recv id frames).Valid s) : (MuxEvent.recv id frames).Keeps cfg opens w events s := by
  obtain ⟨p, pp2sk, hpp, hsend⟩ := h.backend
  obtain ⟨hne, sk, hclient, hup, hread⟩ := hvalid
  obtain ⟨hfd, hok⟩ := h.client id sk hclient hup
  have hforwards : s.world.Forwards id p sk pp2sk := ⟨h.wf, hclient, hup, hpp, hfd, hok, hsend⟩
  obtain ⟨sk0, hclient0, hcore0⟩ := h.first hclient
  obtain ⟨recvbuf, sendbuf, evs, pp2evs, e, hrecv, hend⟩ := @ws_recv_complete cfg opens _ _ _ _ _ frames hforwards hne hread
  refine ⟨-1, ⟨s.world.setConn id
    { sk := { sk with recvbuf, events := evs }, pp2sk := { pp2sk with sendbuf, events := pp2evs }, wsd_errno := e },
    s.written⟩, ?_, ?_⟩
  · rw [MuxEvent.call, hrecv]
    rfl
  · obtain hagain | ⟨hok', hnil, hsend', hsent⟩ := hend
    · exact Or.inl ⟨by decide, hagain⟩
    · have hafter := hforwards.setConn hok' hsend' evs pp2evs e
      refine Or.inr (h.client_snoc hclient hup hafter.wf ⟨p, _, hafter.backend, hsend'⟩ rfl rfl hok' ?_ ?_ ?_
        (attributed_recv hw hclient0 (hup.of_core hcore0.symm) frames))
      · rw [sent_eq hclient0 hcore0, hafter.queued_eq, hforwards.queued_eq, List.append_assoc, ← hsent]
      · simp [MuxEvent.arrived, MuxEvent.processed, hread, hnil]
      · intro j hj
        simp [MuxEvent.arrived, MuxEvent.processed, hj.symm]

theorem Muxed.write (h : Muxed w events s) {result : WriteResult} (hvalid : (MuxEvent.write result).Valid s) :
    (MuxEvent.write result).Keeps cfg opens w events s := by
  obtain ⟨p, pp2sk, hpp, hsend⟩ := h.backend
  have hqueued : s.world.queued = pp2sk.sendbuf.readable := by rw [World.queued, hpp]
  have hlen : result.len ≤ s.world.queued.length := hvalid
  rw [hqueued] at hlen
  obtain ⟨rv, sendbuf, evs, e, hwrite, hsend', hsplit⟩ := sk_write_takes hsend hlen s.world.wsd_errno
  refine ⟨rv, ⟨{ s.world with pp2sk := some (p, { pp2sk with sendbuf, events := evs }), wsd_errno := e },
    s.written ++ s.world.queued.take result.len⟩, ?_, Or.inr ?_⟩
  · rw [MuxEvent.call, hpp]
    exact congrArg Except.ok (Muxing.write_eq hwrite)
  · have hbackend := h.wf.backend p pp2sk hpp
    refine ⟨⟨h.wf.client, ?_⟩, ⟨p, _, rfl, hsend'⟩, h.cores, h.client, ?_, ?_, ?_⟩
    · rintro _ _ ⟨⟩
      exact ⟨hbackend.1.of_core rfl, hbackend.2⟩
    · have hbefore := h.frames
      rw [hqueued, ← hsplit] at hbefore
      rw [flatMap_snoc_nil rfl, ← hbefore, ← List.append_assoc, ← hqueued]
      rfl
    · intro j sk hj hup
      rw [flatMap_snoc_nil rfl, flatMap_snoc_nil rfl]
      exact h.bytes j sk hj hup
    · rw [List.forall_mem_append, List.forall_mem_singleton]
      exact ⟨h.attributed, fun _ _ _ _ => rfl⟩

theorem Muxed.call (hw : w.Multiplexes) (h : Muxed w events s) (hvalid : event.Valid s) : event.Keeps cfg opens w events s := by
  cases event with
  | read id bytes => exact h.read hvalid
  | recv id frames => exact h.recv hw hvalid
  | write result => exact h.write hvalid

/-- What holds after the calls of a run, none of which reports that it has to be made again. -/
theorem path_muxed {path : List (Transition.Move Muxing MuxEvent)} (hw : w.Multiplexes)
    (hpath : (multiplexer cfg opens w).Path (MuxEvent.Unhindered cfg opens) path s) :
    Muxed w (path.map Transition.Move.input) s := by
  refine hpath.invariant (I := fun path s => Muxed w (path.map Transition.Move.input) s) ?_ ?_
  · refine ⟨hw.wf, hw.backend, fun _ => rfl, hw.client, ?_, ?_, by simp⟩
    · exact (List.append_nil _).symm
    · exact fun _ _ _ _ => List.append_nil _
  · intro path s s' event _ h hvalid hfree hs
    obtain ⟨rv, s1, hcall, hend⟩ := @Muxed.call cfg opens _ _ _ _ hw h hvalid
    have hs1 : s1 = s' := by
      simp only [multiplexer, hcall, Except.ok_bind, Except.pure_eq_ok, Except.ok.injEq] at hs
      exact hs
    subst hs1
    rw [List.map_append, List.map_singleton]
    obtain ⟨hneg, hagain⟩ | hmuxed := hend
    · unfold MuxEvent.Unhindered at hfree
      rw [hcall] at hfree
      exact absurd hagain (hfree hneg)
    · exact hmuxed

end Steps

/-- In every run of calls none of which reports that it has to be made again, every call
    returns; what the backend has taken and what waits for it are the PP2 frames of the
    processed frames in order; those with a client's hash carry that client's payloads in
    order; and the processed frames of a client are what arrived, up to what is unread. -/
theorem multiplexing_integrity {cfg : Config} {opens : List OpenResult} {w : World} {s : Muxing}
    {path : List (Transition.Move Muxing MuxEvent)} (hw : w.Multiplexes)
    (hpath : (multiplexer cfg opens w).Path (MuxEvent.Unhindered cfg opens) path s) :
    (∀ event : MuxEvent, event.Valid s → ∃ rv s', event.call cfg opens s = .ok (rv, s')) ∧
      s.written ++ s.world.queued = w.queued ++
        (path.flatMap fun m => m.input.sent w).flatMap (fun e => pp2Frame e.1 e.2) ∧
      ∀ id sk, w.clients id = some sk → Upgraded sk →
        ((path.flatMap fun m => m.input.sent w).filter fun e => e.1.hash = sk.hash).map Prod.snd =
            (path.flatMap fun m => m.input.processed id).map (fun d => d.frame.payload) ∧
          w.unread id ++ path.flatMap (fun m => m.input.arrived id) =
            Framing.stream DataFrame.bytes (path.flatMap fun m => m.input.processed id) ++ s.world.unread id := by
  have h := path_muxed hw hpath
  refine ⟨fun event hvalid => ?_, ?_, fun id sk hclient hup => ⟨?_, ?_⟩⟩
  · obtain ⟨rv, s', hcall, -⟩ := @Muxed.call cfg opens _ _ _ _ hw h hvalid
    exact ⟨rv, s', hcall⟩
  · have hframes := h.frames
    rwa [List.flatMap_map] at hframes
  · rw [List.filter_flatMap, List.map_flatMap, List.map_flatMap]
    refine List.flatMap_congr fun m hm => ?_
    exact h.attributed m.input (List.mem_map_of_mem hm) id sk hclient hup
  · have hcore := h.cores id
    rw [hclient] at hcore
    obtain ⟨sk', hclient', hcore'⟩ := Option.map_eq_some_iff.mp hcore
    have hbytes := h.bytes id sk' hclient' (hup.of_core hcore')
    rwa [List.flatMap_map, List.flatMap_map] at hbytes

namespace Sample

theorem talkers_multiplex : talkers.Multiplexes where
  wf := talkers_wf
  backend := ⟨_, _, rfl, Skb.ok_zero⟩
  client id sk h _ := by
    obtain ⟨-, rfl⟩ | ⟨-, rfl⟩ := talkers_clients h
    · exact ⟨by decide, Skb.ok_zero⟩
    · exact ⟨by decide, Skb.ok_zero⟩
  hashes id sk id' sk' h h' _ _ heq := by
    obtain ⟨rfl, rfl⟩ | ⟨rfl, rfl⟩ := talkers_clients h
    · obtain ⟨rfl, rfl⟩ | ⟨rfl, rfl⟩ := talkers_clients h'
      · rfl
      · exact absurd heq (by decide)
    · obtain ⟨rfl, rfl⟩ | ⟨rfl, rfl⟩ := talkers_clients h'
      · exact absurd heq (by decide)
      · rfl

end Sample

/-- Both clients send a text frame; the second one's is processed first, and the backend
    takes ten bytes in between. -/
theorem multiplexing_integrity_two : ∃ path s,
    (multiplexer Sample.config [] Sample.talkers).Path (MuxEvent.Unhindered Sample.config []) path s ∧
      s.written.length = 10 ∧ s.written ++ s.world.queued =
        pp2Frame (Sample.talker 7 0x0100000a 11) [104, 105] ++ pp2Frame (Sample.talker 6 0x0300000a 10) [104, 105] := by
  obtain ⟨path, s, hpath, hten, hsent⟩ := Transition.System.exists_path (multiplexer Sample.config [] Sample.talkers)
    (P := MuxEvent.Unhindered Sample.config [])
    (B := fun path s => s.written.length = 10 ∧ (path.flatMap fun m => m.input.sent Sample.talkers).flatMap
        (fun e => pp2Frame e.1 e.2) =
      pp2Frame (Sample.talker 7 0x0100000a 11) [104, 105] ++ pp2Frame (Sample.talker 6 0x0300000a 10) [104, 105])
    [.read 0 Sample.textData.bytes, .read 1 Sample.textData.bytes, .recv 1 [Sample.textData], .write (.ok 10),
      .recv 0 [Sample.textData]] (by decide +kernel)
  refine ⟨path, s, hpath, hten, ?_⟩
  rw [(multiplexing_integrity Sample.talkers_multiplex hpath).2.1, hsent]
  decide +kernel

end wsd
