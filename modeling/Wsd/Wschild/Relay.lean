import Wsd.Wschild.Delivery
import Wsd.Wschild.Multiplex

namespace wsd

/-- What happens between the clients and the backend in both directions: besides the
    events of the clients' direction, bytes of the backend arrive, `pp2_recv` runs on the
    given frames and so many bytes of the next one, a client takes bytes. -/
inductive RelayEvent
  | mux (event : MuxEvent)
  | read (bytes : List UInt8)
  | recv (frames : List Pp2Item) (next : Pp2Item) (len : Nat)
  | write (id : Nat) (result : WriteResult)

/-- The daemon with the bytes which the backend and each client have taken. -/
structure Relay where
  muxing : Muxing
  taken : Nat → List UInt8

/-- The bytes of the backend which are not processed. -/
def World.backlog (w : World) : List UInt8 :=
  match w.pp2sk with
  | none => []
  | some (_, pp2sk) => pp2sk.recvbuf.readable

/-- The bytes which wait for a client. -/
def World.outgoing (w : World) (id : Nat) : List UInt8 :=
  match w.clients id with
  | none => []
  | some sk => sk.sendbuf.readable

namespace Relay

def world (s : Relay) : World :=
  s.muxing.world

def setWorld (s : Relay) (world : World) : Relay :=
  { s with muxing := { s.muxing with world } }

@[simp] theorem world_setWorld (s : Relay) (w : World) : (s.setWorld w).world = w := rfl

@[simp] theorem taken_setWorld (s : Relay) (w : World) : (s.setWorld w).taken = s.taken := rfl

/-- A read of the backend's socket. -/
def read (s : Relay) (bytes : List UInt8) (p : Nat) (pp2sk : Sk) : Except Fault (Int × Relay) := do
  let (rv, pp2sk, wsd_errno) ← sk_read (.ok bytes) pp2sk s.world.wsd_errno
  return (rv, s.setWorld { s.world with pp2sk := some (p, pp2sk), wsd_errno })

/-- A write of a client's socket. -/
def write (s : Relay) (id : Nat) (result : WriteResult) (sk : Sk) : Int × Relay :=
  let write := sk_write result sk s.world.wsd_errno
  (write.1, { s.setWorld { s.world.set id write.2.1 with wsd_errno := write.2.2 } with
    taken := Function.update s.taken id (s.taken id ++ sk.sendbuf.readable.take result.len) })

end Relay

namespace RelayEvent

/-- The call which handles an event. -/
def call (cfg : Config) (opens : List OpenResult) : RelayEvent → Relay → Except Fault (Int × Relay)
  | .mux event, s => do
    let (rv, muxing) ← event.call cfg opens s.muxing
    return (rv, { s with muxing })
  | .read bytes, s =>
    match s.world.pp2sk with
    | none => .error .null_pointer
    | some (p, pp2sk) => s.read bytes p pp2sk
  | .recv _ _ _, s =>
    match s.world.pp2sk with
    | none => .error .null_pointer
    | some (p, _) => do
      let (rv, world) ← pp2_recv s.world p
      return (rv, s.setWorld world)
  | .write id result, s => do
    let sk ← s.world.deref id
    return s.write id result sk

/-- The receive buffer holds the frames and a part of the next one, which is a proper one
    unless the next one has no payload. The decoder waits for a byte behind a frame
    without a payload, so that the last of the frames has one or is not the last byte. -/
structure Holds (frames : List Pp2Item) (next : Pp2Item) (len : Nat) (bytes : List UInt8) : Prop where
  nonempty : bytes ≠ []
  bytes : bytes = Framing.stream Pp2Item.bytes frames ++ next.bytes.take len
  part : len < next.bytes.length ∨ next.payload = []
  last : ∀ f ∈ frames.getLast?, f.payload = [] → 0 < len

/-- The events are about upgraded clients and the backend. A read delivers no more than
    there is room for, a write takes no more than waits, and the buckets of the backend's
    frames are the table's and their clients have room for the payloads. -/
def Valid (s : Relay) : RelayEvent → Prop
  | .mux event => event.Valid s.muxing
  | .read bytes => ∀ p ∈ s.world.pp2sk, bytes.length ≤ skb_wrsz p.2.recvbuf
  | .recv frames next len => Holds frames next len s.world.backlog ∧ Serves s.world.clients s.world.sk_hash frames
  | .write id result => ∃ sk ∈ s.world.clients id, Upgraded sk ∧ result.len ≤ sk.sendbuf.readable.length

/-- No call of the clients' direction reports that it has to be made again. -/
def Unhindered (cfg : Config) (opens : List OpenResult) (s : Relay) : RelayEvent → Prop
  | .mux event => event.Unhindered cfg opens s.muxing
  | _ => True

/-- The event as one of the clients' direction. -/
def toMux : RelayEvent → List MuxEvent
  | .mux event => [event]
  | _ => []

/-- The bytes of the backend which arrive. -/
def arrived : RelayEvent → List UInt8
  | .read bytes => bytes
  | _ => []

/-- The frames of the backend which are processed. -/
def processed : RelayEvent → List Pp2Item
  | .recv frames _ _ => frames
  | _ => []

instance (frames : List Pp2Item) (next : Pp2Item) (len : Nat) (bytes : List UInt8) :
    Decidable (Holds frames next len bytes) :=
  decidable_of_iff (bytes ≠ [] ∧ bytes = Framing.stream Pp2Item.bytes frames ++ next.bytes.take len ∧
      (len < next.bytes.length ∨ next.payload = []) ∧ ∀ f ∈ frames.getLast?, f.payload = [] → 0 < len)
    ⟨fun ⟨nonempty, bytes, part, last⟩ => ⟨nonempty, bytes, part, last⟩, fun h => ⟨h.nonempty, h.bytes, h.part, h.last⟩⟩

instance (s : Relay) : (event : RelayEvent) → Decidable (event.Valid s)
  | .mux event => inferInstanceAs (Decidable (event.Valid s.muxing))
  | .read _ => inferInstanceAs (Decidable (∀ p ∈ s.world.pp2sk, _ ≤ _))
  | .recv _ _ _ => inferInstanceAs (Decidable (_ ∧ _))
  | .write id _ => inferInstanceAs (Decidable (∃ sk ∈ s.world.clients id, _ ∧ _))

instance (cfg : Config) (opens : List OpenResult) (s : Relay) :
    (event : RelayEvent) → Decidable (event.Unhindered cfg opens s)
  | .mux event => inferInstanceAs (Decidable (event.Unhindered cfg opens s.muxing))
  | .read _ => isTrue trivial
  | .recv _ _ _ => isTrue trivial
  | .write _ _ => isTrue trivial

end RelayEvent

/-- The clients and the backend as a system of calls in both directions. -/
def relay (cfg : Config) (opens : List OpenResult) (w : World) : Transition.System Relay RelayEvent Fault where
  init := { muxing := { world := w, written := [] }, taken := fun _ => [] }
  valid := RelayEvent.Valid
  step event s := do
    let (_, s) ← event.call cfg opens s
    return s

instance (cfg : Config) (opens : List OpenResult) (w : World) (s : Relay) (event : RelayEvent) :
    Decidable ((relay cfg opens w).valid s event) :=
  inferInstanceAs (Decidable (event.Valid s))

/-- An open backend and clients in the connection table, those which are upgraded with
    different hashes. -/
structure World.Relays (w : World) : Prop where
  multiplexes : w.Multiplexes
  linked : w.Linked
  backend : ∀ p pp2sk, w.pp2sk = some (p, pp2sk) → 0 ≤ pp2sk.fd ∧ pp2sk.recvbuf.Ok
  sendbuf : ∀ id sk, w.clients id = some sk → Upgraded sk → sk.sendbuf.Ok

/-- What holds after the given events: the clients' direction as if nothing else had
    happened, the frames of the backend are processed in order, and each client's payloads
    are on their way in order. -/
structure Relayed (w : World) (events : List RelayEvent) (s : Relay) : Prop where
  muxed : Muxed w (events.flatMap RelayEvent.toMux) s.muxing
  routes : Routes s.world.clients s.world.sk_hash
  backend : ∀ p pp2sk, s.world.pp2sk = some (p, pp2sk) → 0 ≤ pp2sk.fd ∧ pp2sk.recvbuf.Ok
  sendbuf : ∀ id sk, s.world.clients id = some sk → Upgraded sk → sk.sendbuf.Ok
  bytes : w.backlog ++ events.flatMap RelayEvent.arrived =
    Framing.stream Pp2Item.bytes (events.flatMap RelayEvent.processed) ++ s.world.backlog
  taken : ∀ id sk, s.world.clients id = some sk → Upgraded sk → s.taken id ++ sk.sendbuf.readable =
    w.outgoing id ++ deliveries sk.hash (events.flatMap RelayEvent.processed)

section Frames

variable {w w' : World} {id : Nat} {sk : Sk}

/-- The clients' direction leaves what the other direction is about. -/
structure World.Untouched (w w' : World) : Prop where
  sk_hash : w'.sk_hash = w.sk_hash
  backend : w'.pp2sk.map (fun p => (p.1, p.2.core, p.2.recvbuf)) = w.pp2sk.map fun p => (p.1, p.2.core, p.2.recvbuf)
  clients : ∀ id, (w'.clients id).map (fun sk => (sk.core, sk.sendbuf)) =
    (w.clients id).map fun sk => (sk.core, sk.sendbuf)

theorem IsClient.upgraded_iff (h : IsClient sk) : sk.Encodes ↔ Upgraded sk := by
  constructor
  · intro hencode
    obtain ⟨-, proto⟩ | ⟨-, proto⟩ := h
    · rw [Sk.Encodes, proto] at hencode
      cases hencode
    · constructor <;> rw [proto]
  · exact fun hup => hup.encode_frame

theorem World.Untouched.setConn {c : Conn} {pp2sk : Sk} {p : Nat} (hclient : w.clients id = some sk)
    (hpp : w.pp2sk = some (p, pp2sk)) (hcore : c.sk.core = sk.core) (hsend : c.sk.sendbuf = sk.sendbuf)
    (hpcore : c.pp2sk.core = pp2sk.core) (hprecv : c.pp2sk.recvbuf = pp2sk.recvbuf) : w.Untouched (w.setConn id c) where
  sk_hash := rfl
  backend := by
    simp only [World.setConn, hpp, Option.map_some, hpcore, hprecv]
  clients j := by
    by_cases hid : j = id
    · subst hid
      simp only [World.setConn, Function.update_self, hclient, Option.map_some, hcore, hsend]
    · simp only [World.setConn, Function.update_of_ne hid]

/-- An entry of the one map has its counterpart in the other. -/
theorem exists_of_map_eq {α β : Type} {f : α → β} {o o' : Option α} (h : o'.map f = o.map f) {a : α} (ho' : o' = some a) :
    ∃ b, o = some b ∧ f a = f b := by
  rw [ho', Option.map_some] at h
  obtain ⟨b, hb, hf⟩ := Option.map_eq_some_iff.mp h.symm
  exact ⟨b, hb, hf.symm⟩

/-- An event which adds nothing to a history. -/
theorem flatMap_snoc_of_nil {ι α : Type} {f : ι → List α} {done : List ι} {last : ι} (hnil : f last = []) :
    (done ++ [last]).flatMap f = done.flatMap f := by
  rw [List.flatMap_append, List.flatMap_singleton, hnil, List.append_nil]

theorem World.Untouched.backlog (h : w.Untouched w') : w'.backlog = w.backlog := by
  unfold World.backlog
  cases hpp' : w'.pp2sk with
  | none =>
    have hmap := h.backend
    rw [hpp', Option.map_none] at hmap
    rw [Option.map_eq_none_iff.mp hmap.symm]
  | some p =>
    obtain ⟨q, hpp, hsame⟩ := exists_of_map_eq h.backend hpp'
    rw [hpp]
    exact congrArg Skb.readable (congrArg (fun t => t.2.2) hsame)

/-- The clients' direction depends on the sockets' addresses and handlers, on the clients'
    receive buffers and on the backend's send buffer only. -/
theorem Muxed.of_same {events : List MuxEvent} {s s' : Muxing} (h : Muxed w events s) (hwritten : s'.written = s.written)
    (hnext : s'.world.next = s.world.next)
    (hbackend : s'.world.pp2sk.map (fun p => (p.1, p.2.core, p.2.sendbuf)) =
      s.world.pp2sk.map fun p => (p.1, p.2.core, p.2.sendbuf))
    (hclients : ∀ id, (s'.world.clients id).map (fun sk => (sk.core, sk.recvbuf)) =
      (s.world.clients id).map fun sk => (sk.core, sk.recvbuf)) : Muxed w events s' := by
  obtain ⟨p, pp2sk, hpp, hsend⟩ := h.backend
  obtain ⟨⟨p', pp2sk'⟩, hpp', hsame⟩ := exists_of_map_eq hbackend.symm hpp
  simp only [Prod.mk.injEq] at hsame
  obtain ⟨rfl, hpcore, hpsend⟩ := hsame
  have hnone (id : Nat) (hclient : s.world.clients id = none) : s'.world.clients id = none := by
    have hmap := hclients id
    rwa [hclient, Option.map_none, Option.map_eq_none_iff] at hmap
  have hunread (id : Nat) : s'.world.unread id = s.world.unread id := by
    unfold World.unread
    cases hclient : s'.world.clients id with
    | none =>
      have hmap := hclients id
      rw [hclient, Option.map_none] at hmap
      rw [Option.map_eq_none_iff.mp hmap.symm]
    | some sk =>
      obtain ⟨sk0, hclient0, heq⟩ := exists_of_map_eq (hclients id) hclient
      rw [hclient0]
      exact congrArg Skb.readable (congrArg Prod.snd heq)
  refine ⟨⟨fun id sk hclient => ?_, ?_⟩, ⟨p, pp2sk', hpp', hpsend ▸ hsend⟩, fun id => ?_, fun id sk hclient hup => ?_, ?_,
    fun id sk hclient hup => ?_, h.attributed⟩
  · obtain ⟨sk0, hclient0, heq⟩ := exists_of_map_eq (hclients id) hclient
    obtain ⟨hkind, hlt⟩ := h.wf.client id sk0 hclient0
    exact ⟨hkind.of_core (congrArg Prod.fst heq), hnext ▸ hlt⟩
  · intro q qsk hq
    rw [hpp'] at hq
    cases hq
    obtain ⟨hkind, hlt, hclosed⟩ := h.wf.backend p pp2sk hpp
    exact ⟨hkind.of_core hpcore.symm, hnext ▸ hlt, hnone p hclosed⟩
  · rw [← h.cores id]
    have hmap := congrArg (Option.map Prod.fst) (hclients id)
    rwa [Option.map_map, Option.map_map] at hmap
  · obtain ⟨sk0, hclient0, heq⟩ := exists_of_map_eq (hclients id) hclient
    have hcore : sk.core = sk0.core := congrArg Prod.fst heq
    have hrecv : sk.recvbuf = sk0.recvbuf := congrArg Prod.snd heq
    obtain ⟨hfd, hok⟩ := h.client id sk0 hclient0 (hup.of_core hcore.symm)
    have hsame : sk.fd = sk0.fd := congrArg Sk.Core.fd hcore
    exact ⟨hsame ▸ hfd, hrecv ▸ hok⟩
  · have hqueued : s'.world.queued = s.world.queued := by
      rw [World.queued, World.queued, hpp, hpp']
      exact congrArg Skb.readable hpsend.symm
    rw [hwritten, hqueued, h.frames]
  · obtain ⟨sk0, hclient0, heq⟩ := exists_of_map_eq (hclients id) hclient
    have hcore : sk.core = sk0.core := congrArg Prod.fst heq
    rw [hunread]
    exact h.bytes id sk0 hclient0 (hup.of_core hcore.symm)

end Frames

section Steps

variable {cfg : Config} {opens : List OpenResult} {w : World} {events : List RelayEvent} {s : Relay}

/-- A call of the clients' direction leaves what the other direction is about. -/
theorem MuxEvent.call_untouched {done : List MuxEvent} {event : MuxEvent} {s s' : Muxing} {rv : Int}
    (h : Muxed w done s) (hvalid : event.Valid s) (hcall : event.call cfg opens s = .ok (rv, s')) :
    s.world.Untouched s'.world := by
  obtain ⟨p, pp2sk, hpp, hsend⟩ := h.backend
  cases event with
  | read id bytes =>
    obtain ⟨sk, hclient, hup, hroom⟩ := hvalid
    obtain ⟨hfd, hok⟩ := h.client id sk hclient hup
    have hforwards : s.world.Forwards id p sk pp2sk := ⟨h.wf, hclient, hup, hpp, hfd, hok, hsend⟩
    obtain ⟨rv', recvbuf, evs, e, hread, -⟩ := sk_read_appends hfd hok hroom s.world.wsd_errno
    have hset : { s.world.set id { sk with recvbuf, events := evs } with wsd_errno := e } =
        s.world.setConn id { sk := { sk with recvbuf, events := evs }, pp2sk, wsd_errno := e } := by
      rw [World.set_client hforwards.apart]
      simp only [World.setConn, hpp, Option.map_some]
    rw [MuxEvent.call, World.deref_of_get (h.wf.get_of_client hclient), Except.ok_bind, hread] at hcall
    cases hcall
    change s.world.Untouched { s.world.set id { sk with recvbuf, events := evs } with wsd_errno := e }
    rw [hset]
    exact .setConn hclient hpp rfl rfl rfl rfl
  | recv id frames =>
    obtain ⟨hne, sk, hclient, hup, hread⟩ := hvalid
    obtain ⟨hfd, hok⟩ := h.client id sk hclient hup
    have hforwards : s.world.Forwards id p sk pp2sk := ⟨h.wf, hclient, hup, hpp, hfd, hok, hsend⟩
    obtain ⟨recvbuf, sendbuf, evs, pp2evs, e, hrecv, -⟩ := @ws_recv_complete cfg opens _ _ _ _ _ frames hforwards hne hread
    rw [MuxEvent.call, hrecv] at hcall
    cases hcall
    exact .setConn hclient hpp rfl rfl rfl rfl
  | write result =>
    have hlen : result.len ≤ s.world.queued.length := hvalid
    rw [World.queued, hpp] at hlen
    obtain ⟨rv', sendbuf, evs, e, hwrite, -⟩ := sk_write_takes hsend hlen s.world.wsd_errno
    rw [MuxEvent.call, hpp] at hcall
    simp only [Muxing.write_eq hwrite, Except.ok.injEq, Prod.mk.injEq] at hcall
    obtain ⟨-, rfl⟩ := hcall
    exact ⟨rfl, by simp only [hpp, Option.map_some]; rfl, fun _ => rfl⟩

/-- What a call does: it returns, and what holds before it holds behind it. -/
def RelayEvent.Keeps (cfg : Config) (opens : List OpenResult) (w : World) (events : List RelayEvent) (s : Relay)
    (event : RelayEvent) : Prop :=
  ∃ rv s', event.call cfg opens s = .ok (rv, s') ∧
    (event.Unhindered cfg opens s → Relayed w (events ++ [event]) s')

theorem Relayed.mux (hw : w.Relays) (h : Relayed w events s) {event : MuxEvent}
    (hvalid : (RelayEvent.mux event).Valid s) : (RelayEvent.mux event).Keeps cfg opens w events s := by
  obtain ⟨rv, m, hcall, hend⟩ := @Muxed.call cfg opens _ _ _ _ hw.multiplexes h.muxed hvalid
  have huntouched := MuxEvent.call_untouched h.muxed hvalid hcall
  refine ⟨rv, { s with muxing := m }, by rw [RelayEvent.call, hcall]; rfl, fun hfree => ?_⟩
  have hmuxed : Muxed w (events.flatMap RelayEvent.toMux ++ [event]) m := by
    obtain ⟨hneg, hagain⟩ | hmuxed := hend
    · change event.Unhindered cfg opens s.muxing at hfree
      unfold MuxEvent.Unhindered at hfree
      rw [hcall] at hfree
      exact absurd hagain (hfree hneg)
    · exact hmuxed
  have hcore (id : Nat) : (m.world.clients id).map Sk.core = (s.world.clients id).map Sk.core := by
    have hmap := congrArg (Option.map Prod.fst) (huntouched.clients id)
    rwa [Option.map_map, Option.map_map] at hmap
  have hfirst (id : Nat) (sk : Sk) (hclient : m.world.clients id = some sk) (hup : Upgraded sk) :
      ∃ sk0, s.world.clients id = some sk0 ∧ Upgraded sk0 ∧ sk.hash = sk0.hash ∧ sk.sendbuf = sk0.sendbuf := by
    obtain ⟨sk0, hclient0, hsame⟩ := exists_of_map_eq (huntouched.clients id) hclient
    have hcore0 : sk.core = sk0.core := congrArg Prod.fst hsame
    exact ⟨sk0, hclient0, hup.of_core hcore0.symm, congrArg Sk.Core.hash hcore0, congrArg Prod.snd hsame⟩
  refine ⟨by simpa [RelayEvent.toMux] using hmuxed, ?_, fun p pp2sk hpp => ?_, fun id sk hclient hup => ?_, ?_,
    fun id sk hclient hup => ?_⟩
  · change Routes m.world.clients m.world.sk_hash
    rw [huntouched.sk_hash]
    exact h.routes.congr hcore
  · obtain ⟨⟨p0, pp2sk0⟩, hpp0, hsame⟩ := exists_of_map_eq huntouched.backend hpp
    simp only [Prod.mk.injEq] at hsame
    obtain ⟨-, hpcore, hprecv⟩ := hsame
    obtain ⟨hfd, hok⟩ := h.backend p0 pp2sk0 hpp0
    have hpfd : pp2sk.fd = pp2sk0.fd := congrArg Sk.Core.fd hpcore
    exact ⟨hpfd ▸ hfd, hprecv ▸ hok⟩
  · obtain ⟨sk0, hclient0, hup0, -, hsend⟩ := hfirst id sk hclient hup
    exact hsend ▸ h.sendbuf id sk0 hclient0 hup0
  · have hbacklog : m.world.backlog = s.world.backlog := huntouched.backlog
    change _ = _ ++ m.world.backlog
    simpa [RelayEvent.arrived, RelayEvent.processed, hbacklog] using h.bytes
  · obtain ⟨sk0, hclient0, hup0, hhash, hsend⟩ := hfirst id sk hclient hup
    rw [hhash, hsend]
    simpa [RelayEvent.processed] using h.taken id sk0 hclient0 hup0

theorem Relayed.read (h : Relayed w events s) {bytes : List UInt8} (hvalid : (RelayEvent.read bytes).Valid s) :
    (RelayEvent.read bytes).Keeps cfg opens w events s := by
  obtain ⟨p, pp2sk, hpp, -⟩ := h.muxed.backend
  obtain ⟨hfd, hok⟩ := h.backend p pp2sk hpp
  obtain ⟨rv, recvbuf, evs, e, hread, hok', happend⟩ :=
    @sk_read_appends pp2sk bytes hfd hok (hvalid _ hpp) s.world.wsd_errno
  refine ⟨rv, s.setWorld { s.world with pp2sk := some (p, { pp2sk with recvbuf, events := evs }), wsd_errno := e }, ?_,
    fun _ => ?_⟩
  · have hpp' : s.world.pp2sk = some (p, pp2sk) := hpp
    simp only [RelayEvent.call, hpp', Relay.read, hread, Except.ok_bind, Except.pure_eq_ok]
  · refine ⟨?_, h.routes, ?_, h.sendbuf, ?_, fun id sk hclient hup => ?_⟩
    · rw [flatMap_snoc_of_nil rfl]
      refine h.muxed.of_same rfl rfl ?_ fun _ => rfl
      simp only [Relay.setWorld, hpp, Option.map_some]
      rfl
    · rintro _ _ ⟨⟩
      exact ⟨hfd, hok'⟩
    · have hbacklog : s.world.backlog = pp2sk.recvbuf.readable := by
        have hpp' : s.world.pp2sk = some (p, pp2sk) := hpp
        rw [World.backlog, hpp']
      have hbefore := h.bytes
      rw [hbacklog] at hbefore
      rw [@flatMap_snoc_of_nil _ _ RelayEvent.processed _ _ rfl, List.flatMap_append, List.flatMap_singleton,
        ← List.append_assoc, hbefore, List.append_assoc]
      exact congrArg _ happend.symm
    · rw [flatMap_snoc_of_nil rfl]
      exact h.taken id sk hclient hup

theorem Relayed.recv (h : Relayed w events s) {frames : List Pp2Item} {next : Pp2Item} {len : Nat}
    (hvalid : (RelayEvent.recv frames next len).Valid s) :
    (RelayEvent.recv frames next len).Keeps cfg opens w events s := by
  obtain ⟨hholds, hserves⟩ := hvalid
  obtain ⟨p, pp2sk, hpp, -⟩ := h.muxed.backend
  have hpp' : s.world.pp2sk = some (p, pp2sk) := hpp
  obtain ⟨hfd, hok⟩ := h.backend p pp2sk hpp
  have hproto := (h.muxed.wf.backend p pp2sk hpp).1.proto
  have hreceives : s.world.Receives p pp2sk := ⟨hpp, by rw [hproto], hfd, hok⟩
  have hbacklog : s.world.backlog = pp2sk.recvbuf.readable := by rw [World.backlog, hpp']
  obtain ⟨hne, hread, hpart, hlast⟩ := hholds
  have hcut : next.bytes.take len ++ next.bytes.drop len = Framing.stream Pp2Item.bytes [next] := by
    rw [List.take_append_drop, Framing.stream_cons, Framing.stream_nil, List.append_nil]
  have hstop : Stops [next] (next.bytes.take len) := by
    by_cases hlen : len < next.bytes.length
    · refine Or.inl fun f hf => ?_
      cases hf
      rw [List.length_take]
      omega
    · exact Or.inr ⟨next, rfl, List.take_of_length_le (Nat.not_lt.mp hlen), hpart.resolve_left hlen⟩
  have hbehind : ∀ f ∈ frames.getLast?, f.payload = [] → next.bytes.take len ≠ [] := by
    intro f hf hempty hnil
    have hpos := hlast f hf hempty
    have hlength := congrArg List.length hnil
    have hheader : PP2_HEADER_LEN = 46 := rfl
    rw [List.length_take, next.length_bytes, List.length_nil] at hlength
    omega
  rw [hbacklog] at hne hread
  obtain ⟨clients, recvbuf, evs, e, hrecv, hok', hrest, hgiven⟩ :=
    pp2_recv_distributes hreceives h.routes hserves hread hne hbehind hcut hstop
  refine ⟨-1, s.setWorld { s.world with clients, pp2sk := some (p, { pp2sk with recvbuf, events := evs }), wsd_errno := e },
    ?_, fun _ => ?_⟩
  · simp only [RelayEvent.call, hpp', hrecv, Except.ok_bind, Except.pure_eq_ok]
  · -- an upgraded client has what it had, and the payloads for its hash behind it
    have hfirst (id : Nat) (sk : Sk) (hclient : clients id = some sk) (hup : Upgraded sk) :
        ∃ sk0, s.world.clients id = some sk0 ∧ Upgraded sk0 ∧ sk.hash = sk0.hash ∧ (sk0.sendbuf.Ok →
          sk.sendbuf.Ok ∧ sk.sendbuf.readable = sk0.sendbuf.readable ++ deliveries sk0.hash frames) := by
      obtain ⟨sk0, hclient0, hsame⟩ := exists_of_map_eq (hgiven.core id) hclient
      have hup0 := hup.of_core hsame.symm
      obtain ⟨sendbuf, evs, hclient', hput⟩ := hgiven.taking id sk0 hclient0 hup0.encode_frame
      rw [hclient] at hclient'
      cases hclient'
      exact ⟨sk0, hclient0, hup0, rfl, hput⟩
    refine ⟨?_, h.routes.congr hgiven.core, ?_, fun id sk hclient hup => ?_, ?_, fun id sk hclient hup => ?_⟩
    · rw [flatMap_snoc_of_nil rfl]
      refine h.muxed.of_same rfl rfl ?_ hgiven.same
      simp only [Relay.setWorld, hpp, Option.map_some]
      rfl
    · rintro _ _ ⟨⟩
      exact ⟨hfd, hok'⟩
    · obtain ⟨sk0, hclient0, hup0, -, hput⟩ := hfirst id sk hclient hup
      exact (hput (h.sendbuf id sk0 hclient0 hup0)).1
    · have hbefore := h.bytes
      rw [hbacklog, hread] at hbefore
      rw [@flatMap_snoc_of_nil _ _ RelayEvent.arrived _ _ rfl, hbefore, List.flatMap_append, List.flatMap_singleton,
        Framing.stream_append, List.append_assoc]
      exact congrArg (fun part => _ ++ (_ ++ part)) hrest.symm
    · obtain ⟨sk0, hclient0, hup0, hhash, hput⟩ := hfirst id sk hclient hup
      have hbefore := h.taken id sk0 hclient0 hup0
      rw [List.flatMap_append, List.flatMap_singleton, deliveries_append, hhash, (hput (h.sendbuf id sk0 hclient0 hup0)).2,
        ← List.append_assoc, ← List.append_assoc, ← hbefore]
      rfl

theorem Relayed.write (h : Relayed w events s) {id : Nat} {result : WriteResult}
    (hvalid : (RelayEvent.write id result).Valid s) : (RelayEvent.write id result).Keeps cfg opens w events s := by
  obtain ⟨sk, hclient, hup, hlen⟩ := hvalid
  have hclient' : s.world.clients id = some sk := hclient
  have hsend := h.sendbuf id sk hclient hup
  obtain ⟨rv, sendbuf, evs, e, hwrite, hsend', hsplit⟩ := sk_write_takes hsend hlen s.world.wsd_errno
  have hget := h.muxed.wf.get_of_client hclient
  have hapart : ∀ q ∈ s.world.pp2sk, q.1 ≠ id := by
    rintro q hq rfl
    cases hclient'.symm.trans (h.muxed.wf.backend q.1 q.2 hq).2.2
  have hset : s.world.set id { sk with sendbuf, events := evs } =
      { s.world with clients := Function.update s.world.clients id (some { sk with sendbuf, events := evs }) } :=
    World.set_client hapart
  refine ⟨rv, { s.setWorld { s.world with
      clients := Function.update s.world.clients id (some { sk with sendbuf, events := evs }), wsd_errno := e } with
    taken := Function.update s.taken id (s.taken id ++ sk.sendbuf.readable.take result.len) }, ?_, fun _ => ?_⟩
  · have hderef : s.world.deref id = .ok sk := World.deref_of_get hget
    simp only [RelayEvent.call, hderef, Except.ok_bind, Except.pure_eq_ok, Relay.write, hwrite, hset]
  · have hsame (j : Nat) :
        (Function.update s.world.clients id (some { sk with sendbuf, events := evs }) j).map
            (fun sk => (sk.core, sk.recvbuf)) = (s.world.clients j).map fun sk => (sk.core, sk.recvbuf) := by
      by_cases hid : j = id
      · rw [hid, Function.update_self, hclient']
        rfl
      · rw [Function.update_of_ne hid]
    refine ⟨?_, h.routes.congr fun j => ?_, h.backend, fun j skj hj hupj => ?_, ?_, fun j skj hj hupj => ?_⟩
    · rw [flatMap_snoc_of_nil rfl]
      exact h.muxed.of_same rfl rfl rfl hsame
    · have hmap := congrArg (Option.map Prod.fst) (hsame j)
      rwa [Option.map_map, Option.map_map] at hmap
    · change Function.update s.world.clients id _ j = some skj at hj
      by_cases hid : j = id
      · rw [hid, Function.update_self] at hj
        cases hj
        exact hsend'
      · rw [Function.update_of_ne hid] at hj
        exact h.sendbuf j skj hj hupj
    · rw [flatMap_snoc_of_nil rfl, flatMap_snoc_of_nil rfl]
      exact h.bytes
    · change Function.update s.world.clients id _ j = some skj at hj
      change Function.update s.taken id _ j ++ _ = _
      rw [flatMap_snoc_of_nil rfl]
      by_cases hid : j = id
      · rw [hid, Function.update_self] at hj
        cases hj
        rw [hid, Function.update_self, List.append_assoc, hsplit]
        exact h.taken id sk hclient hup
      · rw [Function.update_of_ne hid] at hj
        rw [Function.update_of_ne hid]
        exact h.taken j skj hj hupj

theorem Relayed.call (hw : w.Relays) (h : Relayed w events s) {event : RelayEvent} (hvalid : event.Valid s) :
    event.Keeps cfg opens w events s := by
  cases event with
  | mux event => exact h.mux hw hvalid
  | read bytes => exact h.read hvalid
  | recv frames next len => exact h.recv hvalid
  | write id result => exact h.write hvalid

theorem Relayed.init (hw : w.Relays) : Relayed w [] ((relay cfg opens w).init) where
  muxed := ⟨hw.multiplexes.wf, hw.multiplexes.backend, fun _ => rfl, hw.multiplexes.client, (List.append_nil _).symm,
    fun _ _ _ _ => List.append_nil _, by simp⟩
  routes := by
    refine ⟨hw.linked.mem_iff, fun id sk hclient => (hw.multiplexes.wf.client id sk hclient).1.encode_ne,
      fun id sk id' sk' hclient hclient' hup hup' hhash => ?_⟩
    exact hw.multiplexes.hashes id sk id' sk' hclient hclient'
      ((hw.multiplexes.wf.client id sk hclient).1.upgraded_iff.mp hup)
      ((hw.multiplexes.wf.client id' sk' hclient').1.upgraded_iff.mp hup') hhash
  backend := hw.backend
  sendbuf := hw.sendbuf
  bytes := List.append_nil _
  taken id sk hclient hup := by
    have hclient' : w.clients id = some sk := hclient
    rw [World.outgoing, hclient']
    exact (List.append_nil _).symm

/-- What holds after the calls of a run. -/
theorem path_relayed {path : List (Transition.Move Relay RelayEvent)} (hw : w.Relays)
    (hpath : (relay cfg opens w).Path (RelayEvent.Unhindered cfg opens) path s) :
    Relayed w (path.map Transition.Move.input) s := by
  refine hpath.invariant (I := fun path s => Relayed w (path.map Transition.Move.input) s) (.init hw) ?_
  intro path s s' event _ h hvalid hfree hs
  obtain ⟨rv, s1, hcall, hkept⟩ := @Relayed.call cfg opens _ _ _ hw h event hvalid
  have hs1 : s1 = s' := by
    simp only [relay, hcall, Except.ok_bind, Except.pure_eq_ok, Except.ok.injEq] at hs
    exact hs
  subst hs1
  rw [List.map_append, List.map_singleton]
  exact hkept hfree

/-- What holds of a client after the calls of a run. -/
theorem path_relayed_client {path : List (Transition.Move Relay RelayEvent)} {id : Nat} {sk : Sk} (hw : w.Relays)
    (hpath : (relay cfg opens w).Path (RelayEvent.Unhindered cfg opens) path s) (hclient : w.clients id = some sk)
    (hup : Upgraded sk) :
    ((((path.flatMap fun m => m.input.toMux).flatMap (·.sent w)).filter fun e => e.1.hash = sk.hash).map Prod.snd =
        ((path.flatMap fun m => m.input.toMux).flatMap (·.processed id)).map fun d => d.frame.payload) ∧
      w.unread id ++ (path.flatMap fun m => m.input.toMux).flatMap (·.arrived id) =
        Framing.stream DataFrame.bytes ((path.flatMap fun m => m.input.toMux).flatMap (·.processed id)) ++
          s.world.unread id ∧
      s.taken id ++ s.world.outgoing id =
        w.outgoing id ++ deliveries sk.hash (path.flatMap fun m => m.input.processed) := by
  obtain ⟨hmuxed, -, -, -, -, htaken⟩ := path_relayed hw hpath
  simp only [List.flatMap_map] at hmuxed htaken
  have hcore := hmuxed.cores id
  rw [hclient] at hcore
  obtain ⟨sk', hclient', hcore'⟩ := Option.map_eq_some_iff.mp hcore
  have hclient1 : s.world.clients id = some sk' := hclient'
  have hup' := hup.of_core hcore'
  have hhash : sk'.hash = sk.hash := congrArg Sk.Core.hash hcore'
  refine ⟨?_, hmuxed.bytes id sk' hclient' hup', ?_⟩
  · rw [List.filter_flatMap, List.map_flatMap, List.map_flatMap]
    refine List.flatMap_congr fun event hevent => ?_
    exact hmuxed.attributed event hevent id sk hclient hup
  · rw [World.outgoing, hclient1, ← hhash]
    exact htaken id sk' hclient' hup'

end Steps

/-- In every run of calls in both directions, in any order, none of which reports that it
    has to be made again: every call returns; towards the backend there are the PP2 frames
    of the processed frames in order, those with a client's hash carry that client's
    payloads in order, and the processed frames of a client are what arrived; the processed
    frames of the backend are what arrived; and towards a client there are the payloads of
    the frames with its hash in order and nothing else. -/
theorem relay_integrity {cfg : Config} {opens : List OpenResult} {w : World} {s : Relay}
    {path : List (Transition.Move Relay RelayEvent)} (hw : w.Relays)
    (hpath : (relay cfg opens w).Path (RelayEvent.Unhindered cfg opens) path s) :
    (∀ event : RelayEvent, event.Valid s → ∃ rv s', event.call cfg opens s = .ok (rv, s')) ∧
      s.muxing.written ++ s.world.queued = w.queued ++
        ((path.flatMap fun m => m.input.toMux).flatMap (·.sent w)).flatMap (fun e => pp2Frame e.1 e.2) ∧
      w.backlog ++ path.flatMap (fun m => m.input.arrived) =
        Framing.stream Pp2Item.bytes (path.flatMap fun m => m.input.processed) ++ s.world.backlog ∧
      ∀ id sk, w.clients id = some sk → Upgraded sk →
        ((((path.flatMap fun m => m.input.toMux).flatMap (·.sent w)).filter fun e => e.1.hash = sk.hash).map Prod.snd =
            ((path.flatMap fun m => m.input.toMux).flatMap (·.processed id)).map fun d => d.frame.payload) ∧
          w.unread id ++ (path.flatMap fun m => m.input.toMux).flatMap (·.arrived id) =
            Framing.stream DataFrame.bytes ((path.flatMap fun m => m.input.toMux).flatMap (·.processed id)) ++
              s.world.unread id ∧
          s.taken id ++ s.world.outgoing id =
            w.outgoing id ++ deliveries sk.hash (path.flatMap fun m => m.input.processed) := by
  obtain ⟨hmuxed, -, -, -, hbytes, -⟩ := path_relayed hw hpath
  simp only [List.flatMap_map] at hmuxed hbytes
  refine ⟨fun event hvalid => ?_, hmuxed.frames, hbytes, fun id sk hclient hup => path_relayed_client hw hpath hclient hup⟩
  obtain ⟨rv, s', hcall, -⟩ := @Relayed.call cfg opens _ _ _ hw (path_relayed hw hpath) event hvalid
  exact ⟨rv, s', hcall⟩

namespace Sample

/-- The two clients in the connection table. -/
def tabled : World :=
  { talkers with sk_hash := Function.update (fun _ => []) 0 [0, 1] }

theorem tabled_relays : tabled.Relays where
  multiplexes := ⟨⟨talkers_wf.client, talkers_wf.backend⟩, talkers_multiplex.backend, talkers_multiplex.client,
    talkers_multiplex.hashes⟩
  linked := by
    refine ⟨fun id sk h => ?_, fun bucket id => ?_, fun bucket => ?_⟩
    · exact (talkers_wf.client id sk h).2
    · change id ∈ Function.update (fun _ => []) 0 [0, 1] bucket ↔ ∃ sk, talkers.clients id = some sk ∧ _
      by_cases hbucket : bucket = 0
      · subst hbucket
        rw [Function.update_self]
        constructor
        · intro hid
          obtain rfl | rfl : id = 0 ∨ id = 1 := by simpa using hid
          · exact ⟨talker 6 0x0300000a 10, rfl, by decide⟩
          · exact ⟨talker 7 0x0100000a 11, rfl, by decide⟩
        · rintro ⟨sk, hclient, -⟩
          obtain ⟨rfl, -⟩ | ⟨rfl, -⟩ := talkers_clients hclient <;> decide
      · rw [Function.update_of_ne hbucket]
        refine iff_of_false (by simp) ?_
        rintro ⟨sk, hclient, hmin⟩
        obtain ⟨-, rfl⟩ | ⟨-, rfl⟩ := talkers_clients hclient
        · exact hbucket (hmin.symm.trans (by decide))
        · exact hbucket (hmin.symm.trans (by decide))
    · by_cases hbucket : bucket = 0
      · subst hbucket
        decide
      · change (Function.update (fun _ => []) 0 [0, 1] bucket).Nodup
        rw [Function.update_of_ne hbucket]
        exact List.nodup_nil
  backend p pp2sk h := by
    cases h
    exact ⟨by decide, Skb.ok_zero⟩
  sendbuf id sk h _ := by
    obtain ⟨-, rfl⟩ | ⟨-, rfl⟩ := talkers_clients h
    · exact Skb.ok_zero
    · exact Skb.ok_zero

/-- A frame of the backend for the given hash. -/
def itemFor (hash : UInt64) (payload : List UInt8) (h : payload.length < 4294967296) : Pp2Item where
  src := endpoint
  dst := endpoint
  hash := hash
  payload := payload
  fits := h

/-- A frame for the first client, one for no client, and one for the second client. -/
def first : Pp2Item :=
  itemFor 10 [104, 105] (by decide)

def stray : Pp2Item :=
  itemFor 99 [120] (by decide)

def second : Pp2Item :=
  itemFor 11 [121, 111] (by decide)

end Sample

/-- The second client's message goes to the backend while two frames and a part of a third
    one arrive from there; the first client takes one byte of its payload. -/
theorem relay_integrity_two : ∃ path s,
    (relay Sample.config [] Sample.tabled).Path (RelayEvent.Unhindered Sample.config []) path s ∧
      (s.taken 0).length = 1 ∧ s.taken 0 ++ s.world.outgoing 0 = wsFrame [104, 105] ∧
      s.taken 1 ++ s.world.outgoing 1 = [] ∧
      s.muxing.written ++ s.world.queued = pp2Frame (Sample.talker 7 0x0100000a 11) [104, 105] := by
  obtain ⟨path, s, hpath, htaken, hsent, hfirst, hsecond⟩ :=
    Transition.System.exists_path (relay Sample.config [] Sample.tabled) (P := RelayEvent.Unhindered Sample.config [])
      (B := fun path s => (s.taken 0).length = 1 ∧
        (((path.flatMap fun m => m.input.toMux).flatMap (·.sent Sample.tabled)).flatMap fun e => pp2Frame e.1 e.2) =
          pp2Frame (Sample.talker 7 0x0100000a 11) [104, 105] ∧
        deliveries 10 (path.flatMap fun m => m.input.processed) = wsFrame [104, 105] ∧
        deliveries 11 (path.flatMap fun m => m.input.processed) = [])
      [.mux (.read 1 Sample.textData.bytes), .read (Sample.first.bytes ++ Sample.stray.bytes ++ Sample.second.bytes.take 5),
        .recv [Sample.first, Sample.stray] Sample.second 5, .mux (.recv 1 [Sample.textData]), .write 0 (.ok 1),
        .mux (.write (.ok 10))] (by decide +kernel)
  obtain ⟨-, hwritten, -, hclients⟩ := relay_integrity Sample.tabled_relays hpath
  have htoFirst := (hclients 0 (Sample.talker 6 0x0300000a 10) rfl ⟨rfl, rfl, rfl, rfl, rfl⟩).2.2
  have htoSecond := (hclients 1 (Sample.talker 7 0x0100000a 11) rfl ⟨rfl, rfl, rfl, rfl, rfl⟩).2.2
  refine ⟨path, s, hpath, htaken, ?_, ?_, ?_⟩
  · rw [htoFirst]
    exact hfirst
  · rw [htoSecond]
    exact hsecond
  · rw [hwritten, hsent]
    rfl

end wsd
