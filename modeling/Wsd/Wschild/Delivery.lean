import Wsd.Wschild.Complete
import Wsd.Wschild.Table

namespace wsd

/-- The websocket frames with the payloads for a hash, in order. -/
def deliveries (hash : UInt64) (frames : List Pp2Item) : List UInt8 :=
  (frames.filter fun f => f.hash = hash).flatMap fun f => wsFrame f.payload

theorem deliveries_append (hash : UInt64) (done left : List Pp2Item) :
    deliveries hash (done ++ left) = deliveries hash done ++ deliveries hash left := by
  rw [deliveries, List.filter_append, List.flatMap_append]
  rfl

theorem deliveries_of_eq {f : Pp2Item} {hash : UInt64} (h : f.hash = hash) : deliveries hash [f] = wsFrame f.payload := by
  simp [deliveries, h]

theorem deliveries_of_ne {f : Pp2Item} {hash : UInt64} (h : f.hash ≠ hash) : deliveries hash [f] = [] := by
  simp [deliveries, h]

/-- The client takes payloads of the backend in websocket frames. -/
def Sk.Encodes (sk : Sk) : Prop :=
  sk.proto.encode_frame = some .ws_encode_frame

/-- A chain holds the open clients of its bucket, and no two clients which take payloads
    have the same hash. -/
structure Routes (clients : Nat → Option Sk) (sk_hash : Nat → List Nat) : Prop where
  mem_iff : ∀ bucket id, id ∈ sk_hash bucket ↔ ∃ sk, clients id = some sk ∧ hash_min sk.hash = bucket
  encode_ne : ∀ id sk, clients id = some sk → sk.proto.encode_frame ≠ some .pp2_encode_frame
  unique : ∀ id sk id' sk', clients id = some sk → clients id' = some sk' → sk.Encodes → sk'.Encodes →
    sk.hash = sk'.hash → id = id'

/-- Each client which takes payloads has the ones with its hash appended to what waits
    for it; the others are as they were. -/
structure Distributed (clients clients' : Nat → Option Sk) (frames : List Pp2Item) : Prop where
  closed : ∀ id, clients id = none → clients' id = none
  waiting : ∀ id sk, clients id = some sk → ¬ sk.Encodes → clients' id = some sk
  taking : ∀ id sk, clients id = some sk → sk.Encodes → ∃ sendbuf events,
    clients' id = some { sk with sendbuf, events } ∧ (sk.sendbuf.Ok →
      sendbuf.Ok ∧ sendbuf.readable = sk.sendbuf.readable ++ deliveries sk.hash frames)

/-- Whether there is room for one frame of several. -/
def serves (clients : Nat → Option Sk) (sk_hash : Nat → List Nat) (frames : List Pp2Item) (f : Pp2Item) : Bool :=
  hash_min f.hash < HASH_SIZE &&
    match hash_lookup clients sk_hash f.hash with
    | .error _ => false
    | .ok none => true
    | .ok (some (_, cl)) => cl.proto.encode_frame = some .ws_encode_frame &&
        (cl.sendbuf.rdpos ≤ cl.sendbuf.wrpos && cl.sendbuf.wrpos ≤ SKB_SIZE) &&
          space f.hash frames ≤ skb_wrsz cl.sendbuf

theorem serves_iff {clients : Nat → Option Sk} {sk_hash : Nat → List Nat} {frames : List Pp2Item} :
    frames.all (serves clients sk_hash frames) = true ↔ Serves clients sk_hash frames := by
  rw [List.all_eq_true]
  refine forall₂_congr fun f _ => ?_
  rw [serves, Bool.and_eq_true, decide_eq_true_iff]
  cases hlookup : hash_lookup clients sk_hash f.hash with
  | error e => simp
  | ok found =>
    cases found with
    | none => simp
    | some found =>
      obtain ⟨id, cl⟩ := found
      have hok : cl.sendbuf.Ok ↔ cl.sendbuf.rdpos ≤ cl.sendbuf.wrpos ∧ cl.sendbuf.wrpos ≤ SKB_SIZE :=
        ⟨fun h => ⟨h.1, h.2⟩, fun h => ⟨h.1, h.2⟩⟩
      simp [hok, and_assoc]

instance (clients : Nat → Option Sk) (sk_hash : Nat → List Nat) (frames : List Pp2Item) :
    Decidable (Serves clients sk_hash frames) :=
  decidable_of_iff _ serves_iff

section Distributed

variable {clients clients' clients'' : Nat → Option Sk} {sk_hash : Nat → List Nat} {frames done left : List Pp2Item}
  {id : Nat} {sk sk' : Sk}

theorem Distributed.nil : Distributed clients clients [] where
  closed _ h := h
  waiting _ _ h _ := h
  taking _ sk h _ := ⟨sk.sendbuf, sk.events, h, fun hok => ⟨hok, (List.append_nil _).symm⟩⟩

theorem Distributed.trans (h : Distributed clients clients' done) (h' : Distributed clients' clients'' left) :
    Distributed clients clients'' (done ++ left) where
  closed id hclient := h'.closed id (h.closed id hclient)
  waiting id sk hclient hup := h'.waiting id sk (h.waiting id sk hclient hup) hup
  taking id sk hclient hup := by
    obtain ⟨sendbuf, events, hclient', hput⟩ := h.taking id sk hclient hup
    obtain ⟨sendbuf', events', hclient'', hput'⟩ := h'.taking id _ hclient' hup
    refine ⟨sendbuf', events', hclient'', fun hok => ?_⟩
    obtain ⟨hok', hread⟩ := hput hok
    obtain ⟨hok'', hread'⟩ := hput' hok'
    refine ⟨hok'', ?_⟩
    rw [hread', hread, deliveries_append, List.append_assoc]

/-- The sockets keep everything but their send buffers and interest sets. -/
theorem Distributed.same (h : Distributed clients clients' frames) (id : Nat) :
    (clients' id).map (fun sk => (sk.core, sk.recvbuf)) = (clients id).map fun sk => (sk.core, sk.recvbuf) := by
  cases hclient : clients id with
  | none => rw [h.closed id hclient]
  | some sk =>
    by_cases hup : sk.Encodes
    · obtain ⟨sendbuf, events, hclient', -⟩ := h.taking id sk hclient hup
      rw [hclient']
      rfl
    · rw [h.waiting id sk hclient hup]

theorem Distributed.core (h : Distributed clients clients' frames) (id : Nat) :
    (clients' id).map Sk.core = (clients id).map Sk.core := by
  have hsame := congrArg (Option.map Prod.fst) (h.same id)
  rwa [Option.map_map, Option.map_map] at hsame

/-- Which client a frame goes to depends on the sockets' hashes and handlers only. -/
theorem Routes.congr (h : Routes clients sk_hash) (hcore : ∀ id, (clients' id).map Sk.core = (clients id).map Sk.core) :
    Routes clients' sk_hash := by
  have hfirst (id : Nat) (sk : Sk) (hclient : clients' id = some sk) :
      ∃ sk0, clients id = some sk0 ∧ sk0.core = sk.core := by
    have hmap := hcore id
    rw [hclient] at hmap
    exact Option.map_eq_some_iff.mp hmap.symm
  refine ⟨fun bucket id => ?_, fun id sk hclient => ?_, fun id sk id' sk' hclient hclient' hup hup' hhash => ?_⟩
  · rw [h.mem_iff]
    constructor
    · rintro ⟨sk0, hclient0, hmin⟩
      have hmap := hcore id
      rw [hclient0] at hmap
      obtain ⟨sk, hclient, hsame⟩ := Option.map_eq_some_iff.mp hmap
      have hhash : sk.hash = sk0.hash := congrArg Sk.Core.hash hsame
      exact ⟨sk, hclient, hhash ▸ hmin⟩
    · rintro ⟨sk, hclient, hmin⟩
      obtain ⟨sk0, hclient0, hsame⟩ := hfirst id sk hclient
      have hhash : sk0.hash = sk.hash := congrArg Sk.Core.hash hsame
      exact ⟨sk0, hclient0, hhash ▸ hmin⟩
  · obtain ⟨sk0, hclient0, hsame⟩ := hfirst id sk hclient
    have hproto : sk0.proto = sk.proto := congrArg Sk.Core.proto hsame
    exact hproto ▸ h.encode_ne id sk0 hclient0
  · obtain ⟨sk0, hclient0, hsame⟩ := hfirst id sk hclient
    obtain ⟨sk0', hclient0', hsame'⟩ := hfirst id' sk' hclient'
    have hproto : sk0.proto = sk.proto := congrArg Sk.Core.proto hsame
    have hproto' : sk0'.proto = sk'.proto := congrArg Sk.Core.proto hsame'
    have hhash0 : sk0.hash = sk.hash := congrArg Sk.Core.hash hsame
    have hhash0' : sk0'.hash = sk'.hash := congrArg Sk.Core.hash hsame'
    unfold Sk.Encodes at hup hup'
    refine h.unique id sk0 id' sk0' hclient0 hclient0' ?_ ?_ (by rw [hhash0, hhash0', hhash])
    · rw [Sk.Encodes, hproto, hup]
    · rw [Sk.Encodes, hproto', hup']

/-- A hash which is not found is no open client's. -/
theorem Routes.not_found (h : Routes clients sk_hash) {hash : UInt64}
    (hlookup : hash_lookup clients sk_hash hash = .ok none) (hclient : clients id = some sk) :
    sk.hash ≠ hash := by
  intro hhash
  have hopen : ∀ id ∈ sk_hash (hash_min hash), ∃ sk, clients id = some sk := by
    intro id hid
    obtain ⟨sk, hclient, -⟩ := (h.mem_iff _ id).mp hid
    exact ⟨sk, hclient⟩
  obtain ⟨found, hfound, hnone⟩ := hash_for_each_possible_ends hash hopen
  rw [← hash_lookup_of_near (hash_lookup_near hlookup), hlookup] at hfound
  cases hfound
  exact hnone rfl id ((h.mem_iff _ id).mpr ⟨sk, hclient, by rw [hhash]⟩) sk hclient hhash

end Distributed

section Frame

variable {m m' : Mux} {f : Pp2Item} {rest : List UInt8}

/-- A frame for no client is appended nowhere. -/
theorem distributed_skipped (hroutes : Routes m.clients m.sk_hash)
    (hlookup : hash_lookup m.clients m.sk_hash f.hash = .ok none) :
    Distributed m.clients m.clients [f] where
  closed _ h := h
  waiting _ _ h _ := h
  taking id sk h _ := by
    have hne := hroutes.not_found hlookup h
    refine ⟨sk.sendbuf, sk.events, h, fun hok => ⟨hok, ?_⟩⟩
    rw [deliveries_of_ne hne.symm, List.append_nil]

/-- A frame whose client is found is appended there and nowhere else. -/
theorem distributed_update (hroutes : Routes m.clients m.sk_hash) {id : Nat} {cl : Sk}
    (hlookup : hash_lookup m.clients m.sk_hash f.hash = .ok (some (id, cl)))
    (hencode : cl.Encodes) {sendbuf : Skb} (events : EpollEvents) (hok : sendbuf.Ok)
    (hread : sendbuf.readable = cl.sendbuf.readable ++ wsFrame f.payload) :
    Distributed m.clients (Function.update m.clients id (some { cl with sendbuf, events })) [f] := by
  obtain ⟨-, hclient, hhash⟩ := hash_lookup_found hlookup
  refine ⟨fun j hj => ?_, fun j sk hj hup => ?_, fun j sk hj hup => ?_⟩
  · rw [Function.update_of_ne, hj]
    rintro rfl
    rw [hclient] at hj
    cases hj
  · rw [Function.update_of_ne, hj]
    rintro rfl
    rw [hclient] at hj
    cases hj
    exact hup hencode
  · by_cases hid : j = id
    · subst hid
      rw [hclient] at hj
      cases hj
      refine ⟨sendbuf, events, Function.update_self .., fun _ => ⟨hok, ?_⟩⟩
      rw [hread, deliveries_of_eq hhash.symm]
    · refine ⟨sk.sendbuf, sk.events, by rw [Function.update_of_ne hid, hj], fun hsend => ⟨hsend, ?_⟩⟩
      have hne : f.hash ≠ sk.hash := by
        intro hsame
        exact hid (hroutes.unique j sk id cl hj hclient hup hencode (by rw [hhash, hsame]))
      rw [deliveries_of_ne hne, List.append_nil]

/-- A complete frame with a byte behind its header goes to the client with its hash. -/
theorem pp2_decode_frame_distributes {left : List Pp2Item} (hok : m.pp2sk.recvbuf.Ok)
    (hread : m.pp2sk.recvbuf.readable = f.bytes ++ rest) (hne : f.payload ++ rest ≠ [])
    (hroutes : Routes m.clients m.sk_hash) (hserves : Serves m.clients m.sk_hash (f :: left)) :
    ∃ clients recvbuf, pp2_decode_frame m = .ok (0, { m with clients, pp2sk := { m.pp2sk with recvbuf } }) ∧
      recvbuf.Ok ∧ recvbuf.readable = rest ∧ Serves clients m.sk_hash left ∧ Distributed m.clients clients [f] := by
  obtain ⟨clients, recvbuf, hdecode, hok', hrest, hleft⟩ := pp2_decode_frame_item hok hread hne hserves
  refine ⟨clients, recvbuf, hdecode, hok', hrest, hleft, ?_⟩
  obtain ⟨hnear, hserved⟩ := hserves f List.mem_cons_self
  have hlength := hok.length_readable_eq
  have hsize := hok.rdsz_le
  unfold SKB_SIZE at hsize
  have htotal := congrArg List.length hread
  rw [List.length_append, f.length_bytes] at htotal
  have hat : Pp2At m.pp2sk.recvbuf.readable f.hash f.payload.length :=
    ⟨f.src, f.dst, [], f.payload ++ rest, by rw [List.append_nil, hread, Pp2Item.bytes, List.append_assoc]⟩
  obtain hnone | ⟨id, cl, hlookup, hencode, hsend, hroom⟩ := hserved
  · have hsame : clients = m.clients := by
      funext j
      have hdemuxed := pp2_decode_frame_inv hok hroutes.encode_ne hdecode
      cases hclient : m.clients j with
      | none =>
        cases hclient' : clients j with
        | none => rfl
        | some cl' =>
          obtain ⟨cl, hcl, -⟩ := hdemuxed.clients_core (j := j) hclient'
          rw [hclient] at hcl
          cases hcl
      | some cl =>
        cases hclient' : clients j with
        | none =>
          have hgone := hdemuxed.clients_none (j := j) hclient'
          rw [hclient] at hgone
          cases hgone
        | some cl' =>
          obtain rfl | ⟨-, hash, len, rest', sendbuf, haccepted, -, hlookup, -⟩ := hdemuxed.client_cases hclient hclient'
          · rfl
          · rw [hat.hash_eq f.fits haccepted, hnone] at hlookup
            cases hlookup
    rw [hsame]
    exact distributed_skipped hroutes hnone
  · have haccepted := hat.accepted (by omega) (hash_lt_of_near hnear) (by omega)
    rw [hread, Pp2Item.bytes, List.append_assoc, List.drop_left' (length_pp2Header ..)] at haccepted
    rw [← List.append_assoc, ← Pp2Item.bytes, ← hread] at haccepted
    have htake : (f.payload ++ rest).take f.payload.length = f.payload := List.take_left
    have hdelivers := haccepted.delivers hok hne (by rw [List.length_append]; omega) hlookup hencode hsend (by
      rw [space_cons_of_eq rfl] at hroom
      rw [htake]
      omega)
    rw [htake] at hdelivers
    obtain ⟨m', sendbuf, events, hdecode', hclients, hsend', hput, -⟩ := hdelivers
    rw [hdecode] at hdecode'
    cases hdecode'
    change clients = _ at hclients
    rw [hclients]
    exact distributed_update hroutes hlookup hencode events hsend' hput

end Frame

section Loop

variable {w : World} {id : Nat} {sk : Sk}

/-- The loop hands the complete frames to their clients. -/
theorem decode_loop_distributes {done : List Pp2Item} {part : List UInt8} {fuel frames : Nat} (h : w.Receives id sk)
    (hroutes : Routes w.clients w.sk_hash) (hserves : Serves w.clients w.sk_hash done)
    (hread : sk.recvbuf.readable = Framing.stream Pp2Item.bytes done ++ part)
    (hlast : ∀ f ∈ done.getLast?, f.payload = [] → part ≠ []) (hfuel : done.length ≤ fuel) :
    ∃ clients recvbuf, decode_loop id (fuel + 1) frames w =
        decode_loop id (fuel - done.length + 1) (frames + done.length)
          { w with clients, pp2sk := some (id, { sk with recvbuf }) } ∧
      recvbuf.Ok ∧ recvbuf.readable = part ∧ Distributed w.clients clients done := by
  induction done generalizing w sk fuel frames with
  | nil =>
    refine ⟨w.clients, sk.recvbuf, ?_, h.recvbuf, hread, .nil⟩
    have hself : { w with clients := w.clients, pp2sk := some (id, sk) } = w := by
      rw [← h.pp2sk]
    rw [hself]
    rfl
  | cons f done ih =>
    obtain ⟨fuel, rfl⟩ : ∃ fuel', fuel = fuel' + 1 := ⟨fuel - 1, by simp only [List.length_cons] at hfuel; omega⟩
    rw [Framing.stream_cons, List.append_assoc] at hread
    have hne : f.payload ++ (Framing.stream Pp2Item.bytes done ++ part) ≠ [] := by
      intro hnil
      obtain ⟨hpayload, htail⟩ := List.append_eq_nil_iff.mp hnil
      obtain ⟨hdone, hpart⟩ := List.append_eq_nil_iff.mp htail
      cases done with
      | nil => exact hlast f rfl hpayload hpart
      | cons g done =>
        have hlen := congrArg List.length hdone
        rw [Framing.stream_cons, List.length_append, g.length_bytes, List.length_nil] at hlen
        have hheader : PP2_HEADER_LEN = 46 := rfl
        omega
    obtain ⟨clients, recvbuf, hdecode, hok, hrest, hserves', hgiven⟩ := @pp2_decode_frame_distributes
      { clients := w.clients, sk_hash := w.sk_hash, pp2sk := sk, wsd_errno := w.wsd_errno } f _ done
      h.recvbuf hread hne hroutes hserves
    have hset : w.setMux { clients, sk_hash := w.sk_hash, pp2sk := { sk with recvbuf }, wsd_errno := w.wsd_errno } =
        { w with clients, pp2sk := some (id, { sk with recvbuf }) } := by
      simp only [World.setMux, h.pp2sk, Option.map_some]
    have hnext : World.Receives { w with clients, pp2sk := some (id, { sk with recvbuf }) } id { sk with recvbuf } :=
      ⟨rfl, h.decode_frame, h.fd, hok⟩
    have hlast' : ∀ g ∈ done.getLast?, g.payload = [] → part ≠ [] := by
      intro g hg
      apply hlast g
      cases done with
      | nil => cases hg
      | cons g' done => rwa [List.getLast?_cons_cons]
    obtain ⟨clients', recvbuf', hloop, hok', hpart, hgiven'⟩ := @ih _ _ fuel (frames + 1) hnext (hroutes.congr hgiven.core)
      hserves' hrest hlast' (by simp only [List.length_cons] at hfuel; omega)
    refine ⟨clients', recvbuf', ?_, hok', hpart, hgiven.trans hgiven'⟩
    rw [decode_loop, h.decode_frame_eq, hdecode]
    simp only [Except.ok_bind, Except.pure_eq_ok, if_true]
    rw [hset, hloop, List.length_cons]
    congr 1 <;> omega

/-- `pp2_recv` hands the complete frames to their clients, but for a last one without a
    payload, and leaves the rest. -/
theorem pp2_recv_distributes {done left : List Pp2Item} {part rest : List UInt8} (h : w.Receives id sk)
    (hroutes : Routes w.clients w.sk_hash) (hserves : Serves w.clients w.sk_hash done)
    (hread : sk.recvbuf.readable = Framing.stream Pp2Item.bytes done ++ part) (hne : sk.recvbuf.readable ≠ [])
    (hlast : ∀ f ∈ done.getLast?, f.payload = [] → part ≠ [])
    (hrest : part ++ rest = Framing.stream Pp2Item.bytes left) (hstop : Stops left part) :
    ∃ clients recvbuf events wsd_errno, pp2_recv w id =
        .ok (-1, { w with clients, pp2sk := some (id, { sk with recvbuf, events }), wsd_errno }) ∧
      recvbuf.Ok ∧ recvbuf.readable = part ∧ Distributed w.clients clients done := by
  have hget := World.get_backend h.pp2sk
  have hrdsz : skb_rdsz sk.recvbuf ≠ 0 := fun hzero => hne (h.recvbuf.readable_eq_nil_iff.mpr hzero)
  have hfuel : done.length ≤ skb_rdsz sk.recvbuf := by
    have hle : done.length ≤ (Framing.stream Pp2Item.bytes done).length :=
      Framing.length_le_stream (fun f => by rw [f.length_bytes]; exact Nat.le_add_right_of_le (by decide)) done
    rw [← h.recvbuf.length_readable_eq, hread, List.length_append]
    omega
  obtain ⟨clients, recvbuf, hloop, hok, hpart, hgiven⟩ := @decode_loop_distributes _ _ _ _ _ (skb_rdsz sk.recvbuf) 0 h
    hroutes hserves hread hlast hfuel
  have h1 : World.Receives { w with clients, pp2sk := some (id, { sk with recvbuf }) } id { sk with recvbuf } :=
    ⟨rfl, h.decode_frame, h.fd, hok⟩
  obtain ⟨e, hend⟩ := @decode_loop_stop _ _ _ left rest (skb_rdsz sk.recvbuf - done.length) (0 + done.length) h1
    (by rw [hpart]; exact hrest) (by rw [hpart]; exact hstop)
  obtain ⟨events, hleave⟩ := pp2_recv_leave_eq (0 + done.length) { sk with recvbuf }
  refine ⟨clients, recvbuf, events, e, ?_, hok, hpart, hgiven⟩
  unfold pp2_recv pp2_recv_enter
  rw [World.deref_of_get hget]
  simp only [Except.ok_bind, ne_eq, hrdsz, not_false_eq_true, decide_true, assert_true, h.pp2sk, Option.isSome_some]
  rw [recv_fuel, hget]
  simp only
  rw [hloop, hend]
  simp only [Except.ok_bind]
  rw [World.deref_of_get (World.get_backend rfl)]
  simp only [Except.ok_bind, hleave, Except.pure_eq_ok]
  rw [World.set_backend rfl]

end Loop

end wsd
