import Wsd.Wscat.Incoming
import Wsd.Wschild.Relay

namespace wsd

open Transition

theorem Frame.masked_ne_nil (f : Frame) (key : UInt32) : f.masked key ≠ [] := by
  intro hnil
  have hlen := f.length_masked key
  rw [hnil, List.length_nil] at hlen
  omega

/-- The frames which a client's bytes start with are the first ones which have been sent. -/
theorem maskedStream_split {done : List DataFrame} {rest : List UInt8} {frames : List (Frame × UInt32)}
    (h : Framing.stream DataFrame.bytes done ++ rest = maskedStream frames) :
    ∃ left, frames = done.map (fun d => (d.frame, d.key)) ++ left ∧ rest = maskedStream left := by
  have hdone : Framing.stream DataFrame.bytes done =
      Framing.stream (fun f : Frame × UInt32 => f.1.masked f.2) (done.map fun d => (d.frame, d.key)) := by
    rw [Framing.stream, Framing.stream, List.flatMap_map]
    rfl
  rw [hdone] at h
  refine Framing.exists_left (fun f => f.1.masked_ne_nil f.2) (fun f g tail tail' heq => ?_) h
  obtain ⟨hframe, hkey, htail⟩ := Frame.masked_inj heq
  exact ⟨Prod.ext hframe hkey, htail⟩

theorem sentData_dataFrames (done : List DataFrame) :
    sentData (done.map fun d => (d.frame, d.key)) = (done.map fun d => d.frame.payload).flatten := by
  induction done with
  | nil => rfl
  | cons d done ih =>
    rw [List.map_cons, List.map_cons, List.flatten_cons, ← ih, ← List.singleton_append, sentData_append]
    congr 1
    simp [sentData, payloads, d.data]

section Conversation

variable {no_handshake : Bool} {idle ping fd : Int} {request : List UInt8} {broken : Bool} {opt : Options}
  {P : wscat.State → wscat.Env → Prop} {wpath : List (Move wscat.State wscat.Env)} {s : wscat.State} {wssk : Sk}
  {cfg : Config} {opens : List OpenResult} {w : World} {rpath : List (Move Relay RelayEvent)} {r : Relay} {id : Nat}
  {sk : Sk} {wire : List UInt8}

/-- The payloads which are forwarded to the backend under a hash. -/
def uploads (w : World) (hash : UInt64) (rpath : List (Move Relay RelayEvent)) : List (List UInt8) :=
  (((rpath.flatMap fun m => m.input.toMux).flatMap (·.sent w)).filter fun e => e.1.hash = hash).map Prod.snd

/-- The payloads of the backend's frames for a hash. -/
def downloads (hash : UInt64) (rpath : List (Move Relay RelayEvent)) : List (List UInt8) :=
  ((rpath.flatMap fun m => m.input.processed).filter fun f => f.hash = hash).map Pp2Item.payload

/-- The bytes of a client which have been read. -/
def upstream (id : Nat) (rpath : List (Move Relay RelayEvent)) : List UInt8 :=
  (rpath.flatMap fun m => m.input.toMux).flatMap (·.arrived id)

/-- What is typed into wscat reaches the backend: the payloads which are forwarded there under the client's hash are
    what has been typed, but for what is in frames on the way and what waits behind the standard input. -/
theorem typed_reaches_backend (hrequest : request.length ≤ SKB_SIZE)
    (hwscat : (wscat.program (options false no_handshake idle ping (-1)) fd request broken).Path
      (wscat.Contained (options false no_handshake idle ping (-1))) wpath s)
    (hwssk : s.c.wssk = some wssk) (hkept : ∀ m ∈ wpath, wscat.DropsInput m → wscat.pending m.before.c = [])
    (hw : w.Relays) (hrelay : (relay cfg opens w).Path (RelayEvent.Unhindered cfg opens) rpath r)
    (hclient : w.clients id = some sk) (hup : Upgraded sk) (hfresh : w.unread id = [])
    (hwire : wscat.written wpath = request ++ (upstream id rpath ++ wire)) :
    ∃ left, (uploads w sk.hash rpath).flatten ++ sentData left ++ wscat.pending s.c = wscat.input wpath ∧
      r.world.unread id ++ wire ++ wssk.sendbuf.readable = maskedStream left := by
  obtain ⟨frames, hwritten, hinput⟩ := (wscat.path_conserved hrequest hwscat).delivers hkept wssk hwssk
  obtain ⟨hpayloads, harrived, -⟩ := path_relayed_client hw hrelay hclient hup
  rw [hfresh, List.nil_append] at harrived
  rw [hwire, List.append_assoc] at hwritten
  have hsent := List.append_cancel_left hwritten
  rw [upstream, harrived, List.append_assoc, List.append_assoc] at hsent
  obtain ⟨left, rfl, hleft⟩ := maskedStream_split hsent
  refine ⟨left, ?_, ?_⟩
  · rw [← hinput, sentData_append, sentData_dataFrames, uploads, hpayloads]
  · rw [List.append_assoc, hleft]

/-- A frame of the backend as it goes to a client. -/
def Pp2Item.toFrame (f : Pp2Item) : Frame :=
  .text f.payload (Nat.lt_trans f.fits (by decide))

theorem Pp2Item.unmasked_toFrame (f : Pp2Item) : f.toFrame.unmasked = wsFrame f.payload :=
  Frame.unmasked_eq _

theorem stream_toFrame (items : List Pp2Item) :
    Framing.stream Frame.unmasked (items.map Pp2Item.toFrame) = items.flatMap fun f => wsFrame f.payload := by
  rw [Framing.stream, List.flatMap_map]
  exact List.flatMap_congr fun f _ => f.unmasked_toFrame

theorem printedOf_toFrame (items : List Pp2Item) :
    printedOf (items.map Pp2Item.toFrame) = (items.map Pp2Item.payload).flatten := by
  induction items with
  | nil => rfl
  | cons f items ih =>
    rw [List.map_cons, List.map_cons, List.flatten_cons, ← ih, ← List.singleton_append, printedOf_append]
    congr 1
    have hdata : IsData f.toFrame.opcode := Frame.isData_text f.payload _
    simp [printedOf, payloads, hdata]
    rfl

/-- What the backend sends for a client's hash is printed: the payloads for the hash are what is printed, and those
    which are in frames on the way. A frame which has arrived as a whole is printed. -/
theorem backend_reaches_stdout (hwscat : (wscat.program opt fd request broken).Path P wpath s) (hw : w.Relays)
    (hrelay : (relay cfg opens w).Path (RelayEvent.Unhindered cfg opens) rpath r) (hclient : w.clients id = some sk)
    (hup : Upgraded sk) (hflushed : w.outgoing id = []) (hwire : wscat.received wpath ++ wire = r.taken id) :
    ∃ shown left, downloads sk.hash rpath = shown ++ left ∧ s.c.stdout.printed = shown.flatten ∧
      (s.c.recv = .wssk_ws_recv → ∀ wssk, s.c.wssk = some wssk →
        wssk.recvbuf.readable ++ wire ++ r.world.outgoing id = left.flatMap wsFrame ∧
          ∀ payload ∈ left.head?, wssk.recvbuf.readable.length < (wsFrame payload).length) := by
  obtain ⟨frames, unread, hin, -⟩ := wscat.path_incoming hwscat
  obtain ⟨-, -, htaken⟩ := path_relayed_client hw hrelay hclient hup
  rw [hflushed, List.nil_append, ← hwire, deliveries, ← stream_toFrame, List.append_assoc] at htaken
  cases hrecv : s.c.recv with
  | wssk_http_recv =>
    obtain ⟨rfl, -⟩ := hin.http hrecv
    exact ⟨[], _, rfl, hin.printed, fun hws => absurd hws (by decide)⟩
  | wssk_ws_recv =>
    have hdata : ∀ f ∈ ((rpath.flatMap fun m => m.input.processed).filter fun f => f.hash = sk.hash).map
        Pp2Item.toFrame, IsData f.opcode := by
      intro f hf
      obtain ⟨item, -, rfl⟩ := List.mem_map.mp hf
      exact Frame.isData_text item.payload _
    obtain ⟨rest, hitems, hrest⟩ := (hin.hears hrecv).of_stream hdata htaken
    obtain ⟨done, left, hsplit, rfl, rfl⟩ := List.map_eq_append_iff.mp hitems
    refine ⟨done.map Pp2Item.payload, left.map Pp2Item.payload, ?_, ?_, fun _ wssk hwssk => ⟨?_, fun payload hfirst => ?_⟩⟩
    · rw [downloads, hsplit, List.map_append]
    · rw [hin.printed, printedOf_toFrame]
    · rw [hin.rest wssk hwssk, List.append_assoc, hrest, stream_toFrame, List.flatMap_map]
    · cases left with
      | nil => cases hfirst
      | cons f left =>
        cases hfirst
        rw [hin.rest wssk hwssk, ← f.unmasked_toFrame]
        by_contra hlong
        -- The whole frame would have been heard.
        apply hin.whole hrecv (by rw [hwssk]; rfl)
        have htake := congrArg (List.take f.toFrame.unmasked.length) hrest
        rw [List.map_cons, Framing.stream_cons, List.take_left,
          List.take_append_of_le_length (Nat.not_lt.mp hlong)] at htake
        refine ⟨f.toFrame, unread.drop f.toFrame.unmasked.length, ?_⟩
        rw [← htake, List.length_take, Nat.min_eq_left (Nat.not_lt.mp hlong), List.take_append_drop]

end Conversation

namespace Sample

/-- A client's frame as wscat masks it. -/
def typedData (payload : List UInt8) (h : payload.length < 18446744073709551616) : DataFrame where
  frame := .text payload h
  key := 0xdeadbeef
  data := Frame.isData_text payload h

def hello : DataFrame :=
  typedData [104, 105] (by decide)

def again : DataFrame :=
  typedData [121, 111] (by decide)

/-- Two lines are typed, and the server takes the request, the first frame and a half of the second one. -/
def typing : List wscat.Env :=
  wscat.Session.connected ++ wscat.Session.iteration 9 .fdin EPOLLIN { read := .ok [104, 105] } ++
    wscat.Session.iteration 9 .fdin EPOLLIN { read := .ok [121, 111] } ++
    wscat.Session.iteration 9 .wssk EPOLLOUT { write := .ok 15 }

/-- The first frame arrives and goes to the backend, and then a byte of the second one arrives. -/
def uploading : List RelayEvent :=
  [.mux (.read 1 hello.bytes), .mux (.recv 1 [hello]), .mux (.write (.ok 10)), .mux (.read 1 (again.bytes.take 1))]

/-- Two frames for the second client arrive, of which it takes the first one and three bytes of the second one. -/
def downloading : List RelayEvent :=
  [.read (second.bytes ++ second.bytes ++ first.bytes.take 5), .recv [second, second] first 5, .write 1 (.ok 7)]

/-- A frame and a byte of the next one arrive behind the response. -/
def reading : List wscat.Env :=
  wscat.Session.connected ++
    wscat.Session.iteration 9 .wssk EPOLLIN { read := .ok (wsFrame [121, 111] ++ (wsFrame [121, 111]).take 1) }

end Sample

/-- The first line is at the backend, and the second one on the way. -/
theorem typed_reaches_backend_sample :
    ∃ (wpath : List (Move wscat.State wscat.Env)) (s : wscat.State) (rpath : List (Move Relay RelayEvent)),
      uploads Sample.tabled 11 rpath = [[104, 105]] ∧ ∃ left,
        (uploads Sample.tabled 11 rpath).flatten ++ sentData left ++ wscat.pending s.c = wscat.input wpath ∧
          maskedStream left ≠ [] := by
  obtain ⟨wpath, s, hwscat, hwritten, hkept, wssk, hwssk, hbuffer⟩ :=
    @System.exists_path _ _ _ (wscat.Contained (options false false (-1) (-1) (-1)))
      (wscat.program (options false false (-1) (-1) (-1)) 3 (ascii "GET") false) _ _
      (fun path s => wscat.written path = ascii "GET" ++ (Sample.hello.bytes ++ Sample.again.bytes.take 4) ∧
        (∀ m ∈ path, wscat.DropsInput m → wscat.pending m.before.c = []) ∧
        ∃ wssk ∈ s.c.wssk, wssk.sendbuf.readable.length = 4) _ Sample.typing (by decide +kernel)
  obtain ⟨rpath, r, hrelay, hupstream, huploads⟩ :=
    @System.exists_path _ _ _ (RelayEvent.Unhindered Sample.config []) (relay Sample.config [] Sample.tabled) _ _
      (fun path _ => upstream 1 path = Sample.hello.bytes ++ Sample.again.bytes.take 1 ∧
        uploads Sample.tabled 11 path = [[104, 105]]) _ Sample.uploading (by decide +kernel)
  obtain ⟨left, hinput, hleft⟩ := @typed_reaches_backend false (-1) (-1) 3 (ascii "GET") false wpath s wssk Sample.config []
    Sample.tabled rpath r 1 (Sample.talker 7 0x0100000a 11) ((Sample.again.bytes.drop 1).take 3) (by decide) hwscat hwssk
    hkept Sample.tabled_relays hrelay rfl ⟨rfl, rfl, rfl, rfl, rfl⟩ rfl (by rw [hwritten, hupstream]; decide)
  refine ⟨wpath, s, rpath, huploads, left, hinput, fun hnil => ?_⟩
  rw [hnil] at hleft
  have hempty := (List.append_eq_nil_iff.mp hleft).2
  rw [hempty] at hbuffer
  cases hbuffer

/-- The first payload is printed, and the second one on the way. -/
theorem backend_reaches_stdout_sample :
    ∃ (wpath : List (Move wscat.State wscat.Env)) (s : wscat.State) (rpath : List (Move Relay RelayEvent)),
      wscat.received wpath = wsFrame [121, 111] ++ (wsFrame [121, 111]).take 1 ∧
        downloads 11 rpath = [[121, 111], [121, 111]] ∧ s.c.stdout.printed = [121, 111] ∧
        ∃ shown left, downloads 11 rpath = shown ++ left ∧ s.c.stdout.printed = shown.flatten := by
  obtain ⟨wpath, s, hwscat, hreceived, hprinted⟩ :=
    @System.exists_path _ _ _ (fun _ _ => True)
      (wscat.program (options false false (-1) (-1) (-1)) 3 (ascii "GET") false) _ _
      (fun path s => wscat.received path = wsFrame [121, 111] ++ (wsFrame [121, 111]).take 1 ∧
        s.c.stdout.printed = [121, 111]) _ Sample.reading (by decide +kernel)
  obtain ⟨rpath, r, hrelay, htaken, hdownloads⟩ :=
    @System.exists_path _ _ _ (RelayEvent.Unhindered Sample.config []) (relay Sample.config [] Sample.tabled) _ _
      (fun path r => r.taken 1 = wsFrame [121, 111] ++ (wsFrame [121, 111]).take 3 ∧
        downloads 11 path = [[121, 111], [121, 111]]) _ Sample.downloading (by decide +kernel)
  obtain ⟨shown, left, hsplit, hshown, -⟩ := @backend_reaches_stdout 3 (ascii "GET") false
    (options false false (-1) (-1) (-1)) (fun _ _ => True) wpath s Sample.config [] Sample.tabled rpath r 1
    (Sample.talker 7 0x0100000a 11) (((wsFrame [121, 111]).drop 1).take 2) hwscat Sample.tabled_relays hrelay rfl
    ⟨rfl, rfl, rfl, rfl, rfl⟩ rfl (by rw [hreceived, htaken]; decide)
  exact ⟨wpath, s, rpath, hreceived, hdownloads, hprinted, shown, left, hsplit, hshown⟩

end wsd
