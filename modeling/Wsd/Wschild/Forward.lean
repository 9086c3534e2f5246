import Wsd.Bytes.Framing
import Wsd.Ws.Backpressure
import Wsd.Wschild.Inversion

namespace wsd

/-- A data frame of a client and the key which masks its payload. -/
structure DataFrame where
  frame : Frame
  key : UInt32
  data : IsData frame.opcode

namespace DataFrame

def bytes (d : DataFrame) : List UInt8 :=
  d.frame.masked d.key

theorem length_bytes (d : DataFrame) : d.bytes.length = 6 + d.frame.form.extLen + d.frame.payload.length :=
  d.frame.length_masked d.key

theorem six_le_length (d : DataFrame) : 6 ≤ d.bytes.length := by
  rw [d.length_bytes]
  omega

end DataFrame

/-- The PP2 frames which carry the payloads of a client to the backend. -/
def forwarded (sk : Sk) (frames : List DataFrame) : List UInt8 :=
  frames.flatMap fun d => pp2Frame sk d.frame.payload

theorem forwarded_cons (sk : Sk) (d : DataFrame) (frames : List DataFrame) :
    forwarded sk (d :: frames) = pp2Frame sk d.frame.payload ++ forwarded sk frames := rfl

theorem forwarded_append (sk : Sk) (done left : List DataFrame) :
    forwarded sk (done ++ left) = forwarded sk done ++ forwarded sk left :=
  List.flatMap_append

/-- A client forwards under its addresses and its hash. -/
theorem forwarded_congr {sk sk' : Sk} (hsrc : sk'.src_addr = sk.src_addr) (hdst : sk'.dst_addr = sk.dst_addr)
    (hhash : sk'.hash = sk.hash) (frames : List DataFrame) : forwarded sk' frames = forwarded sk frames := by
  unfold forwarded pp2Frame
  rw [hsrc, hdst, hhash]

/-- An upgraded client with an open backend. -/
structure World.Forwards (w : World) (id p : Nat) (sk pp2sk : Sk) : Prop where
  wf : w.Wf
  client : w.clients id = some sk
  upgraded : Upgraded sk
  backend : w.pp2sk = some (p, pp2sk)
  fd : 0 ≤ sk.fd
  recvbuf : sk.recvbuf.Ok
  sendbuf : pp2sk.sendbuf.Ok

section Loop

variable {w : World} {id p : Nat} {sk pp2sk : Sk}

/-- The client and the backend between two calls of the decoder. -/
theorem World.Forwards.setConn (h : w.Forwards id p sk pp2sk) {recvbuf sendbuf : Skb} (hrecv : recvbuf.Ok)
    (hsend : sendbuf.Ok) (events pp2events : EpollEvents) (wsd_errno : Errno) :
    (w.setConn id { sk := { sk with recvbuf, events }, pp2sk := { pp2sk with sendbuf, events := pp2events }, wsd_errno })
      |>.Forwards id p { sk with recvbuf, events } { pp2sk with sendbuf, events := pp2events } where
  wf := h.wf.setConn h.client h.backend ((h.wf.client _ _ h.client).1.of_core rfl)
    ((h.wf.backend _ _ h.backend).1.of_core rfl)
  client := by simp [World.setConn]
  upgraded := h.upgraded.of_core rfl
  backend := by simp [World.setConn, h.backend]
  fd := h.fd
  recvbuf := hrecv
  sendbuf := hsend

theorem World.Forwards.setConn_self (h : w.Forwards id p sk pp2sk) :
    w.setConn id { sk, pp2sk, wsd_errno := w.wsd_errno } = w := by
  have hclients : Function.update w.clients id (some sk) = w.clients := by
    rw [← h.client, Function.update_eq_self]
  simp only [World.setConn, hclients, h.backend, Option.map_some]
  rw [← h.backend]

/-- The loop forwards the complete frames for which the backend has room. -/
theorem decode_loop_forwards (fuel frames : Nat) {done : List DataFrame} {part : List UInt8}
    (h : w.Forwards id p sk pp2sk) (hread : sk.recvbuf.readable = Framing.stream DataFrame.bytes done ++ part)
    (hroom : (forwarded sk done).length ≤ skb_wrsz pp2sk.sendbuf) (hfuel : done.length ≤ fuel) :
    ∃ recvbuf sendbuf, decode_loop id (fuel + 1) frames w =
        decode_loop id (fuel - done.length + 1) (frames + done.length) (w.setConn id
          { sk := { sk with recvbuf }, pp2sk := { pp2sk with sendbuf }, wsd_errno := w.wsd_errno }) ∧
      recvbuf.Ok ∧ recvbuf.readable = part ∧ sendbuf.Ok ∧
      sendbuf.readable = pp2sk.sendbuf.readable ++ forwarded sk done ∧
      skb_wrsz sendbuf = skb_wrsz pp2sk.sendbuf - (forwarded sk done).length := by
  induction done generalizing w sk pp2sk fuel frames with
  | nil =>
    refine ⟨sk.recvbuf, pp2sk.sendbuf, ?_, h.recvbuf, hread, h.sendbuf, (List.append_nil _).symm, rfl⟩
    rw [h.setConn_self]
    rfl
  | cons d done ih =>
    obtain ⟨fuel, rfl⟩ : ∃ fuel', fuel = fuel' + 1 := ⟨fuel - 1, by simp only [List.length_cons] at hfuel; omega⟩
    rw [Framing.stream_cons, List.append_assoc] at hread
    rw [forwarded_cons, List.length_append] at hroom
    have hfits : (pp2Frame sk d.frame.payload).length ≤ skb_wrsz pp2sk.sendbuf := by omega
    have hspace : d.frame.payload.length + PP2_HEADER_LEN ≤ skb_wrsz pp2sk.sendbuf := by
      rw [Nat.add_comm, ← length_pp2Frame sk]
      exact hfits
    have hencode : pp2sk.proto.encode_frame = some .pp2_encode_frame := by
      rw [(h.wf.backend _ _ h.backend).1.proto]
    obtain ⟨recvbuf, hdecode, hok, hrest, -⟩ := @ws_decode_frame_data { sk, pp2sk, wsd_errno := w.wsd_errno } _ _ _
      h.recvbuf h.sendbuf hencode d.data hread hspace
    have hframe := World.decode_frame_of_ws h.wf h.client h.backend h.upgraded hdecode
    have hput := h.sendbuf.put hfits
    have hwrsz := h.sendbuf.wrsz_put hfits
    have hnext := h.setConn hok hput sk.events pp2sk.events w.wsd_errno
    obtain ⟨recvbuf', sendbuf', hloop, hok', hpart, hsend', hsent, hleft⟩ := ih fuel (frames + 1) hnext hrest
      (by rw [hwrsz]; exact Nat.le_sub_of_add_le' hroom) (by simp only [List.length_cons] at hfuel; omega)
    refine ⟨recvbuf', sendbuf', ?_, hok', hpart, hsend', ?_, ?_⟩
    · rw [decode_loop, hframe]
      simp only [Except.ok_bind, if_true]
      rw [World.setConn_setConn] at hloop
      rw [hloop, List.length_cons]
      congr 1 <;> omega
    · rw [hsent, h.sendbuf.readable_put hfits, forwarded_cons, List.append_assoc]
      rfl
    · rw [hleft, hwrsz, forwarded_cons, List.length_append]
      exact Nat.sub_sub ..

/-- `ws_recv` forwards the complete frames and returns with what the decoder reports
    behind them. -/
theorem ws_recv_forwards {cfg : Config} {opens : List OpenResult} {done : List DataFrame} {part : List UInt8}
    (Q : Skb → Errno → Prop) (h : w.Forwards id p sk pp2sk)
    (hread : sk.recvbuf.readable = Framing.stream DataFrame.bytes done ++ part) (hne : sk.recvbuf.readable ≠ [])
    (hroom : (forwarded sk done).length ≤ skb_wrsz pp2sk.sendbuf)
    (hstop : ∀ recvbuf sendbuf : Skb, recvbuf.Ok → recvbuf.readable = part → sendbuf.Ok →
      skb_wrsz sendbuf = skb_wrsz pp2sk.sendbuf - (forwarded sk done).length →
        ∃ recvbuf' wsd_errno, recvbuf'.Ok ∧ Q recvbuf' wsd_errno ∧ ws_decode_frame
            { sk := { sk with recvbuf }, pp2sk := { pp2sk with sendbuf }, wsd_errno := w.wsd_errno } =
          .ok (-1, { sk := { sk with recvbuf := recvbuf' }, pp2sk := { pp2sk with sendbuf }, wsd_errno })) :
    ∃ recvbuf sendbuf events pp2events wsd_errno, ws_recv cfg opens w id = .ok (-1, w.setConn id
        { sk := { sk with recvbuf, events }, pp2sk := { pp2sk with sendbuf, events := pp2events }, wsd_errno }) ∧
      recvbuf.Ok ∧ Q recvbuf wsd_errno ∧ sendbuf.Ok ∧
      sendbuf.readable = pp2sk.sendbuf.readable ++ forwarded sk done ∧
      skb_wrsz sendbuf = skb_wrsz pp2sk.sendbuf - (forwarded sk done).length := by
  have hget := h.wf.get_of_client h.client
  have hrdsz : skb_rdsz sk.recvbuf ≠ 0 := fun hzero => hne (h.recvbuf.readable_eq_nil_iff.mpr hzero)
  have hfuel : done.length ≤ skb_rdsz sk.recvbuf := by
    have hle : done.length ≤ (Framing.stream DataFrame.bytes done).length :=
      Framing.length_le_stream (fun d => Nat.le_trans (by decide) d.six_le_length) done
    rw [← h.recvbuf.length_readable_eq, hread, List.length_append]
    omega
  obtain ⟨recvbuf, sendbuf, hloop, hok, hpart, hsend, hsent, hleft⟩ :=
    decode_loop_forwards (skb_rdsz sk.recvbuf) 0 h hread hroom hfuel
  obtain ⟨recvbuf', e, hok', hQ, hdecode⟩ := hstop recvbuf sendbuf hok hpart hsend hleft
  have h1 := h.setConn hok hsend sk.events pp2sk.events w.wsd_errno
  have hframe := World.decode_frame_of_ws h1.wf h1.client h1.backend h1.upgraded hdecode
  rw [World.setConn_setConn] at hframe
  obtain ⟨events, pp2events, hleave⟩ := ws_recv_leave_eq (0 + done.length)
    { sk := { sk with recvbuf := recvbuf' }, pp2sk := { pp2sk with sendbuf }, wsd_errno := e }
  refine ⟨recvbuf', sendbuf, events, pp2events, e, ?_, hok', hQ, hsend, hsent, hleft⟩
  have henter : ws_recv_enter cfg opens w id = .ok (0, w) := by
    unfold ws_recv_enter
    rw [World.deref_of_get hget]
    simp only [Except.ok_bind, hrdsz, ne_eq, not_false_eq_true, decide_true, assert_true, h.backend, Option.isNone_some,
      Bool.false_eq_true, if_false, Except.pure_eq_ok]
  unfold ws_recv
  rw [henter, Except.ok_bind]
  simp only [show ¬ (0 : Int) < 0 by decide, if_false, recv_fuel, hget]
  rw [hloop, decode_loop, hframe]
  simp only [Except.ok_bind, show ¬ (-1 : Int) = 0 by decide, if_false, Except.pure_eq_ok, World.conn_setConn h.backend,
    World.setConn_setConn, hleave]

end Loop

namespace Sample

/-- A client with the given address behind the handshake. -/
def talker (fd : Int) (sin_addr : UInt32) (hash : UInt64) : Sk :=
  upgrade { sk_init fd hash with
    src_addr := { sin_addr, sin_port := 0x31d4 }
    dst_addr := { sin_addr := 0x0200000a, sin_port := 0xbb01 }
    ops := { close := some .sk_close }
    proto := { decode_handshake := some .ws_decode_handshake } }

/-- Two clients and the backend. -/
def talkers : World :=
  (sk_open (.connected 8) { World.init with
    clients := Function.update (Function.update (fun _ => none) 1 (some (talker 7 0x0100000a 11))) 0
      (some (talker 6 0x0300000a 10))
    next := 2 }).2

theorem talkers_clients {id : Nat} {sk : Sk} (h : talkers.clients id = some sk) :
    id = 0 ∧ sk = talker 6 0x0300000a 10 ∨ id = 1 ∧ sk = talker 7 0x0100000a 11 := by
  change Function.update (Function.update (fun _ => none) 1 _) 0 _ id = some sk at h
  by_cases h0 : id = 0
  · subst h0
    cases h
    exact Or.inl ⟨rfl, rfl⟩
  · rw [Function.update_of_ne h0] at h
    by_cases h1 : id = 1
    · subst h1
      cases h
      exact Or.inr ⟨rfl, rfl⟩
    · rw [Function.update_of_ne h1] at h
      cases h

theorem talkers_wf : talkers.Wf where
  client id sk h := by
    obtain ⟨rfl, rfl⟩ | ⟨rfl, rfl⟩ := talkers_clients h
    · exact ⟨.ws rfl rfl, by decide⟩
    · exact ⟨.ws rfl rfl, by decide⟩
  backend p sk h := by
    cases h
    exact ⟨⟨rfl, rfl⟩, by decide, rfl⟩

theorem talkers_forward : ∃ pp2sk, talkers.Forwards 0 2 (talker 6 0x0300000a 10) pp2sk ∧ pp2sk.sendbuf = Skb.zero :=
  ⟨_, ⟨talkers_wf, rfl, ⟨rfl, rfl, rfl, rfl, rfl⟩, rfl, by decide, Skb.ok_zero, Skb.ok_zero⟩, rfl⟩

/-- A text frame. -/
def textData : DataFrame where
  frame := textFrame
  key := 0
  data := by decide

end Sample

end wsd
