import Wsd.Common.Sk
import Wsd.Ws.Effect
import Wsd.Wscat.Decode

namespace wsd

/-- A client's frame which the decoder of `wsd` answers or ignores with return value
    0, where nothing takes its payload from the buffer. -/
def Answered (opcode : UInt8) (sk : Sk) : Prop :=
  opcode = WS_PONG_FRAME ∨
    opcode = WS_PING_FRAME ∧ sk.closing = false ∧ WS_UNMASKED_FRAME_LEN ≤ skb_wrsz sk.sendbuf ∨
    IsUnknown opcode ∧ sk.closing = false ∧ (closeFrame WS_1011 false).length ≤ skb_wrsz sk.sendbuf

/-- The same for the decoder of `wscat`, which fails for an unknown opcode. -/
def WsskAnswered (opcode : UInt8) (sk : Sk) : Prop :=
  opcode = WS_PONG_FRAME ∨
    opcode = WS_PING_FRAME ∧ sk.closing = false ∧ WS_MASKED_FRAME_LEN ≤ skb_wrsz sk.sendbuf

/-- A decoder which returns 0 leaves what follows the frame. -/
def Synchronised {State : Type} (sk : State → Sk) (rest : List UInt8) (call : Except Fault (Int × State)) : Prop :=
  ∀ s', call = .ok (0, s') → (sk s').recvbuf.readable = rest

/-- A decoder which takes the payloads of data frames, and leaves those of the
    frames it answers. -/
theorem synchronised_iff {State : Type} {sk : State → Sk} {payload rest : List UInt8}
    {call : Except Fault (Int × State)} {Data Answers : Prop} (hdata : Data → Synchronised sk rest call)
    (hanswered : Answers → ∃ s', call = .ok (0, s') ∧ (sk s').recvbuf.readable = payload ++ rest)
    (hunanswered : ¬ Data → ¬ Answers → ∀ s', call ≠ .ok (0, s')) :
    Synchronised sk rest call ↔ Data ∨ payload = [] ∨ ¬ Answers := by
  by_cases hd : Data
  · exact iff_of_true (hdata hd) (Or.inl hd)
  by_cases ha : Answers
  · obtain ⟨s', hdone, hrest⟩ := hanswered ha
    simp only [hd, ha, not_true_eq_false, false_or, or_false]
    constructor
    · intro h
      have hleft := hrest.symm.trans (h s' hdone)
      simpa using hleft
    · intro hempty s1 h1
      rw [hdone] at h1
      cases h1
      rw [hrest, hempty, List.nil_append]
  · exact iff_of_true (fun s' h => absurd h (hunanswered hd ha s')) (Or.inr (Or.inr ha))

section Wsd

variable {c : Conn} {f : Frame} {key : UInt32} {rest : List UInt8}

/-- The payload of an answered frame is left in the buffer. -/
theorem ws_decode_frame_answered (hok : c.sk.recvbuf.Ok) (hup : Upgraded c.sk)
    (hpos : c.sk.sendbuf.wrpos < 4294967296) (hread : c.sk.recvbuf.readable = f.masked key ++ rest)
    (hanswered : Answered f.opcode c.sk) :
    ∃ c', ws_decode_frame c = .ok (0, c') ∧ c'.sk.recvbuf.readable = f.payload ++ rest := by
  obtain ⟨recvbuf, wsf, hdecode, hok', hread', -, -, hbyte1, -⟩ := ws_decode_frame_masked hok f key hread
  have hopcode : OPCODE wsf.byte1 = f.opcode := by
    rw [hbyte1]
    rfl
  have hcompact : (skb_compact recvbuf).readable = f.payload ++ rest := hok'.readable_compact.trans hread'
  rw [hdecode]
  unfold dispatch_payload
  obtain hpong | ⟨hping, hclosing, hroom⟩ | ⟨⟨hdata, hclose, hping, hpong⟩, hclosing, hroom⟩ := hanswered
  · simp only [hopcode, hpong, show ¬ IsData WS_PONG_FRAME by decide, if_false,
      show ¬ WS_PONG_FRAME = WS_CLOSE_FRAME by decide, show ¬ WS_PONG_FRAME = WS_PING_FRAME by decide, if_true]
    exact ⟨_, rfl, hcompact⟩
  · obtain ⟨sk', hput, hsk'⟩ := @put_ping_pong_room false c.wsd_errno .ws_pong_closing WS_PONG_FRAME
        { c.sk with recvbuf := skb_compact recvbuf } hclosing
      hpos hroom
    simp only [hopcode, hping, show ¬ IsData WS_PING_FRAME by decide, if_false,
      show ¬ WS_PING_FRAME = WS_CLOSE_FRAME by decide, if_true, Conn.setRecvbuf, hup.pong, pong, ws_pong, hput,
      Except.ok_bind]
    exact ⟨_, rfl, by simp only [hsk', hcompact]⟩
  · obtain ⟨sk', hstart, hsk'⟩ := @ws_start_closing_handshake_room false c.wsd_errno { c.sk with recvbuf } WS_1011
        hclosing hpos hroom
    simp only [hopcode, if_neg hdata, if_neg hclose, if_neg hping, if_neg hpong, Conn.setRecvbuf,
      hup.start_closing_handshake, start_closing_handshake, hstart, Except.ok_bind]
    exact ⟨_, rfl, by simp only [hsk', hread']⟩

/-- A frame which is neither data nor answered fails. -/
theorem ws_decode_frame_unanswered {c' : Conn} (hok : c.sk.recvbuf.Ok) (hup : Upgraded c.sk)
    (hclose : f.opcode ≠ WS_CLOSE_FRAME) (hread : c.sk.recvbuf.readable = f.masked key ++ rest)
    (hdata : ¬ IsData f.opcode) (hanswered : ¬ Answered f.opcode c.sk) : ws_decode_frame c ≠ .ok (0, c') := by
  intro h
  obtain ⟨recvbuf, wsf, hdecode, -, -, -, -, hbyte1, -⟩ := ws_decode_frame_masked hok f key hread
  have hopcode : OPCODE wsf.byte1 = f.opcode := by
    rw [hbyte1]
    rfl
  rw [hdecode] at h
  unfold dispatch_payload at h
  simp only [hopcode, if_neg hdata, if_neg hclose] at h
  by_cases hping : f.opcode = WS_PING_FRAME
  · simp only [if_pos hping, Conn.setRecvbuf, hup.pong] at h
    obtain ⟨⟨rv, sk', e⟩, hput, hret⟩ := Except.bind_eq_ok_iff.mp h
    cases hret
    exact hanswered (Or.inr (Or.inl ⟨hping, put_ping_pong_zero hput⟩))
  by_cases hpong : f.opcode = WS_PONG_FRAME
  · exact hanswered (Or.inl hpong)
  simp only [if_neg hping, if_neg hpong, Conn.setRecvbuf, hup.start_closing_handshake] at h
  obtain ⟨⟨rv, sk', e⟩, hstart, hret⟩ := Except.bind_eq_ok_iff.mp h
  cases hret
  have hroom := @ws_start_closing_handshake_zero _ _ _ { c.sk with recvbuf } _ _ hstart
  exact hanswered (Or.inr (Or.inr ⟨⟨hdata, hclose, hping, hpong⟩, hroom⟩))

/-- The decoder of `wsd` keeps the frames apart but for the payloads it leaves. -/
theorem ws_decode_frame_synchronised_iff (hok : c.sk.recvbuf.Ok) (hsend : c.pp2sk.sendbuf.Ok)
    (hencode : c.pp2sk.proto.encode_frame = some .pp2_encode_frame) (hup : Upgraded c.sk)
    (hpos : c.sk.sendbuf.wrpos < 4294967296) (hclose : f.opcode ≠ WS_CLOSE_FRAME)
    (hread : c.sk.recvbuf.readable = f.masked key ++ rest) :
    Synchronised Conn.sk rest (ws_decode_frame c) ↔
      IsData f.opcode ∨ f.payload = [] ∨ ¬ Answered f.opcode c.sk := by
  refine synchronised_iff (fun hdata c' h => ?_) (ws_decode_frame_answered hok hup hpos hread)
    (fun hdata hanswered c' => ws_decode_frame_unanswered hok hup hclose hread hdata hanswered)
  by_cases hfull : skb_wrsz c.pp2sk.sendbuf < f.payload.length + PP2_HEADER_LEN
  · obtain ⟨recvbuf, hdone, -⟩ := ws_decode_frame_data_full hok hsend hencode hdata hread hfull
    rw [hdone] at h
    cases h
  · obtain ⟨recvbuf, hdone, -, hrest, -⟩ := ws_decode_frame_data hok hsend hencode hdata hread (by omega)
    rw [hdone] at h
    cases h
    exact hrest

end Wsd

section Wscat

variable {no_handshake : Bool} {w : Wssk} {f : Frame} {rest : List UInt8}

/-- The payload of an answered frame is left in the buffer. -/
theorem wssk_ws_decode_frame_answered (hok : w.sk.recvbuf.Ok) (hpong : w.sk.proto.pong = some .ws_pong)
    (hpos : w.sk.sendbuf.wrpos < 4294967296) (hread : w.sk.recvbuf.readable = f.unmasked ++ rest)
    (hanswered : WsskAnswered f.opcode w.sk) :
    ∃ w', wssk_ws_decode_frame no_handshake w = .ok (0, w') ∧ w'.sk.recvbuf.readable = f.payload ++ rest := by
  obtain ⟨recvbuf, hdecode, hok', hread', -⟩ :=
    @wssk_ws_decode_frame_unmasked no_handshake _ _ _ hok hread
  have hopcode : OPCODE f.byte1 = f.opcode := rfl
  have hcompact : (skb_compact recvbuf).readable = f.payload ++ rest := hok'.readable_compact.trans hread'
  rw [hdecode]
  unfold wssk_ws_decode_opcode
  obtain hpong' | ⟨hping, hclosing, hroom⟩ := hanswered
  · simp only [hopcode, hpong', show ¬ IsData WS_PONG_FRAME by decide, if_false,
      show ¬ WS_PONG_FRAME = WS_CLOSE_FRAME by decide, show ¬ WS_PONG_FRAME = WS_PING_FRAME by decide, if_true]
    exact ⟨_, rfl, hcompact⟩
  · obtain ⟨sk', hput, hsk'⟩ := @put_ping_pong_room true w.wsd_errno .ws_pong_closing WS_PONG_FRAME
        { w.sk with recvbuf := skb_compact recvbuf } hclosing
      hpos hroom
    simp only [hopcode, hping, show ¬ IsData WS_PING_FRAME by decide, if_false,
      show ¬ WS_PING_FRAME = WS_CLOSE_FRAME by decide, if_true, Wssk.setRecvbuf, hpong, pong, ws_pong, hput,
      Except.ok_bind]
    exact ⟨_, rfl, by simp only [hsk', hcompact]⟩

theorem wssk_ws_decode_frame_unanswered {w' : Wssk} (hok : w.sk.recvbuf.Ok) (hpong : w.sk.proto.pong = some .ws_pong)
    (hclose : f.opcode ≠ WS_CLOSE_FRAME) (hread : w.sk.recvbuf.readable = f.unmasked ++ rest)
    (hdata : ¬ IsData f.opcode) (hanswered : ¬ WsskAnswered f.opcode w.sk) :
    wssk_ws_decode_frame no_handshake w ≠ .ok (0, w') := by
  intro h
  obtain ⟨recvbuf, hdecode, -⟩ := @wssk_ws_decode_frame_unmasked no_handshake _ _ _ hok hread
  have hopcode : OPCODE f.byte1 = f.opcode := rfl
  rw [hdecode] at h
  unfold wssk_ws_decode_opcode at h
  simp only [hopcode, if_neg hdata, if_neg hclose] at h
  by_cases hping : f.opcode = WS_PING_FRAME
  · simp only [if_pos hping, Wssk.setRecvbuf, hpong] at h
    obtain ⟨⟨rv, sk', e⟩, hput, hret⟩ := Except.bind_eq_ok_iff.mp h
    cases hret
    exact hanswered (Or.inr ⟨hping, put_ping_pong_zero hput⟩)
  by_cases hpong' : f.opcode = WS_PONG_FRAME
  · exact hanswered (Or.inl hpong')
  simp only [if_neg hping, if_neg hpong'] at h
  cases h

/-- Where the stream cannot be flushed, a data frame aborts. -/
theorem wssk_ws_decode_frame_broken {w' : Wssk} {rv : Int} (hok : w.sk.recvbuf.Ok) (hflush : w.stdout.broken = true)
    (hdata : IsData f.opcode) (hread : w.sk.recvbuf.readable = f.unmasked ++ rest) :
    wssk_ws_decode_frame no_handshake w ≠ .ok (rv, w') := by
  intro h
  obtain ⟨recvbuf, hdecode, hok', hread', -⟩ :=
    @wssk_ws_decode_frame_unmasked no_handshake _ _ _ hok hread
  have hopcode : IsData (OPCODE f.byte1) := hdata
  rw [hdecode] at h
  unfold wssk_ws_decode_opcode at h
  simp only [if_pos hopcode, Wssk.setRecvbuf, skb_print] at h
  have hbroken : (print_loop f.payload.length w.stdout recvbuf).1.broken = true := by
    have hwr := hok'.wrpos_le
    have hrdsz : skb_rdsz recvbuf = f.payload.length + rest.length := by
      rw [← hok'.length_readable_eq, hread', List.length_append]
    rw [hok'.rdsz_eq] at hrdsz
    have hrd := hok'.rdpos_le
    unfold SKB_SIZE at hwr
    rw [print_loop_eq f.payload.length w.stdout recvbuf (by omega)]
    exact hflush
  simp only [hbroken, if_true, show ¬ (-1 : Int) = 0 by decide, decide_false, assert_false, Except.error_bind] at h
  cases h

theorem wssk_ws_decode_frame_synchronised_iff (hok : w.sk.recvbuf.Ok) (hpong : w.sk.proto.pong = some .ws_pong)
    (hpos : w.sk.sendbuf.wrpos < 4294967296) (hclose : f.opcode ≠ WS_CLOSE_FRAME)
    (hread : w.sk.recvbuf.readable = f.unmasked ++ rest) :
    Synchronised Wssk.sk rest (wssk_ws_decode_frame no_handshake w) ↔
      IsData f.opcode ∨ f.payload = [] ∨ ¬ WsskAnswered f.opcode w.sk := by
  refine synchronised_iff (fun hdata w' h => ?_) (wssk_ws_decode_frame_answered hok hpong hpos hread)
    (fun hdata hanswered w' => wssk_ws_decode_frame_unanswered hok hpong hclose hread hdata hanswered)
  cases hflush : w.stdout.broken with
  | true => exact absurd h (wssk_ws_decode_frame_broken hok hflush hdata hread)
  | false =>
    obtain ⟨recvbuf, hdone, -, hrest, -⟩ :=
      @wssk_ws_decode_frame_data no_handshake _ _ _ hok hflush hdata hread
    rw [hdone] at h
    cases h
    exact hrest

end Wscat

/-- A decoder which returns 0 for a frame other than a close frame leaves exactly
    what follows the frame, unless the frame has a payload and is a pong, a ping which
    is answered or, in `wsd`, a frame of an unknown opcode which is answered. -/
theorem decoders_synchronised_iff (f : Frame) (rest : List UInt8) :
    (∀ (c : Conn) (key : UInt32), c.sk.recvbuf.Ok → c.pp2sk.sendbuf.Ok →
      c.pp2sk.proto.encode_frame = some .pp2_encode_frame → Upgraded c.sk → c.sk.sendbuf.wrpos < 4294967296 →
      f.opcode ≠ WS_CLOSE_FRAME → c.sk.recvbuf.readable = f.masked key ++ rest →
        (Synchronised Conn.sk rest (ws_decode_frame c) ↔
          IsData f.opcode ∨ f.payload = [] ∨ ¬ Answered f.opcode c.sk)) ∧
      ∀ (no_handshake : Bool) (w : Wssk), w.sk.recvbuf.Ok →
        w.sk.proto.pong = some .ws_pong → w.sk.sendbuf.wrpos < 4294967296 → f.opcode ≠ WS_CLOSE_FRAME →
        w.sk.recvbuf.readable = f.unmasked ++ rest →
          (Synchronised Wssk.sk rest (wssk_ws_decode_frame no_handshake w) ↔
            IsData f.opcode ∨ f.payload = [] ∨ ¬ WsskAnswered f.opcode w.sk) :=
  ⟨fun _ _ hok hsend hencode hup hpos hclose hread =>
      ws_decode_frame_synchronised_iff hok hsend hencode hup hpos hclose hread,
    fun _ _ hok hpong hpos hclose hread => wssk_ws_decode_frame_synchronised_iff hok hpong hpos hclose hread⟩

namespace Sample

/-- A pong frame which carries a payload. -/
def pong : Frame where
  byte1 := 0x8a
  form := .len7
  payload := [0x88, 0x00]
  rsv := by decide
  fits := by decide

/-- A client in websocket mode, and a backend, before the first frame. -/
def upgraded (bytes : List UInt8) : Conn where
  sk := { sk_init 5 7 with
    recvbuf := Skb.ofBytes bytes
    proto := {
      decode_handshake := some .ws_decode_handshake
      decode_frame := some .ws_decode_frame
      encode_frame := some .ws_encode_frame
      ping := some .ws_ping
      pong := some .ws_pong
      start_closing_handshake := some .ws_start_closing_handshake } }
  pp2sk := { sk_init 6 0xffffffffffffffff with
    proto := {
      decode_frame := some .pp2_decode_frame
      encode_frame := some .pp2_encode_frame
      ping := some .pp2_nop } }
  wsd_errno := .WSD_CHECKERRNO

theorem upgraded_handlers (bytes : List UInt8) : Upgraded (upgraded bytes).sk :=
  ⟨rfl, rfl, rfl, rfl, rfl⟩

/-- The websocket socket of wscat with bytes to decode. -/
def wssk_with (bytes : List UInt8) : Wssk where
  sk := { sk_init 3 0 with recvbuf := Skb.ofBytes bytes, proto := { pong := some .ws_pong } }
  stdout := { printed := [], broken := false }
  wsd_errno := .WSD_CHECKERRNO

end Sample

/-- Both decoders lose the frame boundary behind a pong frame with a payload. -/
theorem decoders_synchronised_pong :
    (Synchronised Conn.sk [0x8a] (ws_decode_frame (Sample.upgraded (Sample.pong.masked 7 ++ [0x8a]))) ↔
        IsData Sample.pong.opcode ∨ Sample.pong.payload = [] ∨
          ¬ Answered Sample.pong.opcode (Sample.upgraded (Sample.pong.masked 7 ++ [0x8a])).sk) ∧
      (Synchronised Wssk.sk [] (wssk_ws_decode_frame false (Sample.wssk_with Sample.pong.unmasked)) ↔
        IsData Sample.pong.opcode ∨ Sample.pong.payload = [] ∨
          ¬ WsskAnswered Sample.pong.opcode (Sample.wssk_with Sample.pong.unmasked).sk) :=
  ⟨(decoders_synchronised_iff Sample.pong [0x8a]).1 _ 7 (Skb.ok_ofBytes (by decide)) Skb.ok_zero rfl
      (Sample.upgraded_handlers _) (by decide) (by decide) (Skb.readable_ofBytes (by decide)),
    (decoders_synchronised_iff Sample.pong []).2 false _ (Skb.ok_ofBytes (by decide)) rfl (by decide) (by decide)
      ((Skb.readable_ofBytes (by decide)).trans (by decide))⟩

/-- A masked pong frame with a payload is not skipped. -/
theorem pong_payload_stays :
    ¬ ∀ (c : Conn) (f : Frame) (key : UInt32) (rest : List UInt8), c.sk.recvbuf.Ok → c.pp2sk.sendbuf.Ok →
      c.pp2sk.proto.encode_frame = some .pp2_encode_frame → Upgraded c.sk → c.sk.sendbuf.wrpos < 4294967296 →
      f.opcode ≠ WS_CLOSE_FRAME → c.sk.recvbuf.readable = f.masked key ++ rest →
        Synchronised Conn.sk rest (ws_decode_frame c) := by
  intro h
  have hsync := h (Sample.upgraded (Sample.pong.masked 7)) Sample.pong 7 [] (Skb.ok_ofBytes (by decide)) Skb.ok_zero
    rfl (Sample.upgraded_handlers _) (by decide) (by decide)
    ((Skb.readable_ofBytes (by decide)).trans (List.append_nil _).symm)
  obtain ⟨c', hdone, hleft⟩ := @ws_decode_frame_answered (Sample.upgraded (Sample.pong.masked 7)) _ 7 []
      (Skb.ok_ofBytes (by decide)) (Sample.upgraded_handlers _) (by decide)
    ((Skb.readable_ofBytes (by decide)).trans (List.append_nil _).symm)
    (Or.inl (show Sample.pong.opcode = WS_PONG_FRAME by decide))
  have hempty := hleft.symm.trans (hsync c' hdone)
  cases hempty

end wsd
