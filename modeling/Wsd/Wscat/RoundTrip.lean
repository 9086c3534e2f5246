import Wsd.Common.Sk
import Wsd.Wscat.Encode

namespace wsd

/-- A text frame is decoded, and its payload is handed to the backend's encoder at the
    read position of the receive buffer. -/
def HandsOver (c : Conn) (payload rest : List UInt8) : Prop :=
  ∃ recvbuf wsf, ws_decode_frame c = pp2_encode_frame (c.setRecvbuf recvbuf) wsf ∧
    OPCODE wsf.byte1 = WS_TEXT_FRAME ∧ wsf.payload_len = payload.length ∧ recvbuf.Ok ∧
    recvbuf.readable = payload ++ rest

/-- With room for it in the backend's send buffer, the payload goes there, and what
    follows the frame remains. -/
def Consumes (c : Conn) (payload rest : List UInt8) : Prop :=
  payload.length + PP2_HEADER_LEN ≤ skb_wrsz c.pp2sk.sendbuf →
    ∃ c', ws_decode_frame c = .ok (0, c') ∧ c'.sk.recvbuf.readable = rest ∧
      c'.pp2sk.sendbuf = skb_put c.pp2sk.sendbuf (pp2Frame c.sk payload)

section Masked

variable {c : Conn} {payload rest : List UInt8} {hlen : payload.length < 18446744073709551616} {key : UInt32}

theorem text_handsOver (hok : c.sk.recvbuf.Ok) (hencode : c.pp2sk.proto.encode_frame = some .pp2_encode_frame)
    (hread : c.sk.recvbuf.readable = (Frame.text payload hlen).masked key ++ rest) : HandsOver c payload rest := by
  obtain ⟨recvbuf, wsf, hdecode, hok', hread', -, -, hbyte1, hlength⟩ := ws_decode_frame_masked hok _ key hread
  have hopcode : OPCODE wsf.byte1 = WS_TEXT_FRAME := by
    rw [hbyte1]
    exact Frame.opcode_text payload hlen
  have hdata : IsData (OPCODE wsf.byte1) := by
    rw [hopcode]
    decide
  refine ⟨recvbuf, wsf, ?_, hopcode, hlength, hok', hread'⟩
  have hproto : (c.setRecvbuf recvbuf).pp2sk.proto.encode_frame = some .pp2_encode_frame := hencode
  rw [hdecode]
  unfold dispatch_payload
  rw [if_pos hdata, hproto]
  rfl

theorem text_consumes (hok : c.sk.recvbuf.Ok) (hsend : c.pp2sk.sendbuf.Ok)
    (hencode : c.pp2sk.proto.encode_frame = some .pp2_encode_frame)
    (hread : c.sk.recvbuf.readable = (Frame.text payload hlen).masked key ++ rest) : Consumes c payload rest := by
  intro hroom
  obtain ⟨recvbuf, hdecode, -, hrest, -⟩ :=
    ws_decode_frame_data hok hsend hencode (Frame.isData_text payload hlen) hread hroom
  exact ⟨_, hdecode, hrest, rfl⟩

end Masked

/-- What wscat's data encoder appends, the daemon decodes to the encoded bytes. -/
theorem ws_decode_frame_wssk_ws_encode_data_frame {dst src : Skb} {maxlen : Nat} {wsd_errno : Errno} (hdst : dst.Ok)
    (hsrc : src.Ok)
    (hroom : 6 + (LenForm.shortest (src.readable.take maxlen).length).extLen + (src.readable.take maxlen).length ≤
      skb_wrsz dst) :
    ∃ bytes dst' src', wssk_ws_encode_data_frame dst src maxlen wsd_errno = .ok (0, dst', src', wsd_errno) ∧
      dst.Appended bytes dst' ∧ src'.Ok ∧ src'.readable = src.readable.drop (src.readable.take maxlen).length ∧
      ∀ (c : Conn) (rest : List UInt8), c.sk.recvbuf.Ok → c.pp2sk.sendbuf.Ok →
        c.pp2sk.proto.encode_frame = some .pp2_encode_frame → c.sk.recvbuf.readable = bytes ++ rest →
        HandsOver c (src.readable.take maxlen) rest ∧ Consumes c (src.readable.take maxlen) rest := by
  have htake := @length_take_dataLen src maxlen hsrc
  have hle := dataLen_le src maxlen
  have hlen : (src.readable.take maxlen).length < 18446744073709551616 := by
    have hsize := hsrc.rdsz_le
    unfold SKB_SIZE at hsize
    omega
  have hfits : ((Frame.text (src.readable.take maxlen) hlen).masked DATA_KEY).length ≤ skb_wrsz dst := by
    rw [length_text_masked]
    exact hroom
  rw [← htake] at hle
  have hget := hsrc.rd_forward hle
  refine ⟨_, _, _, wssk_ws_encode_data_frame_eq hdst hsrc hlen hfits, ⟨rfl, hfits⟩, hget.compact, ?_, ?_⟩
  · rw [hget.readable_compact, hsrc.readable_rd_forward hle]
  · intro c rest hok hsend hencode hread
    exact ⟨text_handsOver hok hencode hread, text_consumes hok hsend hencode hread⟩

/-- Two bytes of the standard input go to an empty send buffer. -/
theorem ws_decode_frame_wssk_ws_encode_data_frame_hi :
    ∃ bytes dst' src', wssk_ws_encode_data_frame Skb.zero (Skb.ofBytes [72, 105]) 32 .WSD_CHECKERRNO =
        .ok (0, dst', src', .WSD_CHECKERRNO) ∧
      Skb.zero.Appended bytes dst' ∧ src'.Ok ∧
      src'.readable = (Skb.ofBytes [72, 105]).readable.drop ((Skb.ofBytes [72, 105]).readable.take 32).length ∧
      ∀ (c : Conn) (rest : List UInt8), c.sk.recvbuf.Ok → c.pp2sk.sendbuf.Ok →
        c.pp2sk.proto.encode_frame = some .pp2_encode_frame → c.sk.recvbuf.readable = bytes ++ rest →
        HandsOver c ((Skb.ofBytes [72, 105]).readable.take 32) rest ∧
          Consumes c ((Skb.ofBytes [72, 105]).readable.take 32) rest :=
  ws_decode_frame_wssk_ws_encode_data_frame Skb.ok_zero (Skb.ok_ofBytes (by decide))
    (by rw [Skb.readable_ofBytes (by decide), Skb.wrsz_zero]; decide)

/-- The decoder of wscat prints a payload and leaves what follows its frame. -/
def Prints (no_handshake : Bool) (w : Wssk) (payload rest : List UInt8) : Prop :=
  ∃ w', wssk_ws_decode_frame no_handshake w = .ok (0, w') ∧ w'.stdout.printed = w.stdout.printed ++ payload ∧
    w'.sk.recvbuf.readable = rest

/-- What the daemon's encoder appends is one text frame in the shortest form, and
    wscat prints its payload. -/
theorem wssk_ws_decode_frame_ws_encode_frame {c : Conn} {len : Nat} (hsend : c.sk.sendbuf.Ok)
    (hrecv : c.pp2sk.recvbuf.Ok) (hlen : len ≤ skb_rdsz c.pp2sk.recvbuf)
    (hroom : 2 + (LenForm.shortest len).extLen + len ≤ skb_wrsz c.sk.sendbuf) :
    ∃ (f : Frame) (c' : Conn), ws_encode_frame c { payload_len := len } = .ok (0, c') ∧
      c.sk.sendbuf.Appended f.unmasked c'.sk.sendbuf ∧ f.byte1 = 0x81 ∧ f.opcode = WS_TEXT_FRAME ∧
      f.form = LenForm.shortest len ∧ f.payload = c.pp2sk.recvbuf.readable.take len ∧
      c'.pp2sk.recvbuf.readable = c.pp2sk.recvbuf.readable.drop len ∧
      ∀ (no_handshake : Bool) (w : Wssk) (rest : List UInt8), w.sk.recvbuf.Ok → w.stdout.broken = false →
        w.sk.recvbuf.readable = f.unmasked ++ rest → Prints no_handshake w f.payload rest := by
  have htake : (c.pp2sk.recvbuf.readable.take len).length = len := by
    rw [List.length_take, hrecv.length_readable_eq, Nat.min_eq_left hlen]
  have hsize := hrecv.rdsz_le
  unfold SKB_SIZE at hsize
  have hless := frameLen_lt_length_wsFrame (c.pp2sk.recvbuf.readable.take len)
  rw [length_wsFrame, htake] at hless
  have hencode := @ws_encode_frame_eq c { payload_len := len } hsend hrecv rfl hlen (by simp only; omega)
    (by simp only [length_payloadLenBytes]; omega)
  have hunmasked : (Frame.text (c.pp2sk.recvbuf.readable.take len) (by omega)).unmasked =
      wsFrame (c.pp2sk.recvbuf.readable.take len) := Frame.unmasked_eq _
  have hget := hrecv.get hlen
  refine ⟨Frame.text (c.pp2sk.recvbuf.readable.take len) (by omega), _, hencode, ⟨by rw [hunmasked], ?_⟩, Frame.byte1_text _ _,
    Frame.opcode_text _ _, congrArg LenForm.shortest htake, rfl, ?_, ?_⟩
  · rw [hunmasked, length_wsFrame, htake]
    exact hroom
  · rw [hget.readable_compact, hrecv.readable_get hlen]
  · intro no_handshake w rest hok hflush hread
    obtain ⟨recvbuf, hdecode, -, hrest, -⟩ :=
      @wssk_ws_decode_frame_data no_handshake _ _ _ hok hflush (Frame.isData_text _ _) hread
    exact ⟨_, hdecode, rfl, hrest⟩

namespace Sample

/-- A client with an empty send buffer, and a backend with bytes for it. -/
def backend_bytes (bytes : List UInt8) : Conn where
  sk := sk_init 5 7
  pp2sk := { sk_init 6 0xffffffffffffffff with recvbuf := Skb.ofBytes bytes }
  wsd_errno := .WSD_CHECKERRNO

end Sample

/-- The first two of three bytes are the payload of a backend frame. -/
theorem wssk_ws_decode_frame_ws_encode_frame_hi :
    ∃ (f : Frame) (c' : Conn), ws_encode_frame (Sample.backend_bytes [72, 105, 33]) { payload_len := 2 } = .ok (0, c') ∧
      (Sample.backend_bytes [72, 105, 33]).sk.sendbuf.Appended f.unmasked c'.sk.sendbuf ∧ f.byte1 = 0x81 ∧
      f.opcode = WS_TEXT_FRAME ∧ f.form = LenForm.shortest 2 ∧
      f.payload = (Sample.backend_bytes [72, 105, 33]).pp2sk.recvbuf.readable.take 2 ∧
      c'.pp2sk.recvbuf.readable = (Sample.backend_bytes [72, 105, 33]).pp2sk.recvbuf.readable.drop 2 ∧
      ∀ (no_handshake : Bool) (w : Wssk) (rest : List UInt8), w.sk.recvbuf.Ok → w.stdout.broken = false →
        w.sk.recvbuf.readable = f.unmasked ++ rest → Prints no_handshake w f.payload rest :=
  wssk_ws_decode_frame_ws_encode_frame Skb.ok_zero (Skb.ok_ofBytes (by decide))
    (by rw [Sample.backend_bytes, Skb.rdsz_ofBytes (by decide)]; decide)
    (by rw [Sample.backend_bytes, sk_init, Skb.wrsz_zero]; decide)

end wsd
