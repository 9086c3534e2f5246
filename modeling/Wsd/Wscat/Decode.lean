import Wsd.Ws.Decode

namespace wsd

/-- A stream of the C library: the bytes which were printed to it, and whether
    flushing them fails. -/
structure Stream where
  printed : List UInt8
  broken : Bool
  deriving DecidableEq, Repr

/-- What the handlers of `wssk` read and write. -/
structure Wssk where
  sk : Sk
  stdout : Stream
  wsd_errno : Errno

/-- The state with another receive buffer. -/
def Wssk.setRecvbuf (w : Wssk) (recvbuf : Skb) : Wssk :=
  { w with sk := { w.sk with recvbuf } }

/-- `while (n--) fprintf(stream, "%c", (unsigned char)b->data[b->rdpos++]);` -/
def print_loop : Nat → Stream → Skb → Stream × Skb
  | 0, stream, b => (stream, b)
  | n + 1, stream, b =>
    print_loop n { stream with printed := stream.printed ++ [b.data b.rdpos] } { b with rdpos := u32 (b.rdpos + 1) }

def skb_print (stream : Stream) (b : Skb) (n : Nat) (wsd_errno : Errno) : Int × Stream × Skb × Errno :=
  let (stream, b) := print_loop n stream b
  if stream.broken then (-1, stream, b, .WSD_CHECKERRNO) else (0, stream, b, wsd_errno)

/-- The switch over the opcode at the end of `wssk_ws_decode_frame`. -/
def wssk_ws_decode_opcode (no_handshake : Bool) (w : Wssk) (byte1 : UInt8) (payload_len : Nat) :
    Except Fault (Int × Wssk) := do
  let opcode := OPCODE byte1
  if IsData opcode then
    let (rv, stdout, recvbuf, wsd_errno) := skb_print w.stdout w.sk.recvbuf payload_len w.wsd_errno
    assert .wssk_ws_decode_frame_print (rv = 0)
    return (0, { w.setRecvbuf (skb_compact recvbuf) with stdout, wsd_errno })
  else if opcode = WS_CLOSE_FRAME then
    if no_handshake then
      return (0, w.setRecvbuf (skb_reset w.sk.recvbuf))
    else
      let (rv, sk, wsd_errno) ← ws_finish_closing_handshake w.sk true payload_len w.wsd_errno
      return (rv, { w with sk, wsd_errno })
  else if opcode = WS_PING_FRAME then
    let w := w.setRecvbuf (skb_compact w.sk.recvbuf)
    let (rv, sk, wsd_errno) ← pong w.sk.proto.pong w.sk true w.wsd_errno
    return (rv, { w with sk, wsd_errno })
  else if opcode = WS_PONG_FRAME then
    return (0, w.setRecvbuf (skb_compact w.sk.recvbuf))
  else
    return (-1, { w with wsd_errno := .WSD_EBADREQ })

def wssk_ws_decode_frame (no_handshake : Bool) (w : Wssk) : Except Fault (Int × Wssk) := do
  if skb_rdsz w.sk.recvbuf < WS_UNMASKED_FRAME_LEN then
    return (-1, { w with wsd_errno := .WSD_EINPUT })
  else
    let old_rdpos := w.sk.recvbuf.rdpos
    let (byte1, recvbuf) := skb_get_char w.sk.recvbuf
    let (byte2, recvbuf) := skb_get_char recvbuf
    if RSV1_BIT byte1 ≠ 0 ∨ RSV2_BIT byte1 ≠ 0 ∨ RSV3_BIT byte1 ≠ 0 ∨ MASK_BIT byte2 ≠ 0 then
      return (-1, { w.setRecvbuf recvbuf with wsd_errno := .WSD_EBADREQ })
    else
      let (payload_len, recvbuf, wsd_errno) := ws_decode_payload_len recvbuf byte2 w.wsd_errno
      -- `payload_len` is unsigned: this check of an error is never true.
      if payload_len < 0 then
        return (-1, { w.setRecvbuf (skb_rd_reset recvbuf old_rdpos) with wsd_errno })
      else if payload_len > SKB_SIZE then
        return (-1, { w.setRecvbuf (skb_rd_reset recvbuf old_rdpos) with wsd_errno := .WSD_EBADREQ })
      else if payload_len > skb_rdsz recvbuf then
        return (-1, { w.setRecvbuf (skb_rd_reset recvbuf old_rdpos) with wsd_errno := .WSD_EINPUT })
      else
        assert .wssk_ws_decode_frame_payload_len (payload_len ≤ skb_rdsz recvbuf)
        wssk_ws_decode_opcode no_handshake { w.setRecvbuf recvbuf with wsd_errno } byte1 payload_len

/-- The print loop appends the next bytes of the buffer to the stream. -/
theorem print_loop_eq (n : Nat) (stream : Stream) (b : Skb) (h : b.rdpos + n < 4294967296) :
    print_loop n stream b =
      ({ stream with printed := stream.printed ++ b.data.window b.rdpos n }, skb_rd_forward b n) := by
  induction n generalizing stream b with
  | zero =>
    have hrd : u32 b.rdpos = b.rdpos := u32_of_lt (by omega)
    simp [print_loop, skb_rd_forward, hrd]
  | succ n ih =>
    have hrd : u32 (b.rdpos + 1) = b.rdpos + 1 := u32_of_lt (by omega)
    rw [print_loop, ih _ _ (by simp only [hrd]; omega)]
    simp only [hrd, skb_rd_forward, Memory.window_succ, List.append_assoc, List.singleton_append,
      Nat.add_assoc, Nat.add_comm 1 n]

/-- Printing the first readable bytes takes them from the buffer. -/
theorem skb_print_eq {stream : Stream} {b : Skb} {n : Nat} (wsd_errno : Errno) (hok : b.Ok) (hn : n ≤ skb_rdsz b)
    (hflush : stream.broken = false) :
    skb_print stream b n wsd_errno =
      (0, { stream with printed := stream.printed ++ b.readable.take n }, skb_rd_forward b n, wsd_errno) := by
  have hbytes := hok.transfer_bytes hn
  have hrd := hok.rdpos_le
  have hwr := hok.wrpos_le
  rw [hok.rdsz_eq] at hn
  unfold SKB_SIZE at hwr
  unfold skb_print
  rw [print_loop_eq n stream b (by omega), hbytes]
  simp only [hflush, Bool.false_eq_true, if_false]

/-- What the decoder checks of the first two bytes of an unmasked frame. -/
theorem unmasked_check_iff (byte1 byte2 : UInt8) :
    (RSV1_BIT byte1 ≠ 0 ∨ RSV2_BIT byte1 ≠ 0 ∨ RSV3_BIT byte1 ≠ 0 ∨ MASK_BIT byte2 ≠ 0) ↔
      ¬ (RsvClear byte1 ∧ MASK_BIT byte2 = 0) := by
  unfold RsvClear
  tauto

/-- The bytes end inside the extended length of an unmasked frame. -/
def LenCut (r : List UInt8) : Prop :=
  ∃ byte1 byte2 rest, r = byte1 :: byte2 :: rest ∧ RsvClear byte1 ∧ MASK_BIT byte2 = 0 ∧
    (PAYLOAD_LEN byte2 = 126 ∧ rest.length < 2 ∨ PAYLOAD_LEN byte2 = 127 ∧ rest.length < 8)

instance : (r : List UInt8) → Decidable (LenCut r)
  | [] => isFalse (by rintro ⟨byte1, byte2, rest, h, -⟩; cases h)
  | [_] => isFalse (by rintro ⟨byte1, byte2, rest, h, -⟩; cases h)
  | byte1 :: byte2 :: rest =>
    decidable_of_iff (RsvClear byte1 ∧ MASK_BIT byte2 = 0 ∧
      (PAYLOAD_LEN byte2 = 126 ∧ rest.length < 2 ∨ PAYLOAD_LEN byte2 = 127 ∧ rest.length < 8))
      ⟨fun h => ⟨byte1, byte2, rest, rfl, h⟩, by rintro ⟨_, _, _, h, hcut⟩; cases h; exact hcut⟩

section Decode

variable {no_handshake : Bool} {w : Wssk} {f : Frame} {rest : List UInt8}

/-- A complete frame at the read position goes to the switch, with its payload at
    the read position. -/
theorem wssk_ws_decode_frame_unmasked (hok : w.sk.recvbuf.Ok)
    (hread : w.sk.recvbuf.readable = f.unmasked ++ rest) :
    ∃ recvbuf, wssk_ws_decode_frame no_handshake w =
        wssk_ws_decode_opcode no_handshake (w.setRecvbuf recvbuf) f.byte1 f.payload.length ∧
      recvbuf.Ok ∧ recvbuf.readable = f.payload ++ rest ∧
      recvbuf.rdpos = w.sk.recvbuf.rdpos + f.header.length ∧ recvbuf.wrpos = w.sk.recvbuf.wrpos := by
  have hcode := LenForm.code_lt f.fits
  have hlength := hok.length_readable_eq
  have hsize := hok.rdsz_le
  rw [hread, List.length_append, Frame.length_unmasked] at hlength
  have hbytes : w.sk.recvbuf.readable = f.byte1 :: UInt8.ofNat (f.form.code f.payload.length) ::
      (f.form.ext f.payload.length ++ (f.payload ++ rest)) := by
    rw [hread, f.unmasked_eq]
    simp
  obtain ⟨b1, b2, hget1, hget2, hok2, hread2, hpos2, hb2⟩ := hok.get_header hbytes
  obtain ⟨b3, hget3, hok3, hread3, hpos3, hwr3, hdata3⟩ := ws_decode_payload_len_spec w.wsd_errno hok2
    f.fits (payload_len_ofNat hcode) hread2
  have hcheck := mt (unmasked_check_iff f.byte1 (UInt8.ofNat (f.form.code f.payload.length))).mp
    (not_not.mpr ⟨f.rsv, mask_bit_ofNat hcode⟩)
  have hbody : f.payload.length ≤ skb_rdsz b3 := by
    rw [← hok3.length_readable_eq, hread3, List.length_append]
    omega
  refine ⟨b3, ?_, hok3, hread3, ?_, hwr3.trans (by rw [hb2]; rfl)⟩
  · unfold wssk_ws_decode_frame WS_UNMASKED_FRAME_LEN
    rw [if_neg (by omega)]
    simp only [hget1, hget2, hget3, if_neg hcheck]
    rw [if_neg (by omega), if_neg (by omega), if_neg (by omega)]
    simp only [hbody, decide_true, assert_true, Except.ok_bind]
    rfl
  · rw [hpos3, hpos2, Frame.length_header]
    omega

/-- The payload of a data frame is printed, and what follows it remains. -/
theorem wssk_ws_decode_frame_data (hok : w.sk.recvbuf.Ok) (hflush : w.stdout.broken = false)
    (hdata : IsData f.opcode) (hread : w.sk.recvbuf.readable = f.unmasked ++ rest) :
    ∃ recvbuf, wssk_ws_decode_frame no_handshake w = .ok (0, { w.setRecvbuf recvbuf with
        stdout := { w.stdout with printed := w.stdout.printed ++ f.payload } }) ∧
      recvbuf.Ok ∧ recvbuf.readable = rest ∧ recvbuf.rdpos = 0 := by
  obtain ⟨recvbuf, hdecode, hok', hread', -⟩ :=
    @wssk_ws_decode_frame_unmasked no_handshake _ _ _ hok hread
  have hsize : f.payload.length ≤ skb_rdsz recvbuf := by
    rw [← hok'.length_readable_eq, hread', List.length_append]
    omega
  have hget := hok'.rd_forward hsize
  refine ⟨skb_compact (skb_rd_forward recvbuf f.payload.length), ?_, hget.compact, ?_, rfl⟩
  · have hopcode : IsData (OPCODE f.byte1) := hdata
    have hprint := skb_print_eq w.wsd_errno hok' hsize hflush
    rw [hread', List.take_left] at hprint
    rw [hdecode]
    unfold wssk_ws_decode_opcode
    simp only [if_pos hopcode, Wssk.setRecvbuf, hprint, decide_true, assert_true, Except.ok_bind, Except.pure_eq_ok]
  · rw [hget.readable_compact, hok'.readable_rd_forward hsize, hread', List.drop_left]

theorem wssk_ws_decode_frame_short (h : skb_rdsz w.sk.recvbuf < 2) :
    wssk_ws_decode_frame no_handshake w = .ok (-1, { w with wsd_errno := .WSD_EINPUT }) :=
  if_pos h

/-- The slip: an extended length which is cut decodes to the error value, which
    the check against really large frames takes for a length. -/
theorem wssk_ws_decode_frame_lenCut (hok : w.sk.recvbuf.Ok) (h : LenCut w.sk.recvbuf.readable) :
    wssk_ws_decode_frame no_handshake w = .ok (-1, { w with wsd_errno := .WSD_EBADREQ }) := by
  obtain ⟨byte1, byte2, rest, hread, hrsv, hmask, hcut⟩ := h
  have hsize : ¬ skb_rdsz w.sk.recvbuf < WS_UNMASKED_FRAME_LEN := by
    rw [← hok.length_readable_eq, hread]
    simp only [List.length_cons, WS_UNMASKED_FRAME_LEN]
    omega
  obtain ⟨b1, b2, hget1, hget2, hok2, hread2, hpos2, hb2⟩ := hok.get_header hread
  have hcheck := mt (unmasked_check_iff byte1 byte2).mp (not_not.mpr ⟨hrsv, hmask⟩)
  have hrdsz2 : skb_rdsz b2 = rest.length := by rw [← hok2.length_readable_eq, hread2]
  have hdecode : ws_decode_payload_len b2 byte2 w.wsd_errno = (ULONG_MAX, b2, .WSD_EINPUT) := by
    unfold ws_decode_payload_len
    obtain ⟨hlen, hless⟩ | ⟨hlen, hless⟩ := hcut
    · rw [if_neg (by omega), if_pos hlen, if_pos (by omega)]
    · rw [if_neg (by omega), if_neg (by omega), if_pos hlen, if_pos (by omega)]
  have hlarge : ULONG_MAX > SKB_SIZE := by decide
  have hrestore : skb_rd_reset b2 w.sk.recvbuf.rdpos = w.sk.recvbuf := by
    rw [hb2]
    rfl
  unfold wssk_ws_decode_frame
  rw [if_neg hsize]
  simp only [hget1, hget2, if_neg hcheck, hdecode]
  rw [if_neg (by decide), if_pos hlarge, hrestore]
  rfl

/-- A complete header whose payload is not complete leaves everything as it was. -/
theorem wssk_ws_decode_frame_payloadCut (hok : w.sk.recvbuf.Ok) {body : List UInt8}
    (hfits : f.payload.length ≤ SKB_SIZE) (hread : w.sk.recvbuf.readable = f.header ++ body)
    (hbody : body.length < f.payload.length) :
    wssk_ws_decode_frame no_handshake w = .ok (-1, { w with wsd_errno := .WSD_EINPUT }) := by
  have hcode := LenForm.code_lt f.fits
  have hsize : ¬ skb_rdsz w.sk.recvbuf < WS_UNMASKED_FRAME_LEN := by
    rw [← hok.length_readable_eq, hread, List.length_append, Frame.length_header]
    simp only [WS_UNMASKED_FRAME_LEN]
    omega
  have hbytes : w.sk.recvbuf.readable = f.byte1 :: UInt8.ofNat (f.form.code f.payload.length) ::
      (f.form.ext f.payload.length ++ body) := by
    rw [hread]
    simp [Frame.header]
  obtain ⟨b1, b2, hget1, hget2, hok2, hread2, hpos2, hb2⟩ := hok.get_header hbytes
  obtain ⟨b3, hget3, hok3, hread3, hpos3, hwr3, hdata3⟩ := ws_decode_payload_len_spec w.wsd_errno hok2
    f.fits (payload_len_ofNat hcode) hread2
  have hleft : skb_rdsz b3 = body.length := by rw [← hok3.length_readable_eq, hread3]
  have hcheck := mt (unmasked_check_iff f.byte1 (UInt8.ofNat (f.form.code f.payload.length))).mp
    (not_not.mpr ⟨f.rsv, mask_bit_ofNat hcode⟩)
  have hrestore : skb_rd_reset b3 w.sk.recvbuf.rdpos = w.sk.recvbuf := by
    refine Skb.ext rfl ?_ ?_
    · exact hwr3.trans (by rw [hb2]; rfl)
    · exact hdata3.trans (by rw [hb2]; rfl)
  unfold wssk_ws_decode_frame
  rw [if_neg hsize]
  simp only [hget1, hget2, hget3, if_neg hcheck]
  rw [if_neg (by omega), if_neg (by omega), if_pos (by omega), hrestore]
  rfl

/-- A frame which declares more than the size of the buffer is rejected, however much of it is there. -/
theorem wssk_ws_decode_frame_large (hok : w.sk.recvbuf.Ok) {byte1 : UInt8} {form : LenForm} {len : Nat}
    {body : List UInt8} (hrsv : RsvClear byte1) (hfits : form.Fits len) (hlarge : SKB_SIZE < len)
    (hread : w.sk.recvbuf.readable = unmaskedHeader byte1 form len ++ body) :
    wssk_ws_decode_frame no_handshake w = .ok (-1, { w with wsd_errno := .WSD_EBADREQ }) := by
  have hcode := LenForm.code_lt hfits
  have hsize : ¬ skb_rdsz w.sk.recvbuf < WS_UNMASKED_FRAME_LEN := by
    rw [← hok.length_readable_eq, hread, List.length_append, length_unmaskedHeader]
    simp only [WS_UNMASKED_FRAME_LEN]
    omega
  have hbytes : w.sk.recvbuf.readable = byte1 :: UInt8.ofNat (form.code len) :: (form.ext len ++ body) := by
    rw [hread]
    simp [unmaskedHeader]
  obtain ⟨b1, b2, hget1, hget2, hok2, hread2, hpos2, hb2⟩ := hok.get_header hbytes
  obtain ⟨b3, hget3, hok3, hread3, hpos3, hwr3, hdata3⟩ := ws_decode_payload_len_spec w.wsd_errno hok2
    hfits (payload_len_ofNat hcode) hread2
  have hcheck := mt (unmasked_check_iff byte1 (UInt8.ofNat (form.code len))).mp
    (not_not.mpr ⟨hrsv, mask_bit_ofNat hcode⟩)
  have hrestore : skb_rd_reset b3 w.sk.recvbuf.rdpos = w.sk.recvbuf := by
    refine Skb.ext rfl ?_ ?_
    · exact hwr3.trans (by rw [hb2]; rfl)
    · exact hdata3.trans (by rw [hb2]; rfl)
  unfold wssk_ws_decode_frame
  rw [if_neg hsize]
  simp only [hget1, hget2, hget3, if_neg hcheck]
  rw [if_neg (by omega), if_pos hlarge, hrestore]
  rfl

end Decode

end wsd
