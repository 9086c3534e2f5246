import Wsd.Pp2.Encode

namespace wsd

/-- The connection with another receive buffer on the client's side. -/
def Conn.setRecvbuf (c : Conn) (recvbuf : Skb) : Conn :=
  { c with sk := { c.sk with recvbuf } }

/-- The indirect call through a protocol's `pong`. -/
def pong : Option Pong → Sk → Bool → Errno → Except Fault (Int × Sk × Errno)
  | none, _, _, _ => .error .null_function
  | some .ws_pong, sk, do_mask, wsd_errno => ws_pong sk do_mask wsd_errno

/-- The indirect call through a protocol's `start_closing_handshake`. -/
def start_closing_handshake :
    Option StartClosingHandshake → Sk → Nat → Bool → Errno → Except Fault (Int × Sk × Errno)
  | none, _, _, _, _ => .error .null_function
  | some .ws_start_closing_handshake, sk, status, do_mask, wsd_errno =>
    ws_start_closing_handshake sk status do_mask wsd_errno

def dispatch_payload (c : Conn) (wsf : WsFrame) : Except Fault (Int × Conn) := do
  let opcode := OPCODE wsf.byte1
  if IsData opcode then
    encode_frame c.pp2sk.proto.encode_frame c wsf
  else if opcode = WS_CLOSE_FRAME then
    let (rv, sk, wsd_errno) ← ws_finish_closing_handshake c.sk false wsf.payload_len c.wsd_errno
    return (rv, { c with sk, wsd_errno })
  else if opcode = WS_PING_FRAME then
    let c := c.setRecvbuf (skb_compact c.sk.recvbuf)
    let (rv, sk, wsd_errno) ← pong c.sk.proto.pong c.sk false c.wsd_errno
    return (rv, { c with sk, wsd_errno })
  else if opcode = WS_PONG_FRAME then
    return (0, c.setRecvbuf (skb_compact c.sk.recvbuf))
  else
    let (rv, sk, wsd_errno) ←
      start_closing_handshake c.sk.proto.start_closing_handshake c.sk WS_1011 false c.wsd_errno
    return (rv, { c with sk, wsd_errno })

def ws_decode_frame (c : Conn) : Except Fault (Int × Conn) := do
  if skb_rdsz c.sk.recvbuf < WS_MASKED_FRAME_LEN then
    return (-1, { c with wsd_errno := .WSD_EINPUT })
  else
    let old_rdpos := c.sk.recvbuf.rdpos
    let (byte1, recvbuf) := skb_get_char c.sk.recvbuf
    let (byte2, recvbuf) := skb_get_char recvbuf
    if RSV1_BIT byte1 ≠ 0 ∨ RSV2_BIT byte1 ≠ 0 ∨ RSV3_BIT byte1 ≠ 0 ∨ MASK_BIT byte2 = 0 then
      return (-1, { c.setRecvbuf recvbuf with wsd_errno := .WSD_EBADREQ })
    else
      let (payload_len, recvbuf, wsd_errno) := ws_decode_payload_len recvbuf byte2 c.wsd_errno
      -- `payload_len` is unsigned: this check of an error is never true.
      if payload_len < 0 then
        return (-1, { c.setRecvbuf (skb_rd_reset recvbuf old_rdpos) with wsd_errno })
      else if 4 > skb_rdsz recvbuf then
        return (-1, { c.setRecvbuf recvbuf with wsd_errno := .WSD_EINPUT })
      else
        let (key, recvbuf) := skb_get recvbuf 4
        let masking_key := Bytes.leVal key
        if payload_len > skb_rdsz recvbuf then
          return (-1, { c.setRecvbuf { recvbuf with rdpos := old_rdpos } with wsd_errno := .WSD_EINPUT })
        else
          let end_ := u32 (recvbuf.rdpos + payload_len)
          let data := unmask_loop masking_key (end_ - recvbuf.rdpos) recvbuf.rdpos 0 recvbuf.data
          dispatch_payload { c.setRecvbuf { recvbuf with data } with wsd_errno }
            { byte1, byte2, payload_len, masking_key }

/-- A control or unknown frame is answered without the backend, and fails for
    want of memory only. -/
theorem dispatch_payload_control {c c' : Conn} {wsf : WsFrame} {rv : Int} (hdata : ¬ IsData (OPCODE wsf.byte1))
    (h : dispatch_payload c wsf = .ok (rv, c')) :
    (rv = 0 ∨ rv = -1 ∧ c'.wsd_errno = .WSD_ENOMEM) ∧ c'.pp2sk = c.pp2sk := by
  unfold dispatch_payload at h
  simp only [if_neg hdata] at h
  by_cases hclose : OPCODE wsf.byte1 = WS_CLOSE_FRAME
  · simp only [if_pos hclose] at h
    obtain ⟨⟨rv', sk', e⟩, hfinish, h⟩ := Except.bind_eq_ok_iff.mp h
    cases h
    obtain ⟨recvbuf, ⟨hrv, -⟩ | ⟨hrv, -⟩ | ⟨hrv, he, -⟩⟩ := ws_finish_closing_handshake_inv hfinish
    · exact ⟨Or.inl hrv, rfl⟩
    · exact ⟨Or.inl hrv, rfl⟩
    · exact ⟨Or.inr ⟨hrv, he⟩, rfl⟩
  simp only [if_neg hclose] at h
  by_cases hping : OPCODE wsf.byte1 = WS_PING_FRAME
  · simp only [if_pos hping] at h
    obtain ⟨⟨rv', sk', e⟩, hpong, h⟩ := Except.bind_eq_ok_iff.mp h
    cases h
    cases hproto : (c.setRecvbuf (skb_compact c.sk.recvbuf)).sk.proto.pong with
    | none => simp [hproto, pong] at hpong
    | some handler =>
      rw [hproto] at hpong
      cases handler
      obtain ⟨-, ⟨hrv, -⟩ | ⟨hrv, he, -⟩⟩ := put_ping_pong_inv hpong
      · exact ⟨Or.inl hrv, rfl⟩
      · exact ⟨Or.inr ⟨hrv, he⟩, rfl⟩
  simp only [if_neg hping] at h
  by_cases hpong : OPCODE wsf.byte1 = WS_PONG_FRAME
  · simp only [if_pos hpong, Except.pure_eq_ok, Except.ok.injEq, Prod.mk.injEq] at h
    obtain ⟨rfl, rfl⟩ := h
    exact ⟨Or.inl rfl, rfl⟩
  simp only [if_neg hpong] at h
  obtain ⟨⟨rv', sk', e⟩, hstart, h⟩ := Except.bind_eq_ok_iff.mp h
  cases h
  cases hproto : c.sk.proto.start_closing_handshake with
  | none => simp [hproto, start_closing_handshake] at hstart
  | some handler =>
    rw [hproto] at hstart
    cases handler
    obtain ⟨-, ⟨hrv, -⟩ | ⟨hrv, he, -⟩⟩ := ws_start_closing_handshake_inv hstart
    · exact ⟨Or.inl hrv, rfl⟩
    · exact ⟨Or.inr ⟨hrv, he⟩, rfl⟩

/-- A complete frame at the read position is dispatched with its payload
    unmasked in place, right at the read position. -/
theorem ws_decode_frame_masked {c : Conn} (hok : c.sk.recvbuf.Ok) (f : Frame) (key : UInt32)
    {rest : List UInt8} (hread : c.sk.recvbuf.readable = f.masked key ++ rest) :
    ∃ recvbuf wsf, ws_decode_frame c = dispatch_payload (c.setRecvbuf recvbuf) wsf ∧
      recvbuf.Ok ∧ recvbuf.readable = f.payload ++ rest ∧
      recvbuf.rdpos = c.sk.recvbuf.rdpos + (maskedHeader f.byte1 f.form f.payload.length key).length ∧
      recvbuf.wrpos = c.sk.recvbuf.wrpos ∧
      wsf.byte1 = f.byte1 ∧ wsf.payload_len = f.payload.length := by
  have hcode := LenForm.code_lt f.fits
  have hlen : 6 ≤ skb_rdsz c.sk.recvbuf := by
    rw [← hok.length_readable_eq, hread, List.length_append, Frame.length_masked]
    omega
  have hbytes : c.sk.recvbuf.readable =
      f.byte1 :: UInt8.ofNat (128 + f.form.code f.payload.length) ::
        (f.form.ext f.payload.length ++
          (Bytes.le 4 key.toNat ++ (maskFrom key.toNat 0 f.payload ++ rest))) := by
    rw [hread]
    simp [Frame.masked, maskedHeader]
  obtain ⟨b1, hget1, hok1, hread1, hpos1, hwr1, hdata1⟩ := hok.get_char hbytes
  obtain ⟨b2, hget2, hok2, hread2, hpos2, hwr2, hdata2⟩ := hok1.get_char hread1
  obtain ⟨b3, hget3, hok3, hread3, hpos3, hwr3, hdata3⟩ := ws_decode_payload_len_spec c.wsd_errno hok2
    f.fits (payload_len_masked hcode) hread2
  have hkey : 4 ≤ skb_rdsz b3 := by
    rw [← hok3.length_readable_eq, hread3, List.length_append, Bytes.length_le]
    omega
  have hbytes4 := hok3.get_bytes hkey
  have hread4 := hok3.readable_get hkey
  have hok4 := hok3.get hkey
  have hpos4 := hok3.get_rdpos hkey
  rw [hread3, List.take_append_of_le_length (by simp), List.take_of_length_le (by simp)] at hbytes4
  rw [hread3, List.drop_append_of_le_length (by simp), List.drop_of_length_le (by simp),
    List.nil_append] at hread4
  have hkeyval : Bytes.leVal (Bytes.le 4 key.toNat) = key.toNat :=
    Bytes.leVal_le_of_lt (by simpa using key.toNat_lt)
  generalize hb4 : (skb_get b3 4).2 = b4 at hread4 hok4 hpos4
  have hwr4 : b4.wrpos = b3.wrpos := by rw [← hb4]; rfl
  have hbody : f.payload.length ≤ skb_rdsz b4 := by
    rw [← hok4.length_readable_eq, hread4, List.length_append, length_maskFrom]
    omega
  have hend : u32 (b4.rdpos + f.payload.length) - b4.rdpos = f.payload.length := by
    have hwr := hok4.wrpos_le
    rw [hok4.rdsz_eq] at hbody
    have hrd := hok4.rdpos_le
    rw [Skb.u32_of_le_size (by omega)]
    omega
  have hmasked : b4.data.window b4.rdpos f.payload.length = maskFrom key.toNat 0 f.payload := by
    rw [hok4.transfer_bytes hbody, hread4, List.take_append_of_le_length (by simp),
      List.take_of_length_le (by simp)]
  have hover := hok4.readable_overwrite hbody
  rw [hread4, List.drop_append_of_le_length (by simp), List.drop_of_length_le (by simp),
    List.nil_append] at hover
  refine ⟨{ b4 with data := b4.data.store b4.rdpos f.payload },
    { byte1 := f.byte1, byte2 := UInt8.ofNat (128 + f.form.code f.payload.length),
      payload_len := f.payload.length, masking_key := key.toNat },
    ?_, ⟨hok4.rdpos_le, hok4.wrpos_le⟩, hover, ?_, ?_, rfl, rfl⟩
  · unfold ws_decode_frame WS_MASKED_FRAME_LEN
    rw [if_neg (by omega)]
    have hcheck := mt (header_check_iff f.byte1 (UInt8.ofNat (128 + f.form.code f.payload.length))).mp
      (not_not.mpr ⟨f.rsv, mask_bit_masked hcode⟩)
    simp only [hget1, hget2, hget3, if_neg hcheck]
    rw [if_neg (by omega), if_neg (by omega)]
    have hget4 : skb_get b3 4 = (Bytes.le 4 key.toNat, b4) := Prod.ext hbytes4 hb4
    simp only [hget4, hkeyval]
    rw [if_neg (by omega), hend, unmask_loop_eq, hmasked, maskFrom_maskFrom]
    rfl
  · simp only [hpos4, hpos3, hpos2, hpos1, length_maskedHeader]
    omega
  · simp only [hwr4, hwr3, hwr2, hwr1]

section Data

variable {c : Conn} {f : Frame} {key : UInt32} {rest : List UInt8}

/-- A data frame for which the backend's send buffer has room moves there as one
    PP2 frame; what follows it remains. -/
theorem ws_decode_frame_data (hok : c.sk.recvbuf.Ok) (hsend : c.pp2sk.sendbuf.Ok)
    (hencode : c.pp2sk.proto.encode_frame = some .pp2_encode_frame) (hdata : IsData f.opcode)
    (hread : c.sk.recvbuf.readable = f.masked key ++ rest)
    (hroom : f.payload.length + PP2_HEADER_LEN ≤ skb_wrsz c.pp2sk.sendbuf) :
    ∃ recvbuf, ws_decode_frame c = .ok (0, { c with
        sk := { c.sk with recvbuf }
        pp2sk := { c.pp2sk with sendbuf := skb_put c.pp2sk.sendbuf (pp2Frame c.sk f.payload) } }) ∧
      recvbuf.Ok ∧ recvbuf.readable = rest ∧ recvbuf.rdpos = 0 := by
  obtain ⟨recvbuf, wsf, hdecode, hok', hread', hpos, hwr, hbyte1, hlen⟩ := ws_decode_frame_masked hok f key hread
  have hsize : wsf.payload_len ≤ skb_rdsz recvbuf := by
    rw [hlen, ← hok'.length_readable_eq, hread', List.length_append]
    omega
  have heq := @pp2_encode_frame_eq (c.setRecvbuf recvbuf) wsf hsend hok' hsize
  have hget := hok'.get hsize
  have htake : recvbuf.readable.take wsf.payload_len = f.payload := by
    rw [hread', hlen, List.take_left]
  refine ⟨skb_compact (skb_get recvbuf wsf.payload_len).2, ?_, hget.compact, ?_, rfl⟩
  · have hopcode : IsData (OPCODE wsf.byte1) := by
      rw [hbyte1]
      exact hdata
    have hfits : ¬ skb_wrsz (c.setRecvbuf recvbuf).pp2sk.sendbuf < wsf.payload_len + PP2_HEADER_LEN := by
      rw [hlen]
      exact Nat.not_lt.mpr hroom
    have hproto : (c.setRecvbuf recvbuf).pp2sk.proto.encode_frame = some .pp2_encode_frame := hencode
    rw [hdecode]
    unfold dispatch_payload
    simp only [if_pos hopcode, hproto, encode_frame]
    rw [heq, if_neg hfits]
    simp only [Conn.setRecvbuf, htake]
    rfl
  · rw [hget.readable_compact, hok'.readable_get hsize, hread', hlen, List.drop_left]

/-- Without room the frame stays unmasked in the receive buffer, and the read
    position stays behind its header. -/
theorem ws_decode_frame_data_full (hok : c.sk.recvbuf.Ok) (hsend : c.pp2sk.sendbuf.Ok)
    (hencode : c.pp2sk.proto.encode_frame = some .pp2_encode_frame) (hdata : IsData f.opcode)
    (hread : c.sk.recvbuf.readable = f.masked key ++ rest)
    (hfull : skb_wrsz c.pp2sk.sendbuf < f.payload.length + PP2_HEADER_LEN) :
    ∃ recvbuf, ws_decode_frame c = .ok (-1, { c.setRecvbuf recvbuf with wsd_errno := .WSD_EAGAIN }) ∧
      recvbuf.Ok ∧ recvbuf.readable = f.payload ++ rest ∧ recvbuf.wrpos = c.sk.recvbuf.wrpos ∧
      recvbuf.rdpos = c.sk.recvbuf.rdpos + (6 + f.form.extLen) := by
  obtain ⟨recvbuf, wsf, hdecode, hok', hread', hpos, hwr, hbyte1, hlen⟩ := ws_decode_frame_masked hok f key hread
  have hsize : wsf.payload_len ≤ skb_rdsz recvbuf := by
    rw [hlen, ← hok'.length_readable_eq, hread', List.length_append]
    omega
  have heq := @pp2_encode_frame_eq (c.setRecvbuf recvbuf) wsf hsend hok' hsize
  have hopcode : IsData (OPCODE wsf.byte1) := by
    rw [hbyte1]
    exact hdata
  have hless : skb_wrsz (c.setRecvbuf recvbuf).pp2sk.sendbuf < wsf.payload_len + PP2_HEADER_LEN := by
    rw [hlen]
    exact hfull
  have hproto : (c.setRecvbuf recvbuf).pp2sk.proto.encode_frame = some .pp2_encode_frame := hencode
  refine ⟨recvbuf, ?_, hok', hread', hwr, by rw [hpos, length_maskedHeader]⟩
  rw [hdecode]
  unfold dispatch_payload
  simp only [if_pos hopcode, hproto, encode_frame]
  rw [heq, if_pos hless]

end Data

/-- The bytes start with a header which no masked frame has. -/
def Malformed (r : List UInt8) : Prop :=
  ∃ byte1 byte2 rest, r = byte1 :: byte2 :: rest ∧ 4 ≤ rest.length ∧
    ¬ (RsvClear byte1 ∧ MASK_BIT byte2 ≠ 0)

/-- The bytes end before or inside the masking key which follows an extended
    length, where the decoder stops behind the `consumed` bytes up to the key. -/
def KeyCut (r : List UInt8) (consumed : Nat) : Prop :=
  ∃ byte1 byte2 rest, r = byte1 :: byte2 :: rest ∧ RsvClear byte1 ∧ MASK_BIT byte2 ≠ 0 ∧
    (PAYLOAD_LEN byte2 = 126 ∧ consumed = 4 ∧ 4 ≤ rest.length ∧ rest.length < 6 ∨
      PAYLOAD_LEN byte2 = 127 ∧ consumed = 10 ∧ 8 ≤ rest.length ∧ rest.length < 12)

theorem Malformed.two_le {b : Skb} (h : Malformed b.readable) (hok : b.Ok) : 2 ≤ skb_rdsz b := by
  obtain ⟨byte1, byte2, rest, hread, -⟩ := h
  rw [← hok.length_readable_eq, hread]
  simp

theorem KeyCut.consumed_le {b : Skb} {consumed : Nat} (h : KeyCut b.readable consumed) (hok : b.Ok) :
    consumed ≤ skb_rdsz b := by
  obtain ⟨byte1, byte2, rest, hread, -, -, hcut⟩ := h
  rw [← hok.length_readable_eq, hread]
  simp only [List.length_cons]
  omega

theorem ws_decode_frame_short {c : Conn} (h : skb_rdsz c.sk.recvbuf < 6) :
    ws_decode_frame c = .ok (-1, { c with wsd_errno := .WSD_EINPUT }) :=
  if_pos h

theorem ws_decode_frame_malformed {c : Conn} (hok : c.sk.recvbuf.Ok) (h : Malformed c.sk.recvbuf.readable) :
    ws_decode_frame c =
      .ok (-1, { c.setRecvbuf (skb_rd_forward c.sk.recvbuf 2) with wsd_errno := .WSD_EBADREQ }) := by
  obtain ⟨byte1, byte2, rest, hread, hlen, hbad⟩ := h
  have hsize : ¬ skb_rdsz c.sk.recvbuf < WS_MASKED_FRAME_LEN := by
    rw [← hok.length_readable_eq, hread]
    simp only [List.length_cons, WS_MASKED_FRAME_LEN]
    omega
  obtain ⟨b1, b2, hget1, hget2, -, -, -, hb2⟩ := hok.get_header hread
  unfold ws_decode_frame
  rw [if_neg hsize]
  simp only [hget1, hget2, if_pos ((header_check_iff byte1 byte2).mpr hbad)]
  rw [hb2]
  rfl

/-- The slip: where the bytes end in the masking key, the read position is not
    set back to the start of the frame. -/
theorem ws_decode_frame_keyCut {c : Conn} (hok : c.sk.recvbuf.Ok) {consumed : Nat}
    (h : KeyCut c.sk.recvbuf.readable consumed) :
    ws_decode_frame c =
      .ok (-1, { c.setRecvbuf (skb_rd_forward c.sk.recvbuf consumed) with wsd_errno := .WSD_EINPUT }) := by
  obtain ⟨byte1, byte2, rest, hread, hrsv, hmask, hcut⟩ := h
  have hsize : ¬ skb_rdsz c.sk.recvbuf < WS_MASKED_FRAME_LEN := by
    rw [← hok.length_readable_eq, hread]
    simp only [List.length_cons, WS_MASKED_FRAME_LEN]
    omega
  obtain ⟨b1, b2, hget1, hget2, hok2, hread2, hpos2, hb2⟩ := hok.get_header hread
  have hcheck := mt (header_check_iff byte1 byte2).mp (not_not.mpr ⟨hrsv, hmask⟩)
  have hrdsz2 : skb_rdsz b2 = rest.length := by rw [← hok2.length_readable_eq, hread2]
  have hforward (n : Nat) : (skb_get b2 n).2 = skb_rd_forward c.sk.recvbuf (2 + n) := by
    rw [hb2]
    refine Skb.ext ?_ rfl rfl
    simp only [skb_get, skb_rd_forward, u32]
    omega
  unfold ws_decode_frame
  rw [if_neg hsize]
  simp only [hget1, hget2, if_neg hcheck]
  obtain ⟨hlen, rfl, hlo, hhi⟩ | ⟨hlen, rfl, hlo, hhi⟩ := hcut
  · have hleft : skb_rdsz (skb_get b2 2).2 < 4 := by
      rw [hok2.rdsz_get (by omega)]
      omega
    have hdecode : ws_decode_payload_len b2 byte2 c.wsd_errno =
        (Bytes.beVal (skb_get b2 2).1, (skb_get b2 2).2, c.wsd_errno) := by
      unfold ws_decode_payload_len
      rw [if_neg (by omega), if_pos hlen, if_neg (by omega)]
    simp only [hdecode]
    rw [if_neg (by omega), if_pos (by omega), hforward]
    rfl
  · have hleft : skb_rdsz (skb_get b2 8).2 < 4 := by
      rw [hok2.rdsz_get (by omega)]
      omega
    have hdecode : ws_decode_payload_len b2 byte2 c.wsd_errno =
        (Bytes.beVal (skb_get b2 8).1, (skb_get b2 8).2, c.wsd_errno) := by
      unfold ws_decode_payload_len
      rw [if_neg (by omega), if_neg (by omega), if_pos hlen, if_neg (by omega)]
    simp only [hdecode]
    rw [if_neg (by omega), if_pos (by omega), hforward]
    rfl

/-- A complete header whose payload is not complete leaves everything as it was. -/
theorem ws_decode_frame_payloadCut {c : Conn} (hok : c.sk.recvbuf.Ok) {byte1 : UInt8} {form : LenForm}
    {len : Nat} {key : UInt32} {body : List UInt8} (hrsv : RsvClear byte1) (hfits : form.Fits len)
    (hread : c.sk.recvbuf.readable = maskedHeader byte1 form len key ++ body) (hbody : body.length < len) :
    ws_decode_frame c = .ok (-1, { c with wsd_errno := .WSD_EINPUT }) := by
  have hcode := LenForm.code_lt hfits
  have hsize : ¬ skb_rdsz c.sk.recvbuf < WS_MASKED_FRAME_LEN := by
    rw [← hok.length_readable_eq, hread, List.length_append, length_maskedHeader]
    simp only [WS_MASKED_FRAME_LEN]
    omega
  have hbytes : c.sk.recvbuf.readable = byte1 :: UInt8.ofNat (128 + form.code len) ::
      (form.ext len ++ (Bytes.le 4 key.toNat ++ body)) := by
    rw [hread]
    simp [maskedHeader]
  obtain ⟨b1, b2, hget1, hget2, hok2, hread2, hpos2, hb2⟩ := hok.get_header hbytes
  obtain ⟨b3, hget3, hok3, hread3, hpos3, hwr3, hdata3⟩ := ws_decode_payload_len_spec c.wsd_errno hok2
    hfits (payload_len_masked hcode) hread2
  have hkey : 4 ≤ skb_rdsz b3 := by
    rw [← hok3.length_readable_eq, hread3, List.length_append, Bytes.length_le]
    omega
  have hleft : skb_rdsz (skb_get b3 4).2 = body.length := by
    rw [hok3.rdsz_get hkey, ← hok3.length_readable_eq, hread3, List.length_append, Bytes.length_le]
    omega
  have hcheck := mt (header_check_iff byte1 (UInt8.ofNat (128 + form.code len))).mp
    (not_not.mpr ⟨hrsv, mask_bit_masked hcode⟩)
  unfold ws_decode_frame
  rw [if_neg hsize]
  simp only [hget1, hget2, hget3, if_neg hcheck]
  rw [if_neg (by omega), if_neg (by omega)]
  have hrestore : { (skb_get b3 4).2 with rdpos := c.sk.recvbuf.rdpos } = c.sk.recvbuf := by
    refine Skb.ext rfl ?_ ?_
    · exact hwr3.trans (by rw [hb2]; rfl)
    · exact hdata3.trans (by rw [hb2]; rfl)
  have hlong : len > skb_rdsz (skb_get b3 4).2 := by omega
  simp only [if_pos hlong, hrestore]
  rfl

/-- An eight-byte extended length which is cut decodes to the error value; as a
    length it exceeds every buffer, which restores the read position. -/
theorem ws_decode_frame_lenCut {c : Conn} (hok : c.sk.recvbuf.Ok) {byte1 byte2 : UInt8} {rest : List UInt8}
    (hread : c.sk.recvbuf.readable = byte1 :: byte2 :: rest) (hrsv : RsvClear byte1)
    (hmask : MASK_BIT byte2 ≠ 0) (hlen : PAYLOAD_LEN byte2 = 127) (hlo : 4 ≤ rest.length)
    (hhi : rest.length < 8) :
    ws_decode_frame c = .ok (-1, { c with wsd_errno := .WSD_EINPUT }) := by
  have hsize : ¬ skb_rdsz c.sk.recvbuf < WS_MASKED_FRAME_LEN := by
    rw [← hok.length_readable_eq, hread]
    simp only [List.length_cons, WS_MASKED_FRAME_LEN]
    omega
  obtain ⟨b1, b2, hget1, hget2, hok2, hread2, hpos2, hb2⟩ := hok.get_header hread
  have hcheck := mt (header_check_iff byte1 byte2).mp (not_not.mpr ⟨hrsv, hmask⟩)
  have hrdsz2 : skb_rdsz b2 = rest.length := by rw [← hok2.length_readable_eq, hread2]
  have hdecode : ws_decode_payload_len b2 byte2 c.wsd_errno = (ULONG_MAX, b2, .WSD_EINPUT) := by
    unfold ws_decode_payload_len
    rw [if_neg (by omega), if_neg (by omega), if_pos hlen, if_pos (by omega)]
  have hlong : ULONG_MAX > skb_rdsz (skb_get b2 4).2 := by
    rw [hok2.rdsz_get (by omega), hrdsz2]
    unfold ULONG_MAX
    omega
  have hrestore : { (skb_get b2 4).2 with rdpos := c.sk.recvbuf.rdpos } = c.sk.recvbuf := by
    rw [hb2]
    exact Skb.ext rfl rfl rfl
  unfold ws_decode_frame
  rw [if_neg hsize]
  simp only [hget1, hget2, if_neg hcheck, hdecode]
  rw [if_neg (by decide), if_neg (by omega)]
  simp only [if_pos hlong, hrestore]
  rfl

/-- What the decoder finds at the read position, and what it then does: it
    dispatches a complete frame, rejects a header, stops in a masking key, or
    asks for more input with everything as it was. -/
theorem ws_decode_frame_cases {c : Conn} (hok : c.sk.recvbuf.Ok) :
    (∃ f : Frame, ∃ key rest, c.sk.recvbuf.readable = f.masked key ++ rest) ∨
      Malformed c.sk.recvbuf.readable ∨ (∃ consumed, KeyCut c.sk.recvbuf.readable consumed) ∨
      (¬ ∃ consumed, KeyCut c.sk.recvbuf.readable consumed) ∧
        ws_decode_frame c = .ok (-1, { c with wsd_errno := .WSD_EINPUT }) := by
  by_cases hcut : ∃ consumed, KeyCut c.sk.recvbuf.readable consumed
  · exact Or.inr (Or.inr (Or.inl hcut))
  by_cases hsize : skb_rdsz c.sk.recvbuf < 6
  · exact Or.inr (Or.inr (Or.inr ⟨hcut, ws_decode_frame_short hsize⟩))
  have hlen := hok.length_readable_eq
  match hread : c.sk.recvbuf.readable with
  | [] | [_] =>
    rw [hread] at hlen
    simp at hlen
    omega
  | byte1 :: byte2 :: rest =>
    rw [hread] at hlen hcut
    have hrest : 4 ≤ rest.length := by
      simp only [List.length_cons] at hlen
      omega
    by_cases hheader : RsvClear byte1 ∧ MASK_BIT byte2 ≠ 0
    · obtain ⟨hrsv, hmask⟩ := hheader
      have hnot (consumed : Nat) : ¬ (PAYLOAD_LEN byte2 = 126 ∧ consumed = 4 ∧ 4 ≤ rest.length ∧
          rest.length < 6 ∨ PAYLOAD_LEN byte2 = 127 ∧ consumed = 10 ∧ 8 ≤ rest.length ∧ rest.length < 12) :=
        fun h => hcut ⟨consumed, byte1, byte2, rest, rfl, hrsv, hmask, h⟩
      have hlt := payload_len_lt byte2
      have h4 := hnot 4
      have h10 := hnot 10
      by_cases hlencut : PAYLOAD_LEN byte2 = 127 ∧ rest.length < 8
      · exact Or.inr (Or.inr (Or.inr ⟨hcut,
          ws_decode_frame_lenCut hok hread hrsv hmask hlencut.1 hrest hlencut.2⟩))
      · have henough : extLenOf byte2 + 4 ≤ rest.length := by
          unfold extLenOf
          split
          · omega
          · split <;> omega
        obtain ⟨form, len, key, body, hfits, hcode, hbytes⟩ := exists_maskedHeader hmask henough
        by_cases hbody : body.length < len
        · exact Or.inr (Or.inr (Or.inr ⟨hcut,
            ws_decode_frame_payloadCut hok hrsv hfits (hread.trans hbytes) hbody⟩))
        · obtain ⟨f, hf⟩ := maskedHeader_complete key hrsv hfits (Nat.le_of_not_lt hbody)
          exact Or.inl ⟨f, key, body.drop len, hbytes.trans hf⟩
    · exact Or.inr (Or.inl ⟨byte1, byte2, rest, rfl, hrest, hheader⟩)

end wsd
