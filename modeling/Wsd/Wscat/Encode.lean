import Wsd.Wscat.Decode
import Wsd.Wscat.Stdin
import Wsd.Ws.Sent

namespace wsd

/-- The text frame which carries a payload, with the length in its shortest form. -/
def Frame.text (payload : List UInt8) (hlen : payload.length < 18446744073709551616) : Frame where
  byte1 := set_opcode (set_fin_bit 0) WS_TEXT_FRAME
  form := LenForm.shortest payload.length
  payload
  rsv := by decide
  fits := LenForm.fits_shortest hlen

theorem Frame.byte1_text (payload : List UInt8) (hlen : payload.length < 18446744073709551616) :
    (Frame.text payload hlen).byte1 = 0x81 :=
  show set_opcode (set_fin_bit 0) WS_TEXT_FRAME = 0x81 by decide

theorem Frame.opcode_text (payload : List UInt8) (hlen : payload.length < 18446744073709551616) :
    (Frame.text payload hlen).opcode = WS_TEXT_FRAME := by
  rw [Frame.opcode, Frame.byte1_text]
  decide

theorem Frame.isData_text (payload : List UInt8) (hlen : payload.length < 18446744073709551616) :
    IsData (Frame.text payload hlen).opcode := by
  rw [Frame.opcode_text]
  decide

/-- The key under which wscat masks its data frames. -/
def DATA_KEY : UInt32 := 0xdeadbeef

/-- The length of a masked text frame with so many payload bytes. -/
def maskedLen (n : Nat) : Nat :=
  6 + (LenForm.shortest n).extLen + n

theorem frameLen_le_maskedLen (n : Nat) : frameLen n ≤ maskedLen n := by
  unfold frameLen maskedLen LenForm.shortest
  by_cases hshort : n < 126
  · simp only [if_pos hshort]
    omega
  · by_cases hmedium : n ≤ 65535
    · simp only [if_neg hshort, if_pos hmedium, LenForm.extLen]
      omega
    · simp only [if_neg hshort, if_neg hmedium, LenForm.extLen]
      omega

/-- The masking loop appends the masked bytes of the source to the destination. -/
theorem mask_transfer_eq (key n i : Nat) (dst src : Skb) (hdst : dst.wrpos + n < 4294967296)
    (hsrc : src.rdpos + n < 4294967296) :
    mask_transfer key n i dst src =
      (skb_put dst (maskFrom key i (src.data.window src.rdpos n)), skb_rd_forward src n) := by
  induction n generalizing i dst src with
  | zero =>
    have hw : u32 dst.wrpos = dst.wrpos := u32_of_lt (by omega)
    have hr : u32 src.rdpos = src.rdpos := u32_of_lt (by omega)
    simp [mask_transfer, maskFrom, skb_put, skb_rd_forward, hw, hr]
  | succ n ih =>
    have hw : u32 (dst.wrpos + 1) = dst.wrpos + 1 := u32_of_lt (by omega)
    have hr : u32 (src.rdpos + 1) = src.rdpos + 1 := u32_of_lt (by omega)
    rw [mask_transfer, hw, hr, ih _ _ _ (by simp only; omega) (by simp only; omega)]
    have hstore := Memory.store_append dst.data dst.wrpos [mask (src.data src.rdpos) i key]
      (maskFrom key (i + 1) (src.data.window (src.rdpos + 1) n))
    have hcount : 1 + n = n + 1 := Nat.add_comm 1 n
    rw [List.singleton_append, List.length_singleton] at hstore
    simp only [skb_put, skb_rd_forward, Memory.window_succ, maskFrom, length_maskFrom, Memory.length_window,
      List.length_cons, hstore, Nat.add_assoc, hcount]

section Encode

variable {dst src : Skb} {maxlen : Nat}

/-- The number of bytes which the encoder takes from its source. -/
def dataLen (src : Skb) (maxlen : Nat) : Nat :=
  if skb_rdsz src < maxlen then skb_rdsz src else maxlen

theorem dataLen_le (src : Skb) (maxlen : Nat) : dataLen src maxlen ≤ skb_rdsz src := by
  unfold dataLen
  split <;> omega

theorem take_dataLen (hsrc : src.Ok) : src.readable.take (dataLen src maxlen) = src.readable.take maxlen := by
  unfold dataLen
  split
  · rename_i hless
    rw [← hsrc.length_readable_eq] at hless ⊢
    rw [List.take_length, List.take_of_length_le (Nat.le_of_lt hless)]
  · rfl

theorem length_take_dataLen (hsrc : src.Ok) : (src.readable.take maxlen).length = dataLen src maxlen := by
  rw [← take_dataLen hsrc, List.length_take, hsrc.length_readable_eq, Nat.min_eq_left (dataLen_le src maxlen)]

theorem length_text_masked (payload : List UInt8) (hlen : payload.length < 18446744073709551616) (key : UInt32) :
    ((Frame.text payload hlen).masked key).length = 6 + (LenForm.shortest payload.length).extLen + payload.length :=
  Frame.length_masked _ key

/-- The encoder behind the computation of the payload length. -/
def put_data_frame (dst src : Skb) (payload_len : Nat) (wsd_errno : Errno) : Except Fault (Int × Skb × Skb × Errno) := do
  let (frame_len, wsd_errno) := ws_calculate_frame_length payload_len wsd_errno
  if 0 > frame_len then
    return (-1, dst, src, wsd_errno)
  else if frame_len > skb_wrsz dst then
    return (-1, dst, src, .WSD_EAGAIN)
  else
    let dst := skb_put dst [set_opcode (set_fin_bit 0) WS_TEXT_FRAME]
    let (rv, dst) := ws_set_payload_len dst payload_len (set_mask_bit 0)
    assert .wssk_ws_encode_data_frame_set_payload_len (rv = 0)
    let (dst, src) := mask_transfer 0xdeadbeef payload_len 0 (skb_put dst (Bytes.le 4 0xdeadbeef)) src
    return (0, dst, skb_compact src, wsd_errno)

theorem wssk_ws_encode_data_frame_put {wsd_errno : Errno} {n : Nat} (hn : dataLen src maxlen = n) :
    wssk_ws_encode_data_frame dst src maxlen wsd_errno = put_data_frame dst src n wsd_errno := by
  have hdef : (if skb_rdsz src < maxlen then skb_rdsz src else maxlen) = n := hn
  generalize hf : wssk_ws_encode_data_frame = f
  delta wssk_ws_encode_data_frame at hf
  subst hf
  beta_reduce
  rw [hdef]
  rfl

/-- Where the computed length exceeds the free space nothing but `wsd_errno` changes. -/
theorem put_data_frame_full {wsd_errno : Errno} {n : Nat} (hn : n ≤ SKB_SIZE) (hfull : skb_wrsz dst < frameLen n) :
    put_data_frame dst src n wsd_errno = .ok (-1, dst, src, .WSD_EAGAIN) := by
  have hframe := ws_calculate_frame_length_eq hn wsd_errno
  change _ = (((frameLen n : Nat) : Int), wsd_errno) at hframe
  have hneg : ¬ (0 : Int) > (frameLen n : Nat) := by omega
  have hmore : ((frameLen n : Nat) : Int) > skb_wrsz dst := by omega
  unfold put_data_frame
  simp only [hframe, if_neg hneg, if_pos hmore, Except.pure_eq_ok]

theorem wssk_ws_encode_data_frame_full {wsd_errno : Errno} (hsrc : src.Ok)
    (hfull : skb_wrsz dst < frameLen (dataLen src maxlen)) :
    wssk_ws_encode_data_frame dst src maxlen wsd_errno = .ok (-1, dst, src, .WSD_EAGAIN) :=
  (wssk_ws_encode_data_frame_put rfl).trans
    (put_data_frame_full (Nat.le_trans (dataLen_le src maxlen) hsrc.rdsz_le) hfull)

/-- What the encoder puts behind the first header byte, with room for the whole frame. -/
theorem put_masked_frame {payload : List UInt8} (hlen : payload.length < 18446744073709551616) (hdst : dst.Ok)
    (hroom : ((Frame.text payload hlen).masked DATA_KEY).length ≤ skb_wrsz dst) :
    ∃ b, ws_set_payload_len (skb_put dst [set_opcode (set_fin_bit 0) WS_TEXT_FRAME]) payload.length (set_mask_bit 0) =
        (0, b) ∧ (skb_put b (Bytes.le 4 0xdeadbeef)).Ok ∧
      payload.length ≤ skb_wrsz (skb_put b (Bytes.le 4 0xdeadbeef)) ∧
      skb_put (skb_put b (Bytes.le 4 0xdeadbeef)) (maskFrom 0xdeadbeef 0 payload) =
        skb_put dst ((Frame.text payload hlen).masked DATA_KEY) := by
  have hwr := hdst.wrpos_le
  have hwrsz := hdst.wrsz_eq
  rw [length_text_masked] at hroom
  have hput : [set_opcode (set_fin_bit 0) WS_TEXT_FRAME].length ≤ skb_wrsz dst := by
    simp only [List.length_singleton]
    omega
  have hok := hdst.put hput
  have hleft := hdst.wrsz_put hput
  rw [List.length_singleton] at hleft
  have hset := ws_set_payload_len_put (set_mask_bit 0) hok
    (show payload.length < 9223372036854775808 by unfold SKB_SIZE at *; omega) (by rw [length_payloadLenBytes]; omega)
  rw [set_payload_bits_mask (LenForm.code_lt (LenForm.fits_shortest hlen)), hdst.put_put hput] at hset
  refine ⟨_, hset, ?_⟩
  have hhead : ([set_opcode (set_fin_bit 0) WS_TEXT_FRAME] ++
      UInt8.ofNat (128 + (LenForm.shortest payload.length).code payload.length) ::
        (LenForm.shortest payload.length).ext payload.length).length ≤ skb_wrsz dst := by
    simp only [List.length_append, List.length_cons, List.length_nil, LenForm.length_ext]
    omega
  have hkey : ([set_opcode (set_fin_bit 0) WS_TEXT_FRAME] ++
      UInt8.ofNat (128 + (LenForm.shortest payload.length).code payload.length) ::
        (LenForm.shortest payload.length).ext payload.length ++ Bytes.le 4 0xdeadbeef).length ≤ skb_wrsz dst := by
    simp only [List.length_append, List.length_cons, List.length_nil, LenForm.length_ext, Bytes.length_le]
    omega
  rw [hdst.put_put hhead, hdst.put_put hkey, hdst.wrsz_put hkey]
  refine ⟨hdst.put hkey, ?_, rfl⟩
  simp only [List.length_append, List.length_cons, List.length_nil, LenForm.length_ext, Bytes.length_le]
  omega

theorem put_data_frame_eq {wsd_errno : Errno} {payload : List UInt8} (hdst : dst.Ok) (hsrc : src.Ok)
    (hlen : payload.length < 18446744073709551616) (hread : src.readable.take payload.length = payload)
    (hroom : ((Frame.text payload hlen).masked DATA_KEY).length ≤ skb_wrsz dst) :
    put_data_frame dst src payload.length wsd_errno =
      .ok (0, skb_put dst ((Frame.text payload hlen).masked DATA_KEY),
        skb_compact (skb_rd_forward src payload.length), wsd_errno) := by
  have hle : payload.length ≤ skb_rdsz src := by
    have hcut := congrArg List.length hread
    rw [List.length_take, hsrc.length_readable_eq] at hcut
    omega
  have hbytes := hsrc.transfer_bytes hle
  rw [hread] at hbytes
  have hrd := hsrc.rdpos_le
  have hend := hsrc.wrpos_le
  have hrdsz := hsrc.rdsz_eq
  have hframe := ws_calculate_frame_length_eq (Nat.le_trans hle hsrc.rdsz_le) wsd_errno
  change _ = (((frameLen payload.length : Nat) : Int), wsd_errno) at hframe
  have hless := frameLen_lt_length_wsFrame payload
  rw [length_wsFrame] at hless
  obtain ⟨b, hset, hok, hleft, hputs⟩ := put_masked_frame hlen hdst hroom
  rw [length_text_masked] at hroom
  have hneg : ¬ (0 : Int) > (frameLen payload.length : Nat) := by omega
  have hmore : ¬ ((frameLen payload.length : Nat) : Int) > skb_wrsz dst := by omega
  have hwr := hok.wrpos_le
  have hwrsz := hok.wrsz_eq
  unfold SKB_SIZE at hend hwr hwrsz
  have hmask := mask_transfer_eq 0xdeadbeef payload.length 0 (skb_put b (Bytes.le 4 0xdeadbeef)) src (by omega)
    (by omega)
  rw [hbytes, hputs] at hmask
  unfold put_data_frame
  simp only [hframe, if_neg hneg, if_neg hmore, hset, decide_true, assert_true, Except.ok_bind, hmask,
    Except.pure_eq_ok]

/-- With room for it, one masked text frame is put which carries the taken bytes. -/
theorem wssk_ws_encode_data_frame_eq {wsd_errno : Errno} (hdst : dst.Ok) (hsrc : src.Ok)
    (hlen : (src.readable.take maxlen).length < 18446744073709551616)
    (hroom : ((Frame.text (src.readable.take maxlen) hlen).masked DATA_KEY).length ≤ skb_wrsz dst) :
    wssk_ws_encode_data_frame dst src maxlen wsd_errno =
      .ok (0, skb_put dst ((Frame.text (src.readable.take maxlen) hlen).masked DATA_KEY),
        skb_compact (skb_rd_forward src (src.readable.take maxlen).length), wsd_errno) := by
  have htake := @length_take_dataLen src maxlen hsrc
  rw [wssk_ws_encode_data_frame_put htake.symm]
  refine put_data_frame_eq hdst hsrc hlen ?_ hroom
  rw [htake, take_dataLen hsrc]

/-- Where the computed length fits, the encoder never asks to be called again. -/
theorem put_data_frame_taken {wsd_errno e : Errno} {n : Nat} {rv : Int} {dst' src' : Skb} (hn : n ≤ SKB_SIZE)
    (hfit : frameLen n ≤ skb_wrsz dst) (h : put_data_frame dst src n wsd_errno = .ok (rv, dst', src', e)) : rv = 0 := by
  have hframe := ws_calculate_frame_length_eq hn wsd_errno
  change _ = (((frameLen n : Nat) : Int), wsd_errno) at hframe
  have hneg : ¬ (0 : Int) > (frameLen n : Nat) := by omega
  have hmore : ¬ ((frameLen n : Nat) : Int) > skb_wrsz dst := by omega
  unfold put_data_frame at h
  simp only [hframe, if_neg hneg, if_neg hmore] at h
  generalize decide ((ws_set_payload_len _ n (set_mask_bit 0)).1 = 0) = done at h
  cases done with
  | false => cases h
  | true => cases h; rfl

/-- The encoder appends no more than there is room for, and without room for its whole frame it
    asks to be called again and leaves both buffers as they are. -/
structure Bounded (dst src : Skb) (maxlen : Nat) (wsd_errno : Errno) : Prop where
  room {dst' src' : Skb} {e : Errno} : wssk_ws_encode_data_frame dst src maxlen wsd_errno = .ok (0, dst', src', e) →
    dst'.wrpos - dst.wrpos ≤ skb_wrsz dst ∧ dst'.wrpos ≤ SKB_SIZE
  waits : skb_wrsz dst < maskedLen (dataLen src maxlen) →
    wssk_ws_encode_data_frame dst src maxlen wsd_errno = .ok (-1, dst, src, .WSD_EAGAIN)

theorem Bounded.room_of_fit {wsd_errno : Errno} (h : Bounded dst src maxlen wsd_errno) (hsrc : src.Ok)
    (hfit : frameLen (dataLen src maxlen) ≤ skb_wrsz dst) : maskedLen (dataLen src maxlen) ≤ skb_wrsz dst := by
  refine Nat.le_of_not_lt fun hgap => ?_
  have hagain := h.waits hgap
  rw [wssk_ws_encode_data_frame_put rfl] at hagain
  have hzero := put_data_frame_taken (Nat.le_trans (dataLen_le src maxlen) hsrc.rdsz_le) hfit hagain
  exact absurd hzero (by decide)

/-- With room for its masked frame the encoder appends exactly that many bytes. -/
theorem wssk_ws_encode_data_frame_wrpos {wsd_errno e : Errno} {dst' src' : Skb} {rv : Int} (hdst : dst.Ok)
    (hsrc : src.Ok) (hroom : maskedLen (dataLen src maxlen) ≤ skb_wrsz dst)
    (h : wssk_ws_encode_data_frame dst src maxlen wsd_errno = .ok (rv, dst', src', e)) :
    dst'.wrpos = dst.wrpos + maskedLen (dataLen src maxlen) := by
  have htake := @length_take_dataLen src maxlen hsrc
  have hsize := Nat.le_trans (dataLen_le src maxlen) hsrc.rdsz_le
  unfold SKB_SIZE at hsize
  have hlen : (src.readable.take maxlen).length < 18446744073709551616 := by omega
  have hframe : ((Frame.text (src.readable.take maxlen) hlen).masked DATA_KEY).length =
      maskedLen (dataLen src maxlen) := by
    rw [length_text_masked, htake, maskedLen]
  rw [wssk_ws_encode_data_frame_eq hdst hsrc hlen (by omega)] at h
  cases h
  rw [hdst.put_wrpos (by omega), hframe]

/-- The computed length leaves the masking key and a part of the length field out: the encoder
    keeps to the room of its buffer except where that room lies between the two lengths. -/
theorem data_frame_bounded_iff (wsd_errno : Errno) (hdst : dst.Ok) (hsrc : src.Ok) :
    Bounded dst src maxlen wsd_errno ↔
      skb_wrsz dst < frameLen (dataLen src maxlen) ∨ maskedLen (dataLen src maxlen) ≤ skb_wrsz dst := by
  have hwrsz := hdst.wrsz_eq
  have hwr := hdst.wrpos_le
  constructor
  · intro h
    rcases Nat.lt_or_ge (skb_wrsz dst) (frameLen (dataLen src maxlen)) with hless | hfit
    · exact .inl hless
    · exact .inr (h.room_of_fit hsrc hfit)
  · rintro (hless | hroom)
    · have hfull := @wssk_ws_encode_data_frame_full dst src maxlen wsd_errno hsrc hless
      refine ⟨fun h => ?_, fun _ => hfull⟩
      rw [hfull] at h
      cases h
    · refine ⟨fun h => ?_, fun hless => absurd hroom (Nat.not_le_of_lt hless)⟩
      have hput := wssk_ws_encode_data_frame_wrpos hdst hsrc hroom h
      omega

end Encode

/-- A buffer with three free bytes, and one byte to encode. -/
def nearlyFull : Skb where
  data := default
  rdpos := 0
  wrpos := SKB_SIZE - 3

def oneByte : Skb where
  data := default
  rdpos := 0
  wrpos := 1

theorem data_frame_bounded_empty : Bounded (skb_reset nearlyFull) oneByte 32 .WSD_EAGAIN :=
  (data_frame_bounded_iff .WSD_EAGAIN (Skb.ok_reset _) ⟨by decide, by decide⟩).2 (.inr (by decide))

/-- One byte is put as a frame of seven bytes where three are free. -/
theorem data_frame_overrun : ¬ Bounded nearlyFull oneByte 32 .WSD_EAGAIN ∧
    (wssk_ws_encode_data_frame nearlyFull oneByte 32 .WSD_EAGAIN).map (fun (rv, dst, _) => (rv, dst.wrpos)) =
      .ok (0, SKB_SIZE + 4) := by
  refine ⟨fun h => ?_, by decide⟩
  have hroom := h.room_of_fit ⟨by decide, by decide⟩ (by decide)
  exact absurd hroom (by decide)

end wsd
