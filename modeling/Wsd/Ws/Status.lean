import Wsd.Common.Sk
import Wsd.Ws.Sent

namespace wsd

/-- The bytes are one close frame, masked or not as its sender must, whose payload is the status
    in network order once the masking key has been taken off. -/
def CarriesStatus (bytes : List UInt8) (do_mask : Bool) (status : Nat) : Prop :=
  ∃ f : Frame, f.opcode = WS_CLOSE_FRAME ∧ f.payload = Bytes.be 2 status ∧
    if do_mask then ∃ key : UInt32, bytes = f.masked key else bytes = f.unmasked

/-- The statuses which the shift in the masked branch leaves as they are. -/
def StatusKept (do_mask : Bool) (status : Nat) : Prop :=
  do_mask = false ∨ status = 0x5555 ∨ status = 0xaaaa ∨ status = 0xffff

section Payload

variable {status : Nat}

theorem le_leVal_be (status : Nat) : Bytes.le 2 (Bytes.leVal (Bytes.be 2 status)) = Bytes.be 2 status := by
  have h := Bytes.le_leVal (Bytes.be 2 status)
  rwa [Bytes.length_be] at h

theorem be_two (status : Nat) : Bytes.be 2 status = [UInt8.ofNat (status / 256), UInt8.ofNat status] := rfl

/-- The bytes which the shift by two takes from a doubled byte to itself. -/
theorem shift_doubled : ∀ b < 256, b * 257 / 4 % 256 = b → b = 0 ∨ b = 0x55 ∨ b = 0xaa ∨ b = 0xff := by
  decide +kernel

/-- The two bytes of the swapped status, the shifted one and the low one, are those of the status
    in their order only if all four agree. -/
theorem shifted_bytes_iff (h16 : status < 65536) (hpos : 0 < status) :
    [UInt8.ofNat (Bytes.leVal (Bytes.be 2 status) >>> 2), UInt8.ofNat (Bytes.leVal (Bytes.be 2 status) &&& 0xff)] =
      Bytes.be 2 status ↔ status = 0x5555 ∨ status = 0xaaaa ∨ status = 0xffff := by
  constructor
  · have hval : Bytes.leVal (Bytes.be 2 status) = status / 256 + 256 * (status % 256) := by
      rw [be_two]
      simp only [Bytes.leVal, UInt8.toNat_ofNat', Nat.mul_zero, Nat.add_zero]
      omega
    have hlow : (status / 256 + 256 * (status % 256)) &&& 0xff = (status / 256 + 256 * (status % 256)) % 256 :=
      Nat.and_two_pow_sub_one_eq_mod _ 8
    rw [hval, be_two, hlow, Nat.shiftRight_eq_div_pow]
    simp only [List.cons.injEq, and_true, ← UInt8.toNat_inj, UInt8.toNat_ofNat']
    rintro ⟨hshift, hsame⟩
    have hdouble : status / 256 + 256 * (status % 256) = status / 256 * 257 := by omega
    rw [hdouble] at hshift
    have hbyte := shift_doubled (status / 256) (by omega) (by omega)
    omega
  · rintro (rfl | rfl | rfl) <;> decide

/-- The payload is the status in network order, but for the shift in the masked branch. -/
theorem closePayload_eq_iff (do_mask : Bool) (h16 : status < 65536) :
    closePayload status do_mask = Bytes.be 2 status ↔ 0 < status ∧ StatusKept do_mask status := by
  unfold closePayload StatusKept
  by_cases hpos : 0 < status
  · cases do_mask with
    | false => simp [hpos, le_leVal_be]
    | true => simpa [hpos] using shifted_bytes_iff h16 hpos
  · rw [if_neg hpos]
    simp [hpos, be_two]

theorem carriesStatus_closeFrame_iff (do_mask : Bool) (h16 : status < 65536) :
    CarriesStatus (closeFrame status do_mask) do_mask status ↔ 0 < status ∧ StatusKept do_mask status := by
  rw [← closePayload_eq_iff do_mask h16]
  cases do_mask with
  | false =>
    obtain ⟨f, hpayload, hbytes, hopcode⟩ := closeFrame_unmasked status
    constructor
    · rintro ⟨g, -, hstatus, heq⟩
      obtain ⟨rfl, -⟩ := @Frame.unmasked_inj f g [] [] (by rw [hbytes, heq])
      exact hpayload.symm.trans hstatus
    · exact fun hstatus => ⟨f, hopcode, hpayload.trans hstatus, hbytes.symm⟩
  | true =>
    obtain ⟨f, hpayload, hbytes, hopcode⟩ := closeFrame_masked status
    constructor
    · rintro ⟨g, -, hstatus, key, heq⟩
      obtain ⟨rfl, -, -⟩ := @Frame.masked_inj f g 0xcafebabe key [] [] (by rw [hbytes, heq])
      exact hpayload.symm.trans hstatus
    · exact fun hstatus => ⟨f, hopcode, hpayload.trans hstatus, _, hbytes.symm⟩

end Payload

/-- The encoder puts a close frame which carries the status. -/
def CloseEncoded (dst : Skb) (status : Nat) (do_mask : Bool) (wsd_errno : Errno) : Prop :=
  ∃ bytes dst', encode_close_frame dst status do_mask wsd_errno = .ok (0, dst', wsd_errno) ∧
    dst.Appended bytes dst' ∧ CarriesStatus bytes do_mask status

/-- The status at the front of a received close payload. -/
def receivedStatus (recvbuf : Skb) : Nat :=
  Bytes.beVal (recvbuf.readable.take 2)

/-- A received close frame is answered with a close frame which carries its status. -/
def CloseAnswered (sk : Sk) (do_mask : Bool) (len : Nat) (wsd_errno : Errno) : Prop :=
  ∃ bytes sk', ws_finish_closing_handshake sk do_mask len wsd_errno = .ok (0, sk', wsd_errno) ∧
    sk.sendbuf.Appended bytes sk'.sendbuf ∧ CarriesStatus bytes do_mask (receivedStatus sk.recvbuf)

/-- The length of a close frame with a status. -/
def closeRoom (do_mask : Bool) : Nat :=
  (if do_mask then WS_MASKED_FRAME_LEN else WS_UNMASKED_FRAME_LEN) + 2

theorem length_closeFrame_le (status : Nat) (do_mask : Bool) : (closeFrame status do_mask).length ≤ closeRoom do_mask := by
  rw [length_closeFrame, closeRoom]
  have hstatus : (if 0 < status then 2 else 0) ≤ 2 := by split <;> omega
  exact Nat.add_le_add_left hstatus _

section Status

variable {do_mask : Bool} {wsd_errno : Errno}

theorem encode_close_frame_put {dst : Skb} {status : Nat} (hok : dst.Ok) (hroom : closeRoom do_mask ≤ skb_wrsz dst) :
    encode_close_frame dst status do_mask wsd_errno = .ok (0, skb_put dst (closeFrame status do_mask), wsd_errno) ∧
      dst.Appended (closeFrame status do_mask) (skb_put dst (closeFrame status do_mask)) := by
  have hfits := Nat.le_trans (length_closeFrame_le status do_mask) hroom
  rw [encode_close_frame_eq status do_mask wsd_errno hok, if_neg (Nat.not_lt.mpr hfits)]
  exact ⟨rfl, rfl, hfits⟩

theorem Skb.Appended.inj {b b' : Skb} {obj obj' : List UInt8} (hok : b.Ok) (h : b.Appended obj b')
    (h' : b.Appended obj' b') : obj = obj' :=
  List.append_cancel_left ((h.readable hok).symm.trans (h'.readable hok))

theorem closeEncoded_iff {dst : Skb} {status : Nat} (hok : dst.Ok) (h16 : status < 65536)
    (hroom : closeRoom do_mask ≤ skb_wrsz dst) :
    CloseEncoded dst status do_mask wsd_errno ↔ 0 < status ∧ StatusKept do_mask status := by
  obtain ⟨hencode, happended⟩ := @encode_close_frame_put do_mask wsd_errno dst status hok hroom
  rw [← carriesStatus_closeFrame_iff do_mask h16]
  constructor
  · rintro ⟨bytes, dst', h, hbytes, hcarries⟩
    rw [hencode] at h
    cases h
    rwa [happended.inj hok hbytes]
  · exact fun hcarries => ⟨_, _, hencode, happended, hcarries⟩

/-- With room for a status the reply is the close frame of the received one. -/
theorem ws_finish_closing_handshake_reply {sk : Sk} {len : Nat} (hclosing : sk.closing = false) (hlen : 2 ≤ len)
    (hread : 2 ≤ skb_rdsz sk.recvbuf) (hrecv : sk.recvbuf.Ok) (hsend : sk.sendbuf.Ok)
    (hroom : closeRoom do_mask ≤ skb_wrsz sk.sendbuf) :
    ∃ sk', ws_finish_closing_handshake sk do_mask len wsd_errno = .ok (0, sk', wsd_errno) ∧
      sk'.sendbuf = skb_put sk.sendbuf (closeFrame (receivedStatus sk.recvbuf) do_mask) := by
  have htwo : 2 ≤ skb_wrsz sk.sendbuf := Nat.le_trans (Nat.le_add_left 2 _) hroom
  have hstatus : Bytes.beVal (skb_get sk.recvbuf 2).1 = receivedStatus sk.recvbuf := by
    rw [hrecv.get_bytes hread, receivedStatus]
  obtain ⟨hencode, -⟩ := @encode_close_frame_put do_mask wsd_errno sk.sendbuf (receivedStatus sk.recvbuf) hsend hroom
  have hgets : WS_FRAME_STATUS_LEN ≤ len ∧ WS_FRAME_STATUS_LEN ≤ skb_wrsz sk.sendbuf := ⟨hlen, htwo⟩
  unfold ws_finish_closing_handshake
  simp only [hclosing, Bool.false_eq_true, if_false, if_pos hgets, hstatus, hencode, Except.ok_bind, if_true,
    Except.pure_eq_ok]
  exact ⟨_, rfl, rfl⟩

theorem closeAnswered_iff {sk : Sk} {len : Nat} (hclosing : sk.closing = false) (hlen : 2 ≤ len)
    (hread : 2 ≤ skb_rdsz sk.recvbuf) (hrecv : sk.recvbuf.Ok) (hsend : sk.sendbuf.Ok)
    (hroom : closeRoom do_mask ≤ skb_wrsz sk.sendbuf) :
    CloseAnswered sk do_mask len wsd_errno ↔
      0 < receivedStatus sk.recvbuf ∧ StatusKept do_mask (receivedStatus sk.recvbuf) := by
  have h16 : receivedStatus sk.recvbuf < 65536 := by
    have hlt := Bytes.beVal_lt (sk.recvbuf.readable.take 2)
    have htake : (sk.recvbuf.readable.take 2).length = 2 := by
      rw [List.length_take, hrecv.length_readable_eq]
      omega
    rwa [htake] at hlt
  obtain ⟨sk', hreply, hput⟩ := @ws_finish_closing_handshake_reply do_mask wsd_errno sk len hclosing hlen hread hrecv
    hsend hroom
  have happended : sk.sendbuf.Appended (closeFrame (receivedStatus sk.recvbuf) do_mask) sk'.sendbuf :=
    ⟨hput, Nat.le_trans (length_closeFrame_le _ do_mask) hroom⟩
  rw [← carriesStatus_closeFrame_iff do_mask h16]
  constructor
  · rintro ⟨bytes, sk'', h, hbytes, hcarries⟩
    rw [hreply] at h
    cases h
    rwa [happended.inj hsend hbytes]
  · exact fun hcarries => ⟨_, _, hreply, happended, hcarries⟩

end Status

/-- Unmasked close frames carry every status. Masked ones, whose first payload byte is the swapped
    status shifted by two bits and not by eight, carry three statuses only; and a received status
    of zero is answered with none. -/
theorem close_status_carried_iff (do_mask : Bool) (wsd_errno : Errno) :
    (∀ {dst : Skb} {status : Nat}, dst.Ok → 0 < status → status < 65536 → closeRoom do_mask ≤ skb_wrsz dst →
      (CloseEncoded dst status do_mask wsd_errno ↔ StatusKept do_mask status)) ∧
    ∀ {sk : Sk} {len : Nat}, sk.closing = false → 2 ≤ len → len ≤ skb_rdsz sk.recvbuf → sk.recvbuf.Ok →
      sk.sendbuf.Ok → closeRoom do_mask ≤ skb_wrsz sk.sendbuf →
      (CloseAnswered sk do_mask len wsd_errno ↔
        0 < receivedStatus sk.recvbuf ∧ StatusKept do_mask (receivedStatus sk.recvbuf)) := by
  refine ⟨fun hok hpos h16 hroom => ?_, fun hclosing hlen hread hrecv hsend hroom => ?_⟩
  · rw [closeEncoded_iff hok h16 hroom, and_iff_right hpos]
  · exact closeAnswered_iff hclosing hlen (Nat.le_trans hlen hread) hrecv hsend hroom

theorem close_status_carried_unmasked : CloseEncoded Skb.zero WS_1000 false .WSD_EAGAIN :=
  ((close_status_carried_iff false .WSD_EAGAIN).1 (Skb.ok_reset Skb.zero) (by decide) (by decide) (by decide)).2
    (.inl rfl)

/-- The masked encoding of the status 1000, which wscat sends at the end of its input, is not
    that status. -/
theorem close_status_shifted : ¬ CloseEncoded Skb.zero WS_1000 true .WSD_EAGAIN := by
  intro h
  obtain ⟨-, hkept⟩ := (closeEncoded_iff (Skb.ok_reset Skb.zero) (by decide) (by decide)).1 h
  revert hkept
  unfold StatusKept
  decide

end wsd
