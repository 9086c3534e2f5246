import Wsd.Common.Sk
import Wsd.Ws.PayloadLen

namespace wsd

/-- A second header byte with no payload bits yet. -/
def maskByte (mask : Bool) : UInt8 :=
  if mask then set_mask_bit 0 else 0

/-- The second header byte and the extended length as RFC 6455 lays them out, in one of the three forms. -/
def lenBytes (mask : Bool) (form : LenForm) (len : Nat) : List UInt8 :=
  UInt8.ofNat ((if mask then 128 else 0) + form.code len) :: form.ext len

@[simp] theorem length_lenBytes (mask : Bool) (form : LenForm) (len : Nat) :
    (lenBytes mask form len).length = 1 + form.extLen := by
  rw [lenBytes, List.length_cons, LenForm.length_ext, Nat.add_comm]

/-- Every form which can state the length takes as many bytes as the shortest one. -/
theorem LenForm.extLen_shortest_le {form : LenForm} {len : Nat} (h : form.Fits len) :
    (shortest len).extLen ≤ form.extLen := by
  unfold shortest
  by_cases h7 : len < 126
  · rw [if_pos h7]
    exact Nat.zero_le _
  · rw [if_neg h7]
    by_cases h16 : len ≤ 65535
    · rw [if_pos h16]
      cases form with
      | len7 => exact absurd h h7
      | len16 => exact Nat.le_refl _
      | len64 => exact (by decide : 2 ≤ 8)
    · rw [if_neg h16]
      cases form with
      | len7 => exact absurd h h7
      | len16 => exact absurd (Nat.le_of_lt_succ h) h16
      | len64 => exact Nat.le_refl _

theorem LenForm.extLen_shortest (len : Nat) :
    1 + (shortest len).extLen = if len < 126 then 1 else if len < 65536 then 3 else 9 := by
  unfold shortest
  by_cases h7 : len < 126
  · rw [if_pos h7, if_pos h7]
    rfl
  · rw [if_neg h7, if_neg h7]
    by_cases h16 : len ≤ 65535
    · rw [if_pos h16, if_pos (Nat.lt_succ_of_le h16)]
      rfl
    · rw [if_neg h16, if_neg fun h => h16 (Nat.le_of_lt_succ h)]
      rfl

section SecondByte

variable (mask : Bool) {code : Nat}

theorem set_payload_bits_maskByte (h : code < 128) :
    set_payload_bits (maskByte mask) code = UInt8.ofNat ((if mask then 128 else 0) + code) := by
  cases mask with
  | false =>
    rw [if_neg (by decide), Nat.zero_add]
    exact set_payload_bits_zero h
  | true => exact set_payload_bits_mask h

/-- The payload bits are read back, whatever the mask bit is. -/
theorem payload_len_second (h : code < 128) : PAYLOAD_LEN (UInt8.ofNat ((if mask then 128 else 0) + code)) = code := by
  cases mask with
  | false =>
    rw [if_neg (by decide), Nat.zero_add]
    exact payload_len_ofNat h
  | true => exact payload_len_masked h

theorem mask_bit_second (h : code < 128) :
    MASK_BIT (UInt8.ofNat ((if mask then 128 else 0) + code)) = MASK_BIT (maskByte mask) := by
  have hall : ∀ mask, ∀ code < 128,
      MASK_BIT (UInt8.ofNat ((if mask then 128 else 0) + code)) = MASK_BIT (maskByte mask) := by decide +kernel
  exact hall mask code h

end SecondByte

/-- The bytes are taken from the front of a buffer by a load of the second header byte, which still has the
    mask bit, and a call of `ws_decode_payload_len` which returns the length. -/
def DecodesLen (mask : Bool) (len : Nat) (bytes : List UInt8) : Prop :=
  ∀ (buf : Skb) (rest : List UInt8) (wsd_errno : Errno), buf.Ok → buf.readable = bytes ++ rest →
    ∃ byte2 buf1 buf2, skb_get_char buf = (byte2, buf1) ∧ MASK_BIT byte2 = MASK_BIT (maskByte mask) ∧
      ws_decode_payload_len buf1 byte2 wsd_errno = (len, buf2, wsd_errno) ∧ buf2.readable = rest ∧
      buf2.rdpos = buf.rdpos + bytes.length ∧ buf2.wrpos = buf.wrpos ∧ buf2.data = buf.data

/-- Every form is decoded, the shortest one and the others. -/
theorem decodesLen_lenBytes (mask : Bool) {form : LenForm} {len : Nat} (hfits : form.Fits len) :
    DecodesLen mask len (lenBytes mask form len) := by
  intro buf rest wsd_errno hok hread
  have hcode := LenForm.code_lt hfits
  rw [lenBytes, List.cons_append] at hread
  obtain ⟨buf1, hget, hok1, hread1, hpos1, hwr1, hdata1⟩ := hok.get_char hread
  obtain ⟨buf2, hdecode, hok2, hread2, hpos2, hwr2, hdata2⟩ :=
    ws_decode_payload_len_spec wsd_errno hok1 hfits (payload_len_second mask hcode) hread1
  refine ⟨_, buf1, buf2, hget, mask_bit_second mask hcode, hdecode, hread2, ?_, hwr2.trans hwr1, hdata2.trans hdata1⟩
  rw [hpos2, hpos1, length_lenBytes, Nat.add_assoc]

/-- The length is put in the shortest form. -/
theorem ws_set_payload_len_lenBytes {b : Skb} {len : Nat} (mask : Bool) (hok : b.Ok)
    (hlen : len < 9223372036854775808) (hroom : (lenBytes mask (.shortest len) len).length ≤ skb_wrsz b) :
    ws_set_payload_len b len (maskByte mask) = (0, skb_put b (lenBytes mask (.shortest len) len)) := by
  have hcode := LenForm.code_lt (LenForm.fits_shortest (show len < 18446744073709551616 by omega))
  rw [length_lenBytes] at hroom
  rw [ws_set_payload_len_put (maskByte mask) hok hlen (by rwa [length_payloadLenBytes]),
    set_payload_bits_maskByte mask hcode, lenBytes]

theorem ws_set_payload_len_large {b : Skb} {len : Nat} (byte2 : UInt8) (hlen : 9223372036854775808 ≤ len) :
    ws_set_payload_len b len byte2 = (-1, b) := by
  have hnot : ¬ len ≤ ULONG_MAX >>> 1 := by
    rw [show ULONG_MAX >>> 1 = 9223372036854775807 from rfl]
    omega
  unfold ws_set_payload_len USHRT_MAX
  by_cases hroom : skb_wrsz b < 1
  · rw [if_pos hroom]
  · rw [if_neg hroom, if_neg (by omega), if_neg (by omega), if_neg hnot]

/-- With room for nine bytes a length is put in the shortest of its forms, which is decoded to the length and
    nothing else. A length from 2^63 on is refused, and nothing is put. -/
theorem payload_len_codec {b : Skb} (hok : b.Ok) (hroom : 9 ≤ skb_wrsz b) (mask : Bool) (len : Nat) :
    (len < 2 ^ 63 → ∃ bytes, ws_set_payload_len b len (maskByte mask) = (0, skb_put b bytes) ∧
      (skb_put b bytes).readable = b.readable ++ bytes ∧ bytes = lenBytes mask (.shortest len) len ∧
      bytes.length = (if len < 126 then 1 else if len < 65536 then 3 else 9) ∧
      (∀ form : LenForm, form.Fits len → bytes.length ≤ (lenBytes mask form len).length) ∧
      DecodesLen mask len bytes) ∧
    (2 ^ 63 ≤ len → ws_set_payload_len b len (maskByte mask) = (-1, b)) := by
  constructor
  · intro hlen
    have hlength := (length_lenBytes mask (.shortest len) len).trans (LenForm.extLen_shortest len)
    have hput : (lenBytes mask (.shortest len) len).length ≤ skb_wrsz b := by
      rw [hlength]
      split
      · omega
      · split <;> omega
    refine ⟨_, ws_set_payload_len_lenBytes mask hok hlen hput, hok.readable_put hput, rfl, hlength, ?_, ?_⟩
    · intro form hfits
      rw [length_lenBytes, length_lenBytes]
      exact Nat.add_le_add_left (LenForm.extLen_shortest_le hfits) 1
    · exact decodesLen_lenBytes mask (LenForm.fits_shortest (by omega))
  · exact ws_set_payload_len_large (maskByte mask)

/-- The largest length which is put, and the next one. -/
theorem payload_len_codec_bounds :
    (∃ bytes, ws_set_payload_len Skb.zero (2 ^ 63 - 1) (maskByte true) = (0, skb_put Skb.zero bytes) ∧
      bytes.length = 9 ∧ DecodesLen true (2 ^ 63 - 1) bytes) ∧
    ws_set_payload_len Skb.zero (2 ^ 63) (maskByte true) = (-1, Skb.zero) := by
  have hroom : 9 ≤ skb_wrsz Skb.zero := by decide
  constructor
  · obtain ⟨bytes, hput, -, -, hlength, -, hdecodes⟩ :=
      (payload_len_codec Skb.ok_zero hroom true (2 ^ 63 - 1)).1 (by decide)
    exact ⟨bytes, hput, hlength, hdecodes⟩
  · exact (payload_len_codec Skb.ok_zero hroom true (2 ^ 63)).2 (by decide)

end wsd
