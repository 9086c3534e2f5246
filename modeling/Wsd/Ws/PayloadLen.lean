import Wsd.Common.Skb
import Wsd.Ws.Frame

namespace wsd

def USHRT_MAX : Nat := 65535

def ULONG_MAX : Nat := 18446744073709551615

/-- The `long` with the bits of an `unsigned long`. -/
def i64 (n : Nat) : Int :=
  if n % 18446744073709551616 < 9223372036854775808 then
    (n % 18446744073709551616 : Nat)
  else
    (n % 18446744073709551616 : Nat) - 18446744073709551616

def ws_calculate_frame_length (len : Nat) (wsd_errno : Errno) : Int × Errno :=
  if len < 126 then
    (i64 (1 + len), wsd_errno)
  else if len ≤ USHRT_MAX then
    (i64 (2 + len), wsd_errno)
  else if len ≤ ULONG_MAX >>> 1 then
    (i64 (9 + len), wsd_errno)
  else
    (-1, .WSD_ENUM)

def ws_set_payload_len (b : Skb) (len : Nat) (byte2 : UInt8) : Int × Skb :=
  if skb_wrsz b < 1 then
    (-1, b)
  else if len < 126 then
    (0, skb_put b [set_payload_bits byte2 len])
  else if len ≤ USHRT_MAX then
    let b := skb_put b [set_payload_bits byte2 126]
    if skb_wrsz b < 2 then (-1, b) else (0, skb_put b (Bytes.be 2 len))
  else if len ≤ ULONG_MAX >>> 1 then
    let b := skb_put b [set_payload_bits byte2 127]
    if skb_wrsz b < 8 then (-1, b) else (0, skb_put b (Bytes.be 8 len))
  else
    (-1, b)

/-- The result is an `unsigned long`, so that the error value -1 is `ULONG_MAX`. -/
def ws_decode_payload_len (buf : Skb) (byte2 : UInt8) (wsd_errno : Errno) : Nat × Skb × Errno :=
  if PAYLOAD_LEN byte2 < 126 then
    (PAYLOAD_LEN byte2, buf, wsd_errno)
  else if PAYLOAD_LEN byte2 = 126 then
    if skb_rdsz buf < 2 then
      (ULONG_MAX, buf, .WSD_EINPUT)
    else
      let (k, buf) := skb_get buf 2
      (Bytes.beVal k, buf, wsd_errno)
  else if PAYLOAD_LEN byte2 = 127 then
    if skb_rdsz buf < 8 then
      (ULONG_MAX, buf, .WSD_EINPUT)
    else
      let (k, buf) := skb_get buf 8
      (Bytes.beVal k, buf, wsd_errno)
  else
    (ULONG_MAX, buf, .WSD_EBADREQ)

theorem i64_of_lt {n : Nat} (h : n < 9223372036854775808) : i64 n = n := by
  have hmod : n % 18446744073709551616 = n := Nat.mod_eq_of_lt (by omega)
  simp [i64, hmod, h]

/-- The computed frame length counts the first header byte or the second, but
    never both, and for 16-bit lengths it misses one length byte besides. -/
theorem ws_calculate_frame_length_eq {len : Nat} (h : len ≤ 1048576) (wsd_errno : Errno) :
    ws_calculate_frame_length len wsd_errno =
      ((((if len < 126 then 1 else if len ≤ 65535 then 2 else 9) + len : Nat) : Int), wsd_errno) := by
  have hlong : len ≤ 18446744073709551615 >>> 1 := by
    rw [Nat.shiftRight_eq_div_pow]
    omega
  unfold ws_calculate_frame_length USHRT_MAX ULONG_MAX
  split
  · rw [i64_of_lt (by omega)]
  · split
    · rw [i64_of_lt (by omega)]
    · rw [i64_of_lt (by omega)]

theorem set_payload_bits_zero {val : Nat} (h : val < 128) : set_payload_bits 0 val = UInt8.ofNat val := by
  have hmask : 0x7f &&& val = val := by
    rw [Nat.and_comm]
    exact (Nat.and_two_pow_sub_one_eq_mod val 7).trans (Nat.mod_eq_of_lt h)
  rw [set_payload_bits, hmask]
  exact UInt8.zero_or

theorem set_payload_bits_mask {val : Nat} (h : val < 128) :
    set_payload_bits (set_mask_bit 0) val = UInt8.ofNat (128 + val) := by
  have hall : ∀ val < 128, set_payload_bits (set_mask_bit 0) val = UInt8.ofNat (128 + val) := by decide +kernel
  exact hall val h

/-- The second header byte and the extended length of a frame as the encoders write them. -/
def payloadLenBytes (len : Nat) : List UInt8 :=
  UInt8.ofNat ((LenForm.shortest len).code len) :: (LenForm.shortest len).ext len

@[simp] theorem length_payloadLenBytes (len : Nat) :
    (payloadLenBytes len).length = 1 + (LenForm.shortest len).extLen := by
  simp [payloadLenBytes, Nat.add_comm]

theorem ws_set_payload_len_short {b : Skb} {len : Nat} (byte2 : UInt8) (hlen : len < 126)
    (hroom : 1 ≤ skb_wrsz b) :
    ws_set_payload_len b len byte2 = (0, skb_put b [set_payload_bits byte2 len]) := by
  unfold ws_set_payload_len
  rw [if_neg (by omega), if_pos hlen]

/-- With room for it, the length is put in its shortest form behind the given bits. -/
theorem ws_set_payload_len_put {b : Skb} {len : Nat} (byte2 : UInt8) (hok : b.Ok) (hlen : len < 9223372036854775808)
    (hroom : (payloadLenBytes len).length ≤ skb_wrsz b) :
    ws_set_payload_len b len byte2 = (0, skb_put b
      (set_payload_bits byte2 ((LenForm.shortest len).code len) :: (LenForm.shortest len).ext len)) := by
  rw [length_payloadLenBytes] at hroom
  unfold LenForm.shortest at hroom ⊢
  by_cases h7 : len < 126
  · simp only [if_pos h7, LenForm.code, LenForm.ext, LenForm.extLen] at hroom ⊢
    exact ws_set_payload_len_short byte2 h7 hroom
  · have hput (n : Nat) : [set_payload_bits byte2 n].length ≤ skb_wrsz b := by
      simp only [List.length_singleton]
      omega
    unfold ws_set_payload_len USHRT_MAX ULONG_MAX
    rw [if_neg (by omega), if_neg h7]
    by_cases h16 : len ≤ 65535
    · simp only [if_neg h7, if_pos h16, LenForm.code, LenForm.ext, LenForm.extLen] at hroom ⊢
      have hleft := hok.wrsz_put (hput 126)
      rw [List.length_singleton] at hleft
      rw [if_neg (by omega), hok.put_put (hput 126)]
      rfl
    · have h64 : len ≤ 18446744073709551615 >>> 1 := by
        rw [Nat.shiftRight_eq_div_pow]
        omega
      simp only [if_neg h7, if_neg h16, if_pos h64, LenForm.code, LenForm.ext, LenForm.extLen] at hroom ⊢
      have hleft := hok.wrsz_put (hput 127)
      rw [List.length_singleton] at hleft
      rw [if_neg (by omega), hok.put_put (hput 127)]
      rfl

theorem ws_set_payload_len_eq {b : Skb} {len : Nat} (hok : b.Ok) (hlen : len < 9223372036854775808)
    (hroom : (payloadLenBytes len).length ≤ skb_wrsz b) :
    ws_set_payload_len b len 0 = (0, skb_put b (payloadLenBytes len)) := by
  have hcode := LenForm.code_lt (LenForm.fits_shortest (show len < 18446744073709551616 by omega))
  rw [ws_set_payload_len_put 0 hok hlen hroom, set_payload_bits_zero hcode, payloadLenBytes]

/-- The two header bytes are loaded before anything else happens. -/
theorem Skb.Ok.get_header {b : Skb} (hok : b.Ok) {byte1 byte2 : UInt8} {rest : List UInt8}
    (hread : b.readable = byte1 :: byte2 :: rest) :
    ∃ b1 b2, skb_get_char b = (byte1, b1) ∧ skb_get_char b1 = (byte2, b2) ∧ b2.Ok ∧ b2.readable = rest ∧
      b2.rdpos = b.rdpos + 2 ∧ b2 = skb_rd_forward b 2 := by
  obtain ⟨b1, hget1, hok1, hread1, hpos1, hwr1, hdata1⟩ := hok.get_char hread
  obtain ⟨b2, hget2, hok2, hread2, hpos2, hwr2, hdata2⟩ := hok1.get_char hread1
  have hpos : b2.rdpos = b.rdpos + 2 := by omega
  have hbound : b.rdpos + 2 ≤ SKB_SIZE := by
    have hrd := hok2.rdpos_le
    have hwr := hok2.wrpos_le
    omega
  refine ⟨b1, b2, hget1, hget2, hok2, hread2, hpos, Skb.ext ?_ (hwr2.trans hwr1) (hdata2.trans hdata1)⟩
  rw [hpos]
  exact (Skb.u32_of_le_size hbound).symm

/-- A stated length is decoded in every form, and exactly its bytes are consumed. -/
theorem ws_decode_payload_len_spec {buf : Skb} {byte2 : UInt8} {form : LenForm} {len : Nat}
    {rest : List UInt8} (wsd_errno : Errno) (hok : buf.Ok) (hfits : form.Fits len)
    (hcode : PAYLOAD_LEN byte2 = form.code len) (hread : buf.readable = form.ext len ++ rest) :
    ∃ buf', ws_decode_payload_len buf byte2 wsd_errno = (len, buf', wsd_errno) ∧ buf'.Ok ∧
      buf'.readable = rest ∧ buf'.rdpos = buf.rdpos + form.extLen ∧ buf'.wrpos = buf.wrpos ∧
      buf'.data = buf.data := by
  unfold ws_decode_payload_len
  rw [hcode]
  have hsize : form.extLen ≤ skb_rdsz buf := by
    rw [← hok.length_readable_eq, hread, List.length_append, LenForm.length_ext]
    omega
  have hbytes := hok.get_bytes hsize
  have hrest := hok.readable_get hsize
  have hpos := hok.get_rdpos hsize
  have hok' := hok.get hsize
  rw [hread, List.take_append_of_le_length (by simp), List.take_of_length_le (by simp)] at hbytes
  rw [hread, List.drop_append_of_le_length (by simp), List.drop_of_length_le (by simp),
    List.nil_append] at hrest
  cases form with
  | len7 =>
    have hlt : len < 126 := hfits
    refine ⟨buf, ?_, hok, hread, rfl, rfl, rfl⟩
    simp only [LenForm.code, if_pos hlt]
  | len16 =>
    have hlt : len < 256 ^ 2 := hfits
    simp only [LenForm.code, LenForm.extLen, LenForm.ext] at hsize hbytes hrest hpos hok' ⊢
    refine ⟨(skb_get buf 2).2, ?_, hok', hrest, hpos, rfl, rfl⟩
    rw [if_neg (by decide), if_pos trivial, if_neg (by omega), hbytes, Bytes.beVal_be_of_lt hlt]
  | len64 =>
    have hlt : len < 256 ^ 8 := hfits
    simp only [LenForm.code, LenForm.extLen, LenForm.ext] at hsize hbytes hrest hpos hok' ⊢
    refine ⟨(skb_get buf 8).2, ?_, hok', hrest, hpos, rfl, rfl⟩
    rw [if_neg (by decide), if_neg (by decide), if_pos trivial, if_neg (by omega), hbytes,
      Bytes.beVal_be_of_lt hlt]

end wsd
