import Wsd.Common.Mask

namespace wsd

def WS_FRAG_FRAME : UInt8 := 0x0
def WS_TEXT_FRAME : UInt8 := 0x1
def WS_BINARY_FRAME : UInt8 := 0x2
def WS_CLOSE_FRAME : UInt8 := 0x8
def WS_PING_FRAME : UInt8 := 0x9
def WS_PONG_FRAME : UInt8 := 0xa

def WS_FRAME_STATUS_LEN : Nat := 2
def WS_MASKED_FRAME_LEN : Nat := 6
def WS_UNMASKED_FRAME_LEN : Nat := 2

def WS_1000 : Nat := 1000
def WS_1011 : Nat := 1011

def set_fin_bit (byte : UInt8) : UInt8 := byte ||| 0x80
def set_opcode (byte val : UInt8) : UInt8 := byte ||| (0xf &&& val)
def set_mask_bit (byte : UInt8) : UInt8 := byte ||| 0x80
def set_payload_bits (byte : UInt8) (val : Nat) : UInt8 := byte ||| UInt8.ofNat (0x7f &&& val)
def RSV1_BIT (byte : UInt8) : UInt8 := 0x40 &&& byte
def RSV2_BIT (byte : UInt8) : UInt8 := 0x20 &&& byte
def RSV3_BIT (byte : UInt8) : UInt8 := 0x10 &&& byte
def OPCODE (byte : UInt8) : UInt8 := 0xf &&& byte
def MASK_BIT (byte : UInt8) : UInt8 := (0x80 &&& byte) >>> 7
def PAYLOAD_LEN (byte : UInt8) : Nat := (0x7f &&& byte).toNat

/-- The three RSV bits of a first header byte are clear. -/
def RsvClear (byte1 : UInt8) : Prop :=
  RSV1_BIT byte1 = 0 ∧ RSV2_BIT byte1 = 0 ∧ RSV3_BIT byte1 = 0

instance (byte1 : UInt8) : Decidable (RsvClear byte1) :=
  inferInstanceAs (Decidable (_ ∧ _))

theorem rsvClear_text : RsvClear 0x81 := by decide

/-- The opcodes whose payload goes to the backend. -/
def IsData (opcode : UInt8) : Prop :=
  opcode = WS_TEXT_FRAME ∨ opcode = WS_BINARY_FRAME ∨ opcode = WS_FRAG_FRAME

instance (opcode : UInt8) : Decidable (IsData opcode) :=
  inferInstanceAs (Decidable (_ ∨ _))

/-- The three ways in which a header can state the payload length. -/
inductive LenForm
  | len7
  | len16
  | len64
  deriving DecidableEq, Repr

namespace LenForm

/-- The length can be stated in this form, which need not be the shortest one. -/
def Fits : LenForm → Nat → Prop
  | len7, len => len < 126
  | len16, len => len < 65536
  | len64, len => len < 18446744073709551616

instance : (form : LenForm) → (len : Nat) → Decidable (form.Fits len)
  | len7, len => inferInstanceAs (Decidable (len < 126))
  | len16, len => inferInstanceAs (Decidable (len < 65536))
  | len64, len => inferInstanceAs (Decidable (len < 18446744073709551616))

/-- The seven length bits of the second header byte. -/
def code : LenForm → Nat → Nat
  | len7, len => len
  | len16, _ => 126
  | len64, _ => 127

/-- The extended length which follows the second header byte. -/
def ext : LenForm → Nat → List UInt8
  | len7, _ => []
  | len16, len => Bytes.be 2 len
  | len64, len => Bytes.be 8 len

/-- The number of extended length bytes. -/
def extLen : LenForm → Nat
  | len7 => 0
  | len16 => 2
  | len64 => 8

@[simp] theorem length_ext (form : LenForm) (len : Nat) : (form.ext len).length = form.extLen := by
  cases form <;> simp [ext, extLen]

theorem extLen_le (form : LenForm) : form.extLen ≤ 8 := by
  cases form <;> decide

theorem code_lt {form : LenForm} {len : Nat} (h : form.Fits len) : form.code len < 128 := by
  cases form with
  | len7 =>
    have hlen : len < 126 := h
    exact Nat.lt_trans hlen (by decide)
  | len16 => simp [code]
  | len64 => simp [code]

/-- The shortest form which can state the length. -/
def shortest (len : Nat) : LenForm :=
  if len < 126 then len7 else if len ≤ 65535 then len16 else len64

theorem fits_shortest {len : Nat} (h : len < 18446744073709551616) : (shortest len).Fits len := by
  unfold shortest
  split
  · assumption
  · split
    · exact Nat.lt_succ_of_le (by assumption)
    · exact h

end LenForm

/-- The header of a masked frame, up to and with the masking key. -/
def maskedHeader (byte1 : UInt8) (form : LenForm) (len : Nat) (key : UInt32) : List UInt8 :=
  byte1 :: UInt8.ofNat (128 + form.code len) :: (form.ext len ++ Bytes.le 4 key.toNat)

@[simp] theorem length_maskedHeader (byte1 : UInt8) (form : LenForm) (len : Nat) (key : UInt32) :
    (maskedHeader byte1 form len key).length = 6 + form.extLen := by
  simp [maskedHeader]
  omega

/-- A well-formed frame as RFC 6455 lays it out: no RSV bit is set, and the
    length form can state the length of the (unmasked) payload. -/
structure Frame where
  byte1 : UInt8
  form : LenForm
  payload : List UInt8
  rsv : RsvClear byte1
  fits : form.Fits payload.length

namespace Frame

variable (f : Frame)

def opcode : UInt8 :=
  OPCODE f.byte1

/-- The header of an unmasked frame. -/
def header : List UInt8 :=
  f.byte1 :: UInt8.ofNat (f.form.code f.payload.length) :: f.form.ext f.payload.length

/-- The frame as a server sends it. -/
def unmasked : List UInt8 :=
  f.header ++ f.payload

/-- The frame as a client sends it under a masking key. -/
def masked (key : UInt32) : List UInt8 :=
  maskedHeader f.byte1 f.form f.payload.length key ++ maskFrom key.toNat 0 f.payload

@[simp] theorem length_header : f.header.length = 2 + f.form.extLen := by
  simp [header]
  omega

@[simp] theorem length_unmasked : f.unmasked.length = 2 + f.form.extLen + f.payload.length := by
  simp [unmasked]

theorem unmasked_eq : f.unmasked = f.byte1 :: UInt8.ofNat (f.form.code f.payload.length) ::
    (f.form.ext f.payload.length ++ f.payload) := by
  simp [unmasked, header]

@[simp] theorem length_masked (key : UInt32) :
    (f.masked key).length = 6 + f.form.extLen + f.payload.length := by
  simp [masked]

end Frame

/-- The length bits tell the form, and with the extended length the length. -/
theorem LenForm.code_inj {form form' : LenForm} {len len' : Nat} (h : form.Fits len) (h' : form'.Fits len')
    (hcode : form.code len = form'.code len') (hext : form = form' → form.ext len = form'.ext len') :
    form = form' ∧ len = len' := by
  have hform : form = form' := by
    cases form <;> cases form' <;> first | rfl | (simp only [Fits, code] at h h' hcode; omega)
  subst hform
  refine ⟨rfl, ?_⟩
  have hbytes := hext rfl
  cases form with
  | len7 => exact hcode
  | len16 =>
    have hval := congrArg Bytes.beVal hbytes
    have hlt : len < 256 ^ 2 := h
    have hlt' : len' < 256 ^ 2 := h'
    rwa [ext, ext, Bytes.beVal_be_of_lt hlt, Bytes.beVal_be_of_lt hlt'] at hval
  | len64 =>
    have hval := congrArg Bytes.beVal hbytes
    have hlt : len < 256 ^ 8 := h
    have hlt' : len' < 256 ^ 8 := h'
    rwa [ext, ext, Bytes.beVal_be_of_lt hlt, Bytes.beVal_be_of_lt hlt'] at hval

/-- A fact about bytes holds if it holds of the 256 byte values. -/
theorem uint8_forall {P : UInt8 → Prop} (h : ∀ n, n < 256 → P (UInt8.ofNat n)) (b : UInt8) : P b := by
  have hb := h b.toNat b.toNat_lt
  rwa [UInt8.ofNat_toNat] at hb

theorem payload_len_lt (byte2 : UInt8) : PAYLOAD_LEN byte2 < 128 := by
  unfold PAYLOAD_LEN
  rw [UInt8.toNat_and]
  exact Nat.lt_succ_of_le Nat.and_le_left

theorem payload_len_ofNat {code : Nat} (h : code < 128) : PAYLOAD_LEN (UInt8.ofNat code) = code := by
  revert code
  decide

theorem mask_bit_ofNat {code : Nat} (h : code < 128) : MASK_BIT (UInt8.ofNat code) = 0 := by
  revert code
  decide

theorem payload_len_masked {code : Nat} (h : code < 128) : PAYLOAD_LEN (UInt8.ofNat (128 + code)) = code := by
  revert code
  decide

theorem mask_bit_masked {code : Nat} (h : code < 128) : MASK_BIT (UInt8.ofNat (128 + code)) ≠ 0 := by
  revert code
  decide

/-- The mask bit and the seven length bits make up the second header byte. -/
theorem byte2_of_mask_bit {byte2 : UInt8} (h : MASK_BIT byte2 ≠ 0) :
    byte2 = UInt8.ofNat (128 + PAYLOAD_LEN byte2) := by
  revert h
  apply uint8_forall (P := fun b => MASK_BIT b ≠ 0 → b = UInt8.ofNat (128 + PAYLOAD_LEN b))
  decide +kernel

theorem byte2_of_no_mask_bit {byte2 : UInt8} (h : MASK_BIT byte2 = 0) :
    byte2 = UInt8.ofNat (PAYLOAD_LEN byte2) := by
  revert h
  apply uint8_forall (P := fun b => MASK_BIT b = 0 → b = UInt8.ofNat (PAYLOAD_LEN b))
  decide +kernel

/-- What the decoders check of the first two bytes of a masked frame. -/
theorem header_check_iff (byte1 byte2 : UInt8) :
    (RSV1_BIT byte1 ≠ 0 ∨ RSV2_BIT byte1 ≠ 0 ∨ RSV3_BIT byte1 ≠ 0 ∨ MASK_BIT byte2 = 0) ↔
      ¬ (RsvClear byte1 ∧ MASK_BIT byte2 ≠ 0) := by
  unfold RsvClear
  tauto

/-- A header states its form, length and masking key without ambiguity. -/
theorem maskedHeader_inj {byte1 byte1' : UInt8} {form form' : LenForm} {len len' : Nat} {key key' : UInt32}
    {rest rest' : List UInt8} (h : form.Fits len) (h' : form'.Fits len')
    (heq : maskedHeader byte1 form len key ++ rest = maskedHeader byte1' form' len' key' ++ rest') :
    byte1 = byte1' ∧ form = form' ∧ len = len' ∧ key = key' ∧ rest = rest' := by
  simp only [maskedHeader, List.cons_append, List.cons.injEq, List.append_assoc] at heq
  obtain ⟨hbyte1, hbyte2, htail⟩ := heq
  have hcode : form.code len = form'.code len' := by
    rw [← payload_len_masked (LenForm.code_lt h), hbyte2, payload_len_masked (LenForm.code_lt h')]
  have hforms := LenForm.code_inj h h' hcode (by
    intro hform
    exact (List.append_inj htail (by simp [hform])).1)
  obtain ⟨rfl, rfl⟩ := hforms
  obtain ⟨-, htail⟩ := List.append_inj htail rfl
  obtain ⟨hkey, hrest⟩ := List.append_inj htail (by simp)
  have hkey' := Bytes.le_inj (by simpa using key.toNat_lt) (by simpa using key'.toNat_lt) hkey
  exact ⟨hbyte1, rfl, rfl, UInt32.toNat_inj.mp hkey', hrest⟩

/-- The first frame of a byte string is determined. -/
theorem Frame.masked_inj {f f' : Frame} {key key' : UInt32} {rest rest' : List UInt8}
    (heq : f.masked key ++ rest = f'.masked key' ++ rest') : f = f' ∧ key = key' ∧ rest = rest' := by
  simp only [Frame.masked, List.append_assoc] at heq
  obtain ⟨hbyte1, hform, hlen, rfl, htail⟩ := maskedHeader_inj f.fits f'.fits heq
  obtain ⟨hmasked, hrest⟩ := List.append_inj htail (by simpa using hlen)
  have hpayload := congrArg (maskFrom key.toNat 0) hmasked
  rw [maskFrom_maskFrom, maskFrom_maskFrom] at hpayload
  refine ⟨?_, rfl, hrest⟩
  cases f
  cases f'
  simp_all

/-- The number of extended length bytes which a second header byte announces. -/
def extLenOf (byte2 : UInt8) : Nat :=
  if PAYLOAD_LEN byte2 < 126 then 0 else if PAYLOAD_LEN byte2 = 126 then 2 else 8

/-- Every second header byte with enough bytes behind it states a length in one of the forms. -/
theorem exists_lenForm {byte2 : UInt8} {rest : List UInt8} (hlen : extLenOf byte2 ≤ rest.length) :
    ∃ (form : LenForm) (len : Nat), form.Fits len ∧ PAYLOAD_LEN byte2 = form.code len ∧
      form.extLen = extLenOf byte2 ∧ form.ext len = rest.take form.extLen := by
  have hlt := payload_len_lt byte2
  have hbe {n : Nat} (h : n ≤ rest.length) : Bytes.be n (Bytes.beVal (rest.take n)) = rest.take n := by
    have hbytes := Bytes.be_beVal (rest.take n)
    rwa [List.length_take, Nat.min_eq_left h] at hbytes
  have hbelt {n : Nat} (h : n ≤ rest.length) : Bytes.beVal (rest.take n) < 256 ^ n := by
    have hval := Bytes.beVal_lt (rest.take n)
    rwa [List.length_take, Nat.min_eq_left h] at hval
  unfold extLenOf at hlen ⊢
  by_cases h7 : PAYLOAD_LEN byte2 < 126
  · rw [if_pos h7]
    exact ⟨.len7, PAYLOAD_LEN byte2, h7, rfl, rfl, rfl⟩
  rw [if_neg h7] at hlen ⊢
  by_cases h16 : PAYLOAD_LEN byte2 = 126
  · rw [if_pos h16] at hlen ⊢
    exact ⟨.len16, Bytes.beVal (rest.take 2), hbelt hlen, h16, rfl, hbe hlen⟩
  · rw [if_neg h16] at hlen ⊢
    have h64 : PAYLOAD_LEN byte2 = 127 := by omega
    exact ⟨.len64, Bytes.beVal (rest.take 8), hbelt hlen, h64, rfl, hbe hlen⟩

/-- Enough bytes with a mask bit and clear RSV bits start with a header. -/
theorem exists_maskedHeader {byte1 byte2 : UInt8} {rest : List UInt8} (hmask : MASK_BIT byte2 ≠ 0)
    (hlen : extLenOf byte2 + 4 ≤ rest.length) :
    ∃ form len key body, form.Fits len ∧ PAYLOAD_LEN byte2 = form.code len ∧
      byte1 :: byte2 :: rest = maskedHeader byte1 form len key ++ body := by
  have hkey (bs : List UInt8) (h4 : bs.length = 4) : Bytes.le 4 (UInt32.ofNat (Bytes.leVal bs)).toNat = bs := by
    have hval := Bytes.leVal_lt bs
    have hbytes := Bytes.le_leVal bs
    rw [h4] at hval hbytes
    rw [UInt32.toNat_ofNat_of_lt' (by simpa using hval), hbytes]
  obtain ⟨form, len, hfits, hcode, hext, htake⟩ := @exists_lenForm byte2 rest (by omega)
  have hfour : ((rest.drop form.extLen).take 4).length = 4 := by
    rw [List.length_take, List.length_drop]
    omega
  have hbyte2 := byte2_of_mask_bit hmask
  refine ⟨form, len, UInt32.ofNat (Bytes.leVal ((rest.drop form.extLen).take 4)), (rest.drop form.extLen).drop 4,
    hfits, hcode, ?_⟩
  rw [maskedHeader, hkey _ hfour, htake, ← hcode, ← hbyte2]
  simp only [List.cons_append, List.append_assoc, List.take_append_drop]

/-- A header with the declared payload behind it is a frame. -/
theorem maskedHeader_complete {byte1 : UInt8} {form : LenForm} {len : Nat} {body : List UInt8} (key : UInt32)
    (hrsv : RsvClear byte1) (hfits : form.Fits len) (hbody : len ≤ body.length) :
    ∃ f : Frame, maskedHeader byte1 form len key ++ body = f.masked key ++ body.drop len := by
  have hpayload : (maskFrom key.toNat 0 (body.take len)).length = len := by
    rw [length_maskFrom, List.length_take, Nat.min_eq_left hbody]
  have hmasked := maskFrom_maskFrom key.toNat 0 (body.take len)
  refine ⟨⟨byte1, form, maskFrom key.toNat 0 (body.take len), hrsv, by rwa [hpayload]⟩, ?_⟩
  simp only [Frame.masked, hpayload, hmasked, List.append_assoc, List.take_append_drop]

/-- The header of an unmasked frame. -/
def unmaskedHeader (byte1 : UInt8) (form : LenForm) (len : Nat) : List UInt8 :=
  byte1 :: UInt8.ofNat (form.code len) :: form.ext len

@[simp] theorem length_unmaskedHeader (byte1 : UInt8) (form : LenForm) (len : Nat) :
    (unmaskedHeader byte1 form len).length = 2 + form.extLen := by
  simp [unmaskedHeader]
  omega

theorem unmaskedHeader_complete {byte1 : UInt8} {form : LenForm} {len : Nat} {body : List UInt8}
    (hrsv : RsvClear byte1) (hfits : form.Fits len) (hbody : len ≤ body.length) :
    ∃ f : Frame, unmaskedHeader byte1 form len ++ body = f.unmasked ++ body.drop len ∧ f.byte1 = byte1 ∧
      f.payload.length = len := by
  have hpayload : (body.take len).length = len := by
    rw [List.length_take, Nat.min_eq_left hbody]
  refine ⟨⟨byte1, form, body.take len, hrsv, by rwa [hpayload]⟩, ?_, rfl, hpayload⟩
  simp only [Frame.unmasked, Frame.header, unmaskedHeader, hpayload, List.append_assoc, List.take_append_drop]

/-- Enough bytes without a mask bit start with the header of an unmasked frame. -/
theorem exists_unmaskedHeader {byte1 byte2 : UInt8} {rest : List UInt8} (hmask : MASK_BIT byte2 = 0)
    (hlen : extLenOf byte2 ≤ rest.length) :
    ∃ form len body, form.Fits len ∧ PAYLOAD_LEN byte2 = form.code len ∧
      byte1 :: byte2 :: rest = unmaskedHeader byte1 form len ++ body := by
  obtain ⟨form, len, hfits, hcode, hext, htake⟩ := exists_lenForm hlen
  refine ⟨form, len, rest.drop form.extLen, hfits, hcode, ?_⟩
  rw [unmaskedHeader, htake, ← hcode, ← byte2_of_no_mask_bit hmask]
  simp only [List.cons_append, List.take_append_drop]

end wsd
