import Wsd.Bytes.Framing
import Wsd.Ws.Control
import Wsd.Ws.Encode

namespace wsd

/-- The first unmasked frame of a byte string is determined. -/
theorem Frame.unmasked_inj {f f' : Frame} {rest rest' : List UInt8}
    (heq : f.unmasked ++ rest = f'.unmasked ++ rest') : f = f' ∧ rest = rest' := by
  simp only [Frame.unmasked_eq, List.cons_append, List.cons.injEq, List.append_assoc] at heq
  obtain ⟨hbyte1, hbyte2, htail⟩ := heq
  have hcode : f.form.code f.payload.length = f'.form.code f'.payload.length := by
    rw [← payload_len_ofNat (LenForm.code_lt f.fits), hbyte2, payload_len_ofNat (LenForm.code_lt f'.fits)]
  obtain ⟨hform, hlen⟩ := LenForm.code_inj f.fits f'.fits hcode (by
    intro hform
    exact (List.append_inj htail (by simp [hform])).1)
  rw [hform, hlen] at htail
  obtain ⟨-, htail⟩ := List.append_inj htail rfl
  obtain ⟨hpayload, hrest⟩ := List.append_inj htail hlen
  refine ⟨?_, hrest⟩
  cases f
  cases f'
  simp_all

/-- The bytes are complete unmasked frames, and no frame follows a close frame. -/
def CloseLast (bytes : List UInt8) : Prop :=
  ∃ frames : List Frame, bytes = Framing.stream Frame.unmasked frames ∧
    frames.Pairwise fun f _ => f.opcode ≠ WS_CLOSE_FRAME

section CloseLast

variable {bytes : List UInt8} {frames : List Frame} {f : Frame}

/-- Behind a first frame which is a close frame there is nothing. -/
theorem CloseLast.nil_of_close {rest : List UInt8} (h : CloseLast (f.unmasked ++ rest))
    (hclose : f.opcode = WS_CLOSE_FRAME) : rest = [] := by
  obtain ⟨frames, hstream, hlast⟩ := h
  cases frames with
  | nil =>
    have hlen := congrArg List.length hstream
    simp only [List.length_append, Frame.length_unmasked, Framing.stream_nil, List.length_nil] at hlen
    omega
  | cons f' frames =>
    obtain ⟨rfl, hrest⟩ := Frame.unmasked_inj hstream
    cases frames with
    | nil => exact hrest
    | cons g frames => exact absurd hclose ((List.pairwise_cons.mp hlast).1 g List.mem_cons_self)

/-- A frame may follow frames none of which is a close frame. -/
theorem pairwise_snoc (h : frames.Pairwise fun f _ => f.opcode ≠ WS_CLOSE_FRAME)
    (hopen : ∀ g ∈ frames, g.opcode ≠ WS_CLOSE_FRAME) :
    (frames ++ [f]).Pairwise fun f _ => f.opcode ≠ WS_CLOSE_FRAME := by
  rw [List.pairwise_append]
  exact ⟨h, List.pairwise_singleton _ f, fun g hg _ _ => hopen g hg⟩

end CloseLast

section Sent

/-- What is sent under an opcode with a payload is a frame with the length in its
    shortest form. -/
theorem exists_frame {opcode : UInt8} {payload bytes : List UInt8}
    (hrsv : RsvClear (set_opcode (set_fin_bit 0) opcode)) (hlen : payload.length < 18446744073709551616)
    (hbytes : bytes = set_opcode (set_fin_bit 0) opcode :: (payloadLenBytes payload.length ++ payload)) :
    ∃ f : Frame, f.payload = payload ∧ f.unmasked = bytes ∧ f.opcode = OPCODE (set_opcode (set_fin_bit 0) opcode) :=
  ⟨{ byte1 := set_opcode (set_fin_bit 0) opcode
     form := LenForm.shortest payload.length
     payload
     rsv := hrsv
     fits := LenForm.fits_shortest hlen }, rfl, by rw [hbytes, Frame.unmasked_eq]; rfl, rfl⟩

theorem wsFrame_unmasked {payload : List UInt8} (hlen : payload.length < 18446744073709551616) :
    ∃ f : Frame, f.unmasked = wsFrame payload ∧ f.opcode = WS_TEXT_FRAME :=
  (@exists_frame WS_TEXT_FRAME _ _ (by decide) hlen rfl).imp fun _ => And.right

theorem pingFrame_unmasked : ∃ f : Frame, f.unmasked = pingPongFrame WS_PING_FRAME false ∧ f.opcode = WS_PING_FRAME :=
  (@exists_frame WS_PING_FRAME [] _ (by decide) (by simp) (by decide)).imp fun _ => And.right

theorem pongFrame_unmasked : ∃ f : Frame, f.unmasked = pingPongFrame WS_PONG_FRAME false ∧ f.opcode = WS_PONG_FRAME :=
  (@exists_frame WS_PONG_FRAME [] _ (by decide) (by simp) (by decide)).imp fun _ => And.right

/-- The payload of the close frame before it is masked. -/
def closePayload (status : Nat) (do_mask : Bool) : List UInt8 :=
  if 0 < status then
    if do_mask then
      [UInt8.ofNat (Bytes.leVal (Bytes.be 2 status) >>> 2), UInt8.ofNat (Bytes.leVal (Bytes.be 2 status) &&& 0xff)]
    else
      Bytes.le 2 (Bytes.leVal (Bytes.be 2 status))
  else []

theorem closeFrame_unmasked (status : Nat) :
    ∃ f : Frame, f.payload = closePayload status false ∧ f.unmasked = closeFrame status false ∧
      f.opcode = WS_CLOSE_FRAME := by
  unfold closePayload
  by_cases hstatus : 0 < status
  · rw [if_pos hstatus]
    refine @exists_frame WS_CLOSE_FRAME (Bytes.le 2 (Bytes.leVal (Bytes.be 2 status))) _ (by decide)
      (by simp) ?_
    have hcode : payloadLenBytes 2 = [set_payload_bits 0 2] := by decide
    rw [closeFrame, if_pos hstatus, if_pos hstatus, Bytes.length_le, hcode]
    rfl
  · rw [if_neg hstatus]
    refine @exists_frame WS_CLOSE_FRAME [] _ (by decide) (by simp) ?_
    rw [closeFrame, if_neg hstatus, if_neg hstatus]
    decide

/-- What is sent under an opcode with a payload and a key is a masked frame. -/
theorem exists_masked {opcode : UInt8} {payload bytes : List UInt8} {key : UInt32}
    (hrsv : RsvClear (set_opcode (set_fin_bit 0) opcode)) (hlen : payload.length < 126)
    (hbytes : bytes = set_opcode (set_fin_bit 0) opcode :: UInt8.ofNat (128 + payload.length) ::
      (Bytes.le 4 key.toNat ++ maskFrom key.toNat 0 payload)) :
    ∃ f : Frame, f.payload = payload ∧ f.masked key = bytes ∧
      f.opcode = OPCODE (set_opcode (set_fin_bit 0) opcode) := by
  refine ⟨{ byte1 := set_opcode (set_fin_bit 0) opcode
            form := LenForm.shortest payload.length
            payload
            rsv := hrsv
            fits := LenForm.fits_shortest (by omega) }, rfl, ?_, rfl⟩
  have hform : LenForm.shortest payload.length = .len7 := if_pos hlen
  rw [hbytes, Frame.masked, maskedHeader]
  simp only [hform]
  rfl

theorem pingFrame_masked :
    ∃ f : Frame, f.masked 0xcafebabe = pingPongFrame WS_PING_FRAME true ∧ f.opcode = WS_PING_FRAME :=
  (@exists_masked WS_PING_FRAME [] _ _ (by decide) (by simp) (by decide)).imp fun _ => And.right

theorem pongFrame_masked :
    ∃ f : Frame, f.masked 0xcafebabe = pingPongFrame WS_PONG_FRAME true ∧ f.opcode = WS_PONG_FRAME :=
  (@exists_masked WS_PONG_FRAME [] _ _ (by decide) (by simp) (by decide)).imp fun _ => And.right

theorem closeFrame_masked (status : Nat) :
    ∃ f : Frame, f.payload = closePayload status true ∧ f.masked 0xcafebabe = closeFrame status true ∧
      f.opcode = WS_CLOSE_FRAME := by
  unfold closePayload
  by_cases hstatus : 0 < status
  · rw [if_pos hstatus]
    refine @exists_masked WS_CLOSE_FRAME [UInt8.ofNat (Bytes.leVal (Bytes.be 2 status) >>> 2),
      UInt8.ofNat (Bytes.leVal (Bytes.be 2 status) &&& 0xff)] _ _ (by decide) (by simp) ?_
    have hcode : set_payload_bits (set_mask_bit 0) 2 = UInt8.ofNat (128 + 2) := by decide
    have hkey : (0xcafebabe : UInt32).toNat = 0xcafebabe := by decide
    simp only [closeFrame, if_pos hstatus, if_true, hcode, hkey, maskFrom, List.length_cons, List.length_nil,
      List.cons_append, List.nil_append]
  · rw [if_neg hstatus]
    refine @exists_masked WS_CLOSE_FRAME [] _ _ (by decide) (by simp) ?_
    rw [closeFrame, if_neg hstatus, if_neg hstatus]
    decide

end Sent

end wsd
