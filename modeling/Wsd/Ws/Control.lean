import Wsd.Common.Io
import Wsd.Ws.PayloadLen

namespace wsd

def encode_ping_pong_frame (dst : Skb) (opcode : UInt8) (do_mask : Bool) (wsd_errno : Errno) :
    Except Fault (Int × Skb × Errno) := do
  let frame_len := if do_mask then WS_MASKED_FRAME_LEN else WS_UNMASKED_FRAME_LEN
  if frame_len > skb_wrsz dst then
    return (-1, dst, .WSD_ENOMEM)
  else
    let byte1 := set_opcode (set_fin_bit 0) opcode
    let byte2 := if do_mask then set_mask_bit 0 else 0
    let masking_key := if do_mask then 0xcafebabe else 0
    let dst := skb_put dst [byte1]
    let (rv, dst) := ws_set_payload_len dst 0 byte2
    assert .encode_ping_pong_frame_set_payload_len (rv = 0)
    let dst := if do_mask then skb_put dst (Bytes.le 4 masking_key) else dst
    return (0, dst, wsd_errno)

/-- The bytes of an empty ping or pong frame. -/
def pingPongFrame (opcode : UInt8) (do_mask : Bool) : List UInt8 :=
  [set_opcode (set_fin_bit 0) opcode] ++ [set_payload_bits (if do_mask then set_mask_bit 0 else 0) 0] ++
    (if do_mask then Bytes.le 4 0xcafebabe else [])

/-- A ping or pong frame is put whole or not at all. -/
theorem encode_ping_pong_frame_eq {dst : Skb} (opcode : UInt8) (do_mask : Bool) (wsd_errno : Errno)
    (hok : dst.Ok) :
    encode_ping_pong_frame dst opcode do_mask wsd_errno =
      if skb_wrsz dst < (pingPongFrame opcode do_mask).length then
        .ok (-1, dst, .WSD_ENOMEM)
      else
        .ok (0, skb_put dst (pingPongFrame opcode do_mask), wsd_errno) := by
  have hlen : (pingPongFrame opcode do_mask).length =
      if do_mask then WS_MASKED_FRAME_LEN else WS_UNMASKED_FRAME_LEN := by
    cases do_mask <;> rfl
  by_cases hroom : skb_wrsz dst < (pingPongFrame opcode do_mask).length
  · rw [if_pos hroom]
    rw [hlen] at hroom
    unfold encode_ping_pong_frame
    rw [if_pos hroom]
    rfl
  · rw [if_neg hroom]
    rw [hlen] at hroom
    have hlarge : 2 + (if do_mask then 4 else 0) ≤ skb_wrsz dst := by
      unfold WS_MASKED_FRAME_LEN WS_UNMASKED_FRAME_LEN at hroom
      cases do_mask <;> simp at hroom ⊢ <;> omega
    have hput : [set_opcode (set_fin_bit 0) opcode].length ≤ skb_wrsz dst := by
      rw [List.length_singleton]
      omega
    have hleft := hok.wrsz_put hput
    rw [List.length_singleton] at hleft
    have hshort := @ws_set_payload_len_short (skb_put dst [set_opcode (set_fin_bit 0) opcode]) 0
      (if do_mask then set_mask_bit 0 else 0) (by decide) (by omega)
    unfold encode_ping_pong_frame
    rw [if_neg hroom]
    simp only [hshort, hok.put_put hput, decide_true, assert_true, Except.ok_bind, Except.pure_eq_ok]
    cases do_mask with
    | false => simp [pingPongFrame]
    | true =>
      simp only [if_true] at hlarge ⊢
      rw [hok.put_put (by simpa using by omega)]
      simp [pingPongFrame]

/-- Whatever the positions of the buffer are, the encoder returns one of two
    results or fails its own assertion. -/
theorem encode_ping_pong_frame_outcome (dst : Skb) (opcode : UInt8) (do_mask : Bool) (wsd_errno : Errno) :
    encode_ping_pong_frame dst opcode do_mask wsd_errno = .ok (-1, dst, .WSD_ENOMEM) ∨
      (∃ dst', encode_ping_pong_frame dst opcode do_mask wsd_errno = .ok (0, dst', wsd_errno)) ∨
      encode_ping_pong_frame dst opcode do_mask wsd_errno =
        .error (.assertion .encode_ping_pong_frame_set_payload_len) := by
  by_cases hroom : skb_wrsz dst < if do_mask then WS_MASKED_FRAME_LEN else WS_UNMASKED_FRAME_LEN
  · exact Or.inl (if_pos hroom)
  apply Or.inr
  unfold encode_ping_pong_frame
  rw [if_neg hroom]
  cases hset : decide ((ws_set_payload_len (skb_put dst [set_opcode (set_fin_bit 0) opcode]) 0
      (if do_mask then set_mask_bit 0 else 0)).1 = 0) with
  | false =>
    simp only [hset, assert_false, Except.error_bind]
    exact Or.inr trivial
  | true =>
    simp only [hset, assert_true, Except.ok_bind]
    exact Or.inl ⟨_, rfl⟩

/-- With room for the frame the encoder returns 0, wherever the positions are. -/
theorem encode_ping_pong_frame_room {dst : Skb} (opcode : UInt8) (do_mask : Bool) (wsd_errno : Errno)
    (hpos : dst.wrpos < 4294967296)
    (hroom : (if do_mask then WS_MASKED_FRAME_LEN else WS_UNMASKED_FRAME_LEN) ≤ skb_wrsz dst) :
    ∃ dst', encode_ping_pong_frame dst opcode do_mask wsd_errno = .ok (0, dst', wsd_errno) := by
  have htwo : 2 ≤ skb_wrsz dst := by
    unfold WS_MASKED_FRAME_LEN WS_UNMASKED_FRAME_LEN at hroom
    split at hroom <;> omega
  have hleft := Skb.wrsz_put_byte (x := set_opcode (set_fin_bit 0) opcode) hpos (by omega)
  have hshort := @ws_set_payload_len_short (skb_put dst [set_opcode (set_fin_bit 0) opcode]) 0
    (if do_mask then set_mask_bit 0 else 0) (by decide) (by omega)
  unfold encode_ping_pong_frame
  rw [if_neg (Nat.not_lt.mpr hroom)]
  simp only [hshort, decide_true, assert_true, Except.ok_bind, Except.pure_eq_ok]
  exact ⟨_, rfl⟩

def encode_close_frame (dst : Skb) (status : Nat) (do_mask : Bool) (wsd_errno : Errno) :
    Except Fault (Int × Skb × Errno) := do
  let frame_len := if do_mask then WS_MASKED_FRAME_LEN else WS_UNMASKED_FRAME_LEN
  let frame_len := frame_len + (if 0 < status then 2 else 0)
  if frame_len > skb_wrsz dst then
    return (-1, dst, .WSD_ENOMEM)
  else
    let payload_len := if 0 < status then 2 else 0
    let byte1 := set_opcode (set_fin_bit 0) WS_CLOSE_FRAME
    let byte2 := if do_mask then set_mask_bit 0 else 0
    let masking_key := if do_mask then 0xcafebabe else 0
    let dst := skb_put dst [byte1]
    let (rv, dst) := ws_set_payload_len dst payload_len byte2
    assert .encode_close_frame_set_payload_len (rv = 0)
    let dst := if do_mask then skb_put dst (Bytes.le 4 masking_key) else dst
    if 0 < status then
      let k := Bytes.leVal (Bytes.be 2 status)
      if do_mask then
        let dst := skb_put dst [mask (UInt8.ofNat (k >>> 2)) 0 masking_key]
        let dst := skb_put dst [mask (UInt8.ofNat (k &&& 0xff)) 1 masking_key]
        return (0, dst, wsd_errno)
      else
        return (0, skb_put dst (Bytes.le 2 k), wsd_errno)
    else
      return (0, dst, wsd_errno)

/-- The bytes of a close frame; a status of zero stands for none. -/
def closeFrame (status : Nat) (do_mask : Bool) : List UInt8 :=
  [set_opcode (set_fin_bit 0) WS_CLOSE_FRAME] ++
    [set_payload_bits (if do_mask then set_mask_bit 0 else 0) (if 0 < status then 2 else 0)] ++
    (if do_mask then Bytes.le 4 0xcafebabe else []) ++
    (if 0 < status then
      if do_mask then
        [mask (UInt8.ofNat (Bytes.leVal (Bytes.be 2 status) >>> 2)) 0 0xcafebabe] ++
          [mask (UInt8.ofNat (Bytes.leVal (Bytes.be 2 status) &&& 0xff)) 1 0xcafebabe]
      else
        Bytes.le 2 (Bytes.leVal (Bytes.be 2 status))
    else [])

theorem length_closeFrame (status : Nat) (do_mask : Bool) :
    (closeFrame status do_mask).length =
      (if do_mask then WS_MASKED_FRAME_LEN else WS_UNMASKED_FRAME_LEN) + (if 0 < status then 2 else 0) := by
  unfold closeFrame WS_MASKED_FRAME_LEN WS_UNMASKED_FRAME_LEN
  by_cases hstatus : 0 < status <;> cases do_mask <;> simp [hstatus]

/-- A close frame is put whole or not at all. -/
theorem encode_close_frame_eq {dst : Skb} (status : Nat) (do_mask : Bool) (wsd_errno : Errno) (hok : dst.Ok) :
    encode_close_frame dst status do_mask wsd_errno =
      if skb_wrsz dst < (closeFrame status do_mask).length then
        .ok (-1, dst, .WSD_ENOMEM)
      else
        .ok (0, skb_put dst (closeFrame status do_mask), wsd_errno) := by
  by_cases hroom : skb_wrsz dst < (closeFrame status do_mask).length
  · rw [if_pos hroom]
    rw [length_closeFrame] at hroom
    unfold encode_close_frame
    rw [if_pos hroom]
    rfl
  · rw [if_neg hroom]
    rw [length_closeFrame] at hroom
    have hlarge : 2 + (if do_mask then 4 else 0) + (if 0 < status then 2 else 0) ≤ skb_wrsz dst := by
      unfold WS_MASKED_FRAME_LEN WS_UNMASKED_FRAME_LEN at hroom
      cases do_mask <;> simp at hroom ⊢ <;> omega
    have hput : [set_opcode (set_fin_bit 0) WS_CLOSE_FRAME].length ≤ skb_wrsz dst := by
      rw [List.length_singleton]
      omega
    have hleft := hok.wrsz_put hput
    rw [List.length_singleton] at hleft
    have hshort := @ws_set_payload_len_short (skb_put dst [set_opcode (set_fin_bit 0) WS_CLOSE_FRAME])
        (if 0 < status then 2 else 0) (if do_mask then set_mask_bit 0 else 0)
      (by split <;> decide) (by omega)
    unfold encode_close_frame
    rw [if_neg hroom]
    simp only [hshort, hok.put_put hput, decide_true, assert_true, Except.ok_bind, Except.pure_eq_ok]
    by_cases hstatus : 0 < status
    · simp only [if_pos hstatus] at hlarge ⊢
      cases do_mask with
      | false =>
        simp only [Bool.false_eq_true, if_false]
        rw [hok.put_put (by simpa using by omega)]
        simp [closeFrame, hstatus]
      | true =>
        simp only [if_true] at hlarge ⊢
        rw [hok.put_put (by simpa using by omega), hok.put_put (by simpa using by omega),
          hok.put_put (by simpa using by omega)]
        simp [closeFrame, hstatus]
    · simp only [if_neg hstatus] at hlarge ⊢
      cases do_mask with
      | false => simp [closeFrame, hstatus]
      | true =>
        rw [if_pos rfl, hok.put_put (by simpa using by omega)]
        simp [closeFrame, hstatus]

theorem encode_close_frame_outcome (dst : Skb) (status : Nat) (do_mask : Bool) (wsd_errno : Errno) :
    encode_close_frame dst status do_mask wsd_errno = .ok (-1, dst, .WSD_ENOMEM) ∨
      (∃ dst', encode_close_frame dst status do_mask wsd_errno = .ok (0, dst', wsd_errno)) ∨
      encode_close_frame dst status do_mask wsd_errno =
        .error (.assertion .encode_close_frame_set_payload_len) := by
  by_cases hroom : skb_wrsz dst <
      (if do_mask then WS_MASKED_FRAME_LEN else WS_UNMASKED_FRAME_LEN) + (if 0 < status then 2 else 0)
  · exact Or.inl (if_pos hroom)
  apply Or.inr
  unfold encode_close_frame
  rw [if_neg hroom]
  cases hset : decide ((ws_set_payload_len (skb_put dst [set_opcode (set_fin_bit 0) WS_CLOSE_FRAME])
      (if 0 < status then 2 else 0) (if do_mask then set_mask_bit 0 else 0)).1 = 0) with
  | false =>
    simp only [hset, assert_false, Except.error_bind]
    exact Or.inr trivial
  | true =>
    simp only [hset, assert_true, Except.ok_bind]
    apply Or.inl
    by_cases hstatus : 0 < status
    · cases do_mask with
      | false => exact ⟨_, by simp only [if_pos hstatus]; rfl⟩
      | true => exact ⟨_, by simp only [if_pos hstatus]; rfl⟩
    · exact ⟨_, by simp only [if_neg hstatus]; rfl⟩

theorem encode_close_frame_room {dst : Skb} (status : Nat) (do_mask : Bool) (wsd_errno : Errno)
    (hpos : dst.wrpos < 4294967296) (hroom : (closeFrame status do_mask).length ≤ skb_wrsz dst) :
    ∃ dst', encode_close_frame dst status do_mask wsd_errno = .ok (0, dst', wsd_errno) := by
  rw [length_closeFrame] at hroom
  have htwo : 2 ≤ skb_wrsz dst := by
    unfold WS_MASKED_FRAME_LEN WS_UNMASKED_FRAME_LEN at hroom
    split at hroom <;> omega
  have hleft := Skb.wrsz_put_byte (x := set_opcode (set_fin_bit 0) WS_CLOSE_FRAME) hpos (by omega)
  have hshort := @ws_set_payload_len_short (skb_put dst [set_opcode (set_fin_bit 0) WS_CLOSE_FRAME])
      (if 0 < status then 2 else 0) (if do_mask then set_mask_bit 0 else 0) (by split <;> decide) (by omega)
  unfold encode_close_frame
  rw [if_neg (Nat.not_lt.mpr hroom)]
  simp only [hshort, decide_true, assert_true, Except.ok_bind, Except.pure_eq_ok]
  by_cases hstatus : 0 < status
  · cases do_mask with
    | false => exact ⟨_, by simp only [if_pos hstatus]; rfl⟩
    | true => exact ⟨_, by simp only [if_pos hstatus]; rfl⟩
  · exact ⟨_, by simp only [if_neg hstatus]; rfl⟩

def ws_start_closing_handshake (sk : Sk) (status : Nat) (do_mask : Bool) (wsd_errno : Errno) :
    Except Fault (Int × Sk × Errno) := do
  assert .ws_start_closing_handshake_closing (!sk.closing)
  let (rv, sendbuf, wsd_errno) ← encode_close_frame sk.sendbuf status do_mask wsd_errno
  let sk := { sk with sendbuf }
  if rv = 0 then
    let sk := { sk with closing := true }
    let sk := if !sk.events.EPOLLOUT then turn_on_events sk EPOLLOUT else sk
    return (rv, sk, wsd_errno)
  else
    return (rv, sk, wsd_errno)

/-- The common text of `ws_ping` and `ws_pong`. -/
def put_ping_pong (closing : Assertion) (opcode : UInt8) (sk : Sk) (do_mask : Bool) (wsd_errno : Errno) :
    Except Fault (Int × Sk × Errno) := do
  assert closing (!sk.closing)
  let (rv, sendbuf, wsd_errno) ← encode_ping_pong_frame sk.sendbuf opcode do_mask wsd_errno
  let sk := { sk with sendbuf }
  let sk := if rv = 0 ∧ !sk.events.EPOLLOUT then turn_on_events sk EPOLLOUT else sk
  return (rv, sk, wsd_errno)

def ws_ping : Sk → Bool → Errno → Except Fault (Int × Sk × Errno) :=
  put_ping_pong .ws_ping_closing WS_PING_FRAME

def ws_pong : Sk → Bool → Errno → Except Fault (Int × Sk × Errno) :=
  put_ping_pong .ws_pong_closing WS_PONG_FRAME

def ws_finish_closing_handshake (sk : Sk) (do_mask : Bool) (len : Nat) (wsd_errno : Errno) :
    Except Fault (Int × Sk × Errno) := do
  if sk.closing then
    return (0, { sk with recvbuf := skb_reset sk.recvbuf, closing := false, close := true }, wsd_errno)
  else
    let (status, recvbuf) :=
      if WS_FRAME_STATUS_LEN ≤ len ∧ WS_FRAME_STATUS_LEN ≤ skb_wrsz sk.sendbuf then
        let (status, recvbuf) := skb_get sk.recvbuf 2
        (Bytes.beVal status, recvbuf)
      else
        (0, sk.recvbuf)
    let (rv, sendbuf, wsd_errno) ← encode_close_frame sk.sendbuf status do_mask wsd_errno
    let sk := { sk with sendbuf, recvbuf }
    let sk := if rv = 0 then { sk with close_on_write := true, closing := true } else sk
    return (rv, { sk with recvbuf := skb_reset sk.recvbuf }, wsd_errno)

section Effects

variable {dst dst' : Skb} {do_mask : Bool} {wsd_errno errno' : Errno} {rv : Int}

/-- The encoder has put the frame, or found no room for it. -/
theorem encode_ping_pong_frame_inv {opcode : UInt8}
    (h : encode_ping_pong_frame dst opcode do_mask wsd_errno = .ok (rv, dst', errno')) :
    (rv = 0 ∧ errno' = wsd_errno ∧ (dst.Ok → dst.Appended (pingPongFrame opcode do_mask) dst')) ∨
      rv = -1 ∧ errno' = .WSD_ENOMEM ∧ dst' = dst := by
  have happended (hrv : rv = 0) (hok : dst.Ok) : dst.Appended (pingPongFrame opcode do_mask) dst' := by
    rw [encode_ping_pong_frame_eq opcode do_mask wsd_errno hok] at h
    by_cases hroom : skb_wrsz dst < (pingPongFrame opcode do_mask).length
    · rw [if_pos hroom, hrv] at h
      cases h
    · rw [if_neg hroom] at h
      cases h
      exact ⟨rfl, Nat.not_lt.mp hroom⟩
  obtain houtcome | ⟨_, houtcome⟩ | houtcome := encode_ping_pong_frame_outcome dst opcode do_mask wsd_errno
  · rw [houtcome] at h
    cases h
    exact Or.inr ⟨rfl, rfl, rfl⟩
  · rw [houtcome] at h
    cases h
    exact Or.inl ⟨rfl, rfl, happended rfl⟩
  · rw [houtcome] at h
    cases h

theorem encode_close_frame_inv {status : Nat}
    (h : encode_close_frame dst status do_mask wsd_errno = .ok (rv, dst', errno')) :
    (rv = 0 ∧ errno' = wsd_errno ∧ (dst.Ok → dst.Appended (closeFrame status do_mask) dst')) ∨
      rv = -1 ∧ errno' = .WSD_ENOMEM ∧ dst' = dst := by
  have happended (hrv : rv = 0) (hok : dst.Ok) : dst.Appended (closeFrame status do_mask) dst' := by
    rw [encode_close_frame_eq status do_mask wsd_errno hok] at h
    by_cases hroom : skb_wrsz dst < (closeFrame status do_mask).length
    · rw [if_pos hroom, hrv] at h
      cases h
    · rw [if_neg hroom] at h
      cases h
      exact ⟨rfl, Nat.not_lt.mp hroom⟩
  obtain houtcome | ⟨_, houtcome⟩ | houtcome := encode_close_frame_outcome dst status do_mask wsd_errno
  · rw [houtcome] at h
    cases h
    exact Or.inr ⟨rfl, rfl, rfl⟩
  · rw [houtcome] at h
    cases h
    exact Or.inl ⟨rfl, rfl, happended rfl⟩
  · rw [houtcome] at h
    cases h

/-- A ping or pong frame goes to a socket whose closing has not begun. -/
theorem put_ping_pong_inv {closing : Assertion} {opcode : UInt8} {sk sk' : Sk}
    (h : put_ping_pong closing opcode sk do_mask wsd_errno = .ok (rv, sk', errno')) :
    sk.closing = false ∧ ((rv = 0 ∧ errno' = wsd_errno ∧ ∃ sendbuf,
      sk' = { sk with sendbuf, events := sk.events.union EPOLLOUT } ∧
        (sk.sendbuf.Ok → sk.sendbuf.Appended (pingPongFrame opcode do_mask) sendbuf)) ∨
      rv = -1 ∧ errno' = .WSD_ENOMEM ∧ sk' = sk) := by
  unfold put_ping_pong at h
  obtain ⟨_, hclosing, h⟩ := Except.bind_eq_ok_iff.mp h
  obtain ⟨⟨rv', sendbuf, e⟩, hencode, hret⟩ := Except.bind_eq_ok_iff.mp h
  refine ⟨by simpa using assert_eq_ok_iff.mp hclosing, ?_⟩
  obtain ⟨hrv, he, hsend⟩ | ⟨hrv, he, hbuf⟩ := encode_ping_pong_frame_inv hencode
  · left
    simp only [hrv, he, true_and, Except.pure_eq_ok, Except.ok.injEq, Prod.mk.injEq] at hret
    obtain ⟨rfl, rfl, rfl⟩ := hret
    exact ⟨rfl, rfl, sendbuf, turn_on_out { sk with sendbuf }, hsend⟩
  · right
    simp only [hrv, he, hbuf, show ¬ (-1 : Int) = 0 by decide, false_and, if_false, Except.pure_eq_ok,
      Except.ok.injEq, Prod.mk.injEq] at hret
    obtain ⟨rfl, rfl, rfl⟩ := hret
    exact ⟨rfl, rfl, rfl⟩

/-- A socket whose closing has not begun gets the frame if there is room for it. -/
theorem put_ping_pong_room {closing : Assertion} {opcode : UInt8} {sk : Sk} (hclosing : sk.closing = false)
    (hpos : sk.sendbuf.wrpos < 4294967296)
    (hroom : (if do_mask then WS_MASKED_FRAME_LEN else WS_UNMASKED_FRAME_LEN) ≤ skb_wrsz sk.sendbuf) :
    ∃ sk', put_ping_pong closing opcode sk do_mask wsd_errno = .ok (0, sk', wsd_errno) ∧ sk'.recvbuf = sk.recvbuf := by
  obtain ⟨sendbuf, hencode⟩ := encode_ping_pong_frame_room opcode do_mask wsd_errno hpos hroom
  unfold put_ping_pong
  simp only [hclosing, Bool.not_false, assert_true, Except.ok_bind, hencode, Except.pure_eq_ok]
  refine ⟨_, rfl, ?_⟩
  split <;> rfl

theorem ws_start_closing_handshake_room {sk : Sk} {status : Nat} (hclosing : sk.closing = false)
    (hpos : sk.sendbuf.wrpos < 4294967296) (hroom : (closeFrame status do_mask).length ≤ skb_wrsz sk.sendbuf) :
    ∃ sk', ws_start_closing_handshake sk status do_mask wsd_errno = .ok (0, sk', wsd_errno) ∧
      sk'.recvbuf = sk.recvbuf := by
  obtain ⟨sendbuf, hencode⟩ := encode_close_frame_room status do_mask wsd_errno hpos hroom
  unfold ws_start_closing_handshake
  simp only [hclosing, Bool.not_false, assert_true, Except.ok_bind, hencode, Except.pure_eq_ok, if_true]
  refine ⟨_, rfl, ?_⟩
  split <;> rfl

/-- Only a socket whose closing has not begun and which has room for it gets the frame. -/
theorem put_ping_pong_zero {closing : Assertion} {opcode : UInt8} {sk sk' : Sk}
    (h : put_ping_pong closing opcode sk do_mask wsd_errno = .ok (0, sk', errno')) :
    sk.closing = false ∧ (if do_mask then WS_MASKED_FRAME_LEN else WS_UNMASKED_FRAME_LEN) ≤ skb_wrsz sk.sendbuf := by
  unfold put_ping_pong at h
  obtain ⟨_, hclosing, h⟩ := Except.bind_eq_ok_iff.mp h
  obtain ⟨⟨rv', sendbuf, e⟩, hencode, hret⟩ := Except.bind_eq_ok_iff.mp h
  refine ⟨by simpa using assert_eq_ok_iff.mp hclosing, Nat.not_lt.mp fun hfull => ?_⟩
  rw [encode_ping_pong_frame, if_pos hfull] at hencode
  cases hencode
  cases hret

theorem ws_start_closing_handshake_zero {sk sk' : Sk} {status : Nat}
    (h : ws_start_closing_handshake sk status do_mask wsd_errno = .ok (0, sk', errno')) :
    sk.closing = false ∧ (closeFrame status do_mask).length ≤ skb_wrsz sk.sendbuf := by
  unfold ws_start_closing_handshake at h
  obtain ⟨_, hclosing, h⟩ := Except.bind_eq_ok_iff.mp h
  obtain ⟨⟨rv', sendbuf, e⟩, hencode, hret⟩ := Except.bind_eq_ok_iff.mp h
  refine ⟨by simpa using assert_eq_ok_iff.mp hclosing, Nat.not_lt.mp fun hfull => ?_⟩
  rw [length_closeFrame] at hfull
  rw [encode_close_frame, if_pos hfull] at hencode
  cases hencode
  cases hret

/-- The closing handshake begins exactly if there is room for the close frame. -/
theorem ws_start_closing_handshake_inv {sk sk' : Sk} {status : Nat}
    (h : ws_start_closing_handshake sk status do_mask wsd_errno = .ok (rv, sk', errno')) :
    sk.closing = false ∧ ((rv = 0 ∧ errno' = wsd_errno ∧ ∃ sendbuf,
      sk' = { sk with sendbuf, events := sk.events.union EPOLLOUT, closing := true } ∧
        (sk.sendbuf.Ok → sk.sendbuf.Appended (closeFrame status do_mask) sendbuf)) ∨
      rv = -1 ∧ errno' = .WSD_ENOMEM ∧ sk' = sk) := by
  unfold ws_start_closing_handshake at h
  obtain ⟨_, hclosing, h⟩ := Except.bind_eq_ok_iff.mp h
  obtain ⟨⟨rv', sendbuf, e⟩, hencode, hret⟩ := Except.bind_eq_ok_iff.mp h
  refine ⟨by simpa using assert_eq_ok_iff.mp hclosing, ?_⟩
  obtain ⟨hrv, he, hsend⟩ | ⟨hrv, he, hbuf⟩ := encode_close_frame_inv hencode
  · left
    simp only [hrv, he, if_true, Except.pure_eq_ok, Except.ok.injEq, Prod.mk.injEq] at hret
    obtain ⟨rfl, rfl, rfl⟩ := hret
    exact ⟨rfl, rfl, sendbuf, turn_on_out { sk with sendbuf, closing := true }, hsend⟩
  · right
    simp only [hrv, he, hbuf, show ¬ (-1 : Int) = 0 by decide, if_false, Except.pure_eq_ok, Except.ok.injEq,
      Prod.mk.injEq] at hret
    obtain ⟨rfl, rfl, rfl⟩ := hret
    exact ⟨rfl, rfl, rfl⟩

/-- A close frame either answers the one which was sent before, or is answered,
    or finds no room for the answer. -/
theorem ws_finish_closing_handshake_inv {sk sk' : Sk} {len : Nat}
    (h : ws_finish_closing_handshake sk do_mask len wsd_errno = .ok (rv, sk', errno')) :
    ∃ recvbuf,
      (rv = 0 ∧ errno' = wsd_errno ∧ sk.closing = true ∧
        sk' = { sk with recvbuf := skb_reset recvbuf, closing := false, close := true }) ∨
      (rv = 0 ∧ errno' = wsd_errno ∧ sk.closing = false ∧ ∃ status sendbuf,
        (sk.sendbuf.Ok → sk.sendbuf.Appended (closeFrame status do_mask) sendbuf) ∧
        sk' = { sk with recvbuf := skb_reset recvbuf, sendbuf, closing := true, close_on_write := true }) ∨
      rv = -1 ∧ errno' = .WSD_ENOMEM ∧ sk.closing = false ∧ sk' = { sk with recvbuf := skb_reset recvbuf } := by
  unfold ws_finish_closing_handshake at h
  cases hclosing : sk.closing with
  | true =>
    simp only [hclosing, if_true, Except.pure_eq_ok, Except.ok.injEq, Prod.mk.injEq] at h
    obtain ⟨rfl, rfl, rfl⟩ := h
    exact ⟨sk.recvbuf, Or.inl ⟨rfl, rfl, rfl, rfl⟩⟩
  | false =>
    simp only [hclosing, Bool.false_eq_true, if_false] at h
    obtain ⟨⟨rv', sendbuf, e⟩, hencode, hret⟩ := Except.bind_eq_ok_iff.mp h
    obtain ⟨hrv, he, hsend⟩ | ⟨hrv, he, hbuf⟩ := encode_close_frame_inv hencode
    · simp only [hrv, he, if_true, Except.pure_eq_ok, Except.ok.injEq, Prod.mk.injEq] at hret
      obtain ⟨rfl, rfl, rfl⟩ := hret
      exact ⟨_, Or.inr (Or.inl ⟨rfl, rfl, rfl, _, sendbuf, hsend, rfl⟩)⟩
    · simp only [hrv, he, hbuf, show ¬ (-1 : Int) = 0 by decide, if_false, Except.pure_eq_ok, Except.ok.injEq,
        Prod.mk.injEq] at hret
      obtain ⟨rfl, rfl, rfl⟩ := hret
      exact ⟨_, Or.inr (Or.inr ⟨rfl, rfl, rfl, by rw [← hclosing]⟩)⟩

end Effects

end wsd
