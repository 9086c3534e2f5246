import Wsd.Ws.Encode

namespace wsd

/-- What the handlers of the standard input's socket read and write: their
    argument, `wssk` and the other variables of the program. `last_input` is
    allocated only if input is to be repeated. -/
structure Stdin where
  sk : Sk
  wssk : Option Sk
  last_input : Option Skb
  repeat_last_num : Int
  is_json : Bool
  wsd_errno : Errno

/-- The loop of `balanced_span` from index `pos` on, with as many rounds as there
    are cells up to the write position. -/
def span_loop (buf : Skb) (begin end_ : UInt8) : Nat → Nat → Int → Int
  | 0, _, _ => -1
  | n + 1, pos, num =>
    if buf.data pos = begin then
      span_loop buf begin end_ n (pos + 1) (if num = -1 then 1 else num + 1)
    else if buf.data pos = end_ then
      if num - 1 = 0 then i32 (pos + 4294967296 - buf.rdpos + 1) else span_loop buf begin end_ n (pos + 1) (num - 1)
    else
      span_loop buf begin end_ n (pos + 1) num

def balanced_span (buf : Skb) (begin end_ : UInt8) : Int :=
  span_loop buf begin end_ (buf.wrpos - buf.rdpos) buf.rdpos (-1)

/-- `for (int i = 0; ...) dst->data[dst->wrpos++] = mask(src->data[src->rdpos++], i, key);`
    where `n` rounds are left. -/
def mask_transfer (masking_key : Nat) : Nat → Nat → Skb → Skb → Skb × Skb
  | 0, _, dst, src => (dst, src)
  | n + 1, i, dst, src =>
    mask_transfer masking_key n (i + 1)
      { dst with data := dst.data.store dst.wrpos [mask (src.data src.rdpos) i masking_key], wrpos := u32 (dst.wrpos + 1) }
      { src with rdpos := u32 (src.rdpos + 1) }

/-- Appends one masked text frame to `dst`, with at most `maxlen` bytes of `src`. -/
def wssk_ws_encode_data_frame (dst src : Skb) (maxlen : Nat) (wsd_errno : Errno) :
    Except Fault (Int × Skb × Skb × Errno) := do
  let payload_len := if skb_rdsz src < maxlen then skb_rdsz src else maxlen
  let (frame_len, wsd_errno) := ws_calculate_frame_length payload_len wsd_errno
  if 0 > frame_len then
    return (-1, dst, src, wsd_errno)
  else if frame_len > skb_wrsz dst then
    return (-1, dst, src, .WSD_EAGAIN)
  else
    let byte1 := set_opcode (set_fin_bit 0) WS_TEXT_FRAME
    let byte2 := set_mask_bit 0
    let masking_key := 0xdeadbeef
    let dst := skb_put dst [byte1]
    let (rv, dst) := ws_set_payload_len dst payload_len byte2
    assert .wssk_ws_encode_data_frame_set_payload_len (rv = 0)
    let dst := skb_put dst (Bytes.le 4 masking_key)
    let (dst, src) := mask_transfer masking_key payload_len 0 dst src
    return (0, dst, skb_compact src, wsd_errno)

/-- The length is passed on as an `unsigned int`. -/
def wssk_ws_encode_frame (s : Stdin) (wsf : WsFrame) : Except Fault (Int × Stdin) :=
  match s.wssk with
  | none => .error .null_pointer
  | some wssk => do
    let (rv, sendbuf, recvbuf, wsd_errno) ←
      wssk_ws_encode_data_frame wssk.sendbuf s.sk.recvbuf (u32 wsf.payload_len) s.wsd_errno
    return (rv, { s with sk := { s.sk with recvbuf }, wssk := some { wssk with sendbuf }, wsd_errno })

/-- The length of the next frame's payload; `none` if no object is complete. -/
def stdin_payload_len (s : Stdin) : Option Nat :=
  if s.is_json then
    let span := balanced_span s.sk.recvbuf 0x7b 0x7d
    if span = -1 then none else some span.toNat
  else
    some (if 32 < skb_rdsz s.sk.recvbuf then 32 else skb_rdsz s.sk.recvbuf)

/-- `skb_reset(last_input); skb_copy(last_input, sk->recvbuf, wsf.payload_len);` -/
def save_last_input (s : Stdin) (payload_len : Nat) : Except Fault Stdin :=
  if 0 < s.repeat_last_num then
    match s.last_input with
    | none => .error .null_pointer
    | some last_input =>
      let copied := s.sk.recvbuf.data.window s.sk.recvbuf.rdpos payload_len
      .ok { s with last_input := some (skb_put (skb_reset last_input) copied) }
  else
    .ok s

def stdin_decode_frame (s : Stdin) : Except Fault (Int × Stdin) := do
  if skb_rdsz s.sk.recvbuf = 0 then
    return (-1, { s with wsd_errno := .WSD_EINPUT })
  else
    match stdin_payload_len s with
    | none => return (-1, { s with wsd_errno := .WSD_EINPUT })
    | some payload_len =>
      let s ← save_last_input s payload_len
      wssk_ws_encode_frame s { payload_len }

/-- `while (0 == (rv = sk->proto->decode_frame(sk))) frames++;` of `stdin_recv`. -/
def stdin_decode_loop : Nat → Nat → Stdin → Except Fault (Int × Nat × Stdin)
  | 0, _, _ => .error .unfinished
  | fuel + 1, frames, s => do
    let (rv, s) ← stdin_decode_frame s
    if rv = 0 then stdin_decode_loop fuel (frames + 1) s else return (rv, frames, s)

/-- The end of `stdin_recv`, after the given number of frames. -/
def stdin_recv_leave (frames : Nat) (s : Stdin) : Stdin :=
  let wssk :=
    if frames ≠ 0 then
      s.wssk.map fun wssk => if !wssk.events.EPOLLOUT then turn_on_events wssk EPOLLOUT else wssk
    else s.wssk
  let sk := if frames ≠ 0 ∧ !s.sk.events.EPOLLIN ∧ s.sk.close_on_write then turn_on_events s.sk EPOLLIN else s.sk
  let sk := if sk.close ∨ sk.close_on_write then turn_off_events sk EPOLLIN else sk
  let sk := if sk.close_on_write ∧ !sk.events.EPOLLOUT then turn_on_events sk EPOLLOUT else sk
  { s with sk, wssk }

def stdin_recv (s : Stdin) : Except Fault (Int × Stdin) := do
  assert .stdin_recv_rdsz (skb_rdsz s.sk.recvbuf ≠ 0)
  if s.wssk.isNone then
    return (-1, s)
  else
    let (_, frames, s) ← stdin_decode_loop (skb_rdsz s.sk.recvbuf + 1) 0 s
    return (0, stdin_recv_leave frames s)

/-- The handlers of the standard input replace the receive buffer of their socket. -/
theorem stdin_decode_frame_sk {s s' : Stdin} {rv : Int} (h : stdin_decode_frame s = .ok (rv, s')) :
    ∃ recvbuf, s'.sk = { s.sk with recvbuf } := by
  unfold stdin_decode_frame at h
  by_cases hempty : skb_rdsz s.sk.recvbuf = 0
  · rw [if_pos hempty] at h
    cases h
    exact ⟨s.sk.recvbuf, rfl⟩
  rw [if_neg hempty] at h
  cases hlen : stdin_payload_len s with
  | none =>
    rw [hlen] at h
    cases h
    exact ⟨s.sk.recvbuf, rfl⟩
  | some payload_len =>
    rw [hlen] at h
    obtain ⟨s1, hsave, hencode⟩ := Except.bind_eq_ok_iff.mp h
    have hsk : s1.sk = s.sk := by
      unfold save_last_input at hsave
      split at hsave
      · split at hsave
        · cases hsave
        · cases hsave
          rfl
      · cases hsave
        rfl
    unfold wssk_ws_encode_frame at hencode
    cases hwssk : s1.wssk with
    | none =>
      rw [hwssk] at hencode
      cases hencode
    | some wssk =>
      rw [hwssk] at hencode
      obtain ⟨⟨rv', sendbuf, recvbuf, e⟩, -, hret⟩ := Except.bind_eq_ok_iff.mp hencode
      cases hret
      exact ⟨recvbuf, by rw [← hsk]⟩

end wsd
