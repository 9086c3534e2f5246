import Wsd.Ws.Control

namespace wsd

/-- The state which a frame handler works on: a client socket, the backend's
    socket `pp2sk`, and `wsd_errno`. -/
structure Conn where
  sk : Sk
  pp2sk : Sk
  wsd_errno : Errno

/-- The part of a socket which no frame handler writes. -/
structure Sk.Core where
  fd : Int
  hash : UInt64
  proto : Proto
  ops : Ops
  retries : UInt8
  ts_last_io : Timespec
  ts_closing_handshake_start : Timespec
  src_addr : SockaddrIn
  dst_addr : SockaddrIn

def Sk.core (sk : Sk) : Sk.Core where
  fd := sk.fd
  hash := sk.hash
  proto := sk.proto
  ops := sk.ops
  retries := sk.retries
  ts_last_io := sk.ts_last_io
  ts_closing_handshake_start := sk.ts_closing_handshake_start
  src_addr := sk.src_addr
  dst_addr := sk.dst_addr

/-- Appends a backend payload, taken from the read position of `pp2sk`'s receive
    buffer, to the client's send buffer. -/
def ws_encode_frame (c : Conn) (wsf : WsFrame) : Except Fault (Int × Conn) := do
  let (frame_len, wsd_errno) := ws_calculate_frame_length wsf.payload_len c.wsd_errno
  assert .ws_encode_frame_frame_len (0 < frame_len)
  if skb_wrsz c.sk.sendbuf < frame_len then
    return (-1, { c with wsd_errno := .WSD_EAGAIN })
  else
    let byte1 := set_opcode (set_fin_bit wsf.byte1) WS_TEXT_FRAME
    let sendbuf := skb_put c.sk.sendbuf [byte1]
    let (rv, sendbuf) := ws_set_payload_len sendbuf wsf.payload_len 0
    assert .ws_encode_frame_set_payload_len (rv = 0)
    let (sendbuf, recvbuf) := skb_transfer wsf.payload_len sendbuf c.pp2sk.recvbuf
    let sk := { c.sk with sendbuf }
    let pp2sk := { c.pp2sk with recvbuf := skb_compact recvbuf }
    let sk := if !sk.events.EPOLLOUT then turn_on_events sk EPOLLOUT else sk
    -- The client's interest set is extended here, not the one of `pp2sk`.
    let sk := if !pp2sk.events.EPOLLIN then turn_on_events sk EPOLLIN else sk
    return (0, { sk, pp2sk, wsd_errno })

/-- The frame which carries a backend payload to a client. -/
def wsFrame (payload : List UInt8) : List UInt8 :=
  set_opcode (set_fin_bit 0) WS_TEXT_FRAME :: (payloadLenBytes payload.length ++ payload)

@[simp] theorem length_wsFrame (payload : List UInt8) :
    (wsFrame payload).length = 2 + (LenForm.shortest payload.length).extLen + payload.length := by
  simp [wsFrame]
  omega

/-- The length which the capacity check compares with the free space. -/
def frameLen (len : Nat) : Nat :=
  (if len < 126 then 1 else if len ≤ 65535 then 2 else 9) + len

/-- The check falls short of the frame by one or two bytes. -/
theorem frameLen_lt_length_wsFrame (payload : List UInt8) : frameLen payload.length < (wsFrame payload).length := by
  rw [length_wsFrame]
  unfold frameLen LenForm.shortest
  split
  · simp only [LenForm.extLen]
    omega
  · split <;> simp only [LenForm.extLen] <;> omega

/-- The free spaces which pass the check although the frame does not fit: one byte is
    missing, or with a 16-bit length one or two. -/
def ShortBy (len free : Nat) : Prop :=
  if len < 126 then free = len + 1 else if len ≤ 65535 then free = len + 2 ∨ free = len + 3 else free = len + 9

instance (len free : Nat) : Decidable (ShortBy len free) := by
  unfold ShortBy
  infer_instance

theorem shortBy_iff (payload : List UInt8) (free : Nat) :
    ShortBy payload.length free ↔ frameLen payload.length ≤ free ∧ free < (wsFrame payload).length := by
  rw [length_wsFrame]
  unfold ShortBy frameLen LenForm.shortest
  split
  · simp only [LenForm.extLen]
    omega
  · split <;> simp only [LenForm.extLen] <;> omega

/-- A client's interest set after a frame has been put into its send buffer. -/
def encodeEvents (events pp2events : EpollEvents) : EpollEvents :=
  let events := if !events.EPOLLOUT then events.union EPOLLOUT else events
  if !pp2events.EPOLLIN then events.union EPOLLIN else events

/-- Where the check fails nothing but `wsd_errno` changes. -/
theorem ws_encode_frame_full {c : Conn} {wsf : WsFrame} (hlen : wsf.payload_len ≤ SKB_SIZE)
    (hfull : skb_wrsz c.sk.sendbuf < frameLen wsf.payload_len) :
    ws_encode_frame c wsf = .ok (-1, { c with wsd_errno := .WSD_EAGAIN }) := by
  have hframe := ws_calculate_frame_length_eq hlen c.wsd_errno
  have hpos : (0 : Int) < (frameLen wsf.payload_len : Nat) := by
    unfold frameLen
    split
    · omega
    · split <;> omega
  change _ = (((frameLen wsf.payload_len : Nat) : Int), c.wsd_errno) at hframe
  unfold ws_encode_frame
  rw [hframe]
  simp only [decide_eq_true hpos, assert_true, Except.ok_bind]
  rw [if_pos (by omega)]
  rfl

/-- Where the check passes and the header fits, the frame is put as a whole,
    whether or not its last bytes still fit. -/
theorem ws_encode_frame_eq {c : Conn} {wsf : WsFrame} (hsend : c.sk.sendbuf.Ok) (hrecv : c.pp2sk.recvbuf.Ok)
    (hbyte1 : wsf.byte1 = 0) (hlen : wsf.payload_len ≤ skb_rdsz c.pp2sk.recvbuf)
    (hcheck : frameLen wsf.payload_len ≤ skb_wrsz c.sk.sendbuf)
    (hheader : 1 + (payloadLenBytes wsf.payload_len).length ≤ skb_wrsz c.sk.sendbuf) :
    ws_encode_frame c wsf = .ok (0, { c with
      sk := { c.sk with
        sendbuf := skb_put c.sk.sendbuf (wsFrame (c.pp2sk.recvbuf.readable.take wsf.payload_len))
        events := encodeEvents c.sk.events c.pp2sk.events }
      pp2sk := { c.pp2sk with recvbuf := skb_compact (skb_get c.pp2sk.recvbuf wsf.payload_len).2 } }) := by
  have hsize := hrecv.rdsz_le
  have hframe := ws_calculate_frame_length_eq (Nat.le_trans hlen hsize) c.wsd_errno
  change _ = (((frameLen wsf.payload_len : Nat) : Int), c.wsd_errno) at hframe
  have hpos : (0 : Int) < (frameLen wsf.payload_len : Nat) := by
    unfold frameLen
    split
    · omega
    · split <;> omega
  have hput : [set_opcode (set_fin_bit 0) WS_TEXT_FRAME].length ≤ skb_wrsz c.sk.sendbuf := by
    simp only [List.length_singleton]
    omega
  have hok := hsend.put hput
  have hroom : (payloadLenBytes wsf.payload_len).length ≤
      skb_wrsz (skb_put c.sk.sendbuf [set_opcode (set_fin_bit 0) WS_TEXT_FRAME]) := by
    rw [hsend.wrsz_put hput, List.length_singleton]
    omega
  have hset := ws_set_payload_len_eq hok (by unfold SKB_SIZE at hsize; omega) hroom
  have hboth : ([set_opcode (set_fin_bit 0) WS_TEXT_FRAME] ++ payloadLenBytes wsf.payload_len).length ≤
      skb_wrsz c.sk.sendbuf := by
    simpa [Nat.add_comm] using hheader
  have htake : (c.pp2sk.recvbuf.readable.take wsf.payload_len).length = wsf.payload_len := by
    rw [List.length_take, hrecv.length_readable_eq]
    omega
  have hputs : skb_put (skb_put (skb_put c.sk.sendbuf [set_opcode (set_fin_bit 0) WS_TEXT_FRAME])
      (payloadLenBytes wsf.payload_len)) (c.pp2sk.recvbuf.readable.take wsf.payload_len) =
      skb_put c.sk.sendbuf (wsFrame (c.pp2sk.recvbuf.readable.take wsf.payload_len)) := by
    rw [hsend.put_put hput, hsend.put_put hboth, wsFrame, htake]
    rfl
  unfold ws_encode_frame
  rw [hframe]
  simp only [decide_eq_true hpos, assert_true, Except.ok_bind]
  rw [if_neg (by omega)]
  simp only [hbyte1, hset, decide_true, assert_true, Except.ok_bind, (hok.put hroom).transfer hrecv hlen, hputs,
    Except.pure_eq_ok, turn_on_events, encodeEvents]
  cases c.sk.events.EPOLLOUT <;> cases c.pp2sk.events.EPOLLIN <;> rfl

/-- What the encoder does beyond the capacity check, whatever the positions of
    the client's send buffer are. -/
theorem ws_encode_frame_inv {c c' : Conn} {wsf : WsFrame} {rv : Int} (hrecv : c.pp2sk.recvbuf.Ok)
    (hbyte1 : wsf.byte1 = 0) (hlen : wsf.payload_len ≤ skb_rdsz c.pp2sk.recvbuf)
    (h : ws_encode_frame c wsf = .ok (rv, c')) :
    (rv = -1 ∧ c' = { c with wsd_errno := .WSD_EAGAIN } ∧ skb_wrsz c.sk.sendbuf < frameLen wsf.payload_len) ∨
      rv = 0 ∧ frameLen wsf.payload_len ≤ skb_wrsz c.sk.sendbuf ∧ ∃ sendbuf, c' = { c with
          sk := { c.sk with sendbuf, events := encodeEvents c.sk.events c.pp2sk.events }
          pp2sk := { c.pp2sk with recvbuf := skb_compact (skb_rd_forward c.pp2sk.recvbuf wsf.payload_len) } } ∧
        (c.sk.sendbuf.Ok → (wsFrame (c.pp2sk.recvbuf.readable.take wsf.payload_len)).length ≤ skb_wrsz c.sk.sendbuf →
          c.sk.sendbuf.Appended (wsFrame (c.pp2sk.recvbuf.readable.take wsf.payload_len)) sendbuf) := by
  have hsize := hrecv.rdsz_le
  by_cases hfull : skb_wrsz c.sk.sendbuf < frameLen wsf.payload_len
  · rw [ws_encode_frame_full (Nat.le_trans hlen hsize) hfull] at h
    cases h
    exact Or.inl ⟨rfl, rfl, hfull⟩
  right
  have htake : (c.pp2sk.recvbuf.readable.take wsf.payload_len).length = wsf.payload_len := by
    rw [List.length_take, hrecv.length_readable_eq]
    omega
  by_cases hfits : c.sk.sendbuf.Ok ∧
      (wsFrame (c.pp2sk.recvbuf.readable.take wsf.payload_len)).length ≤ skb_wrsz c.sk.sendbuf
  · obtain ⟨hsend, hroom⟩ := hfits
    have hheader : 1 + (payloadLenBytes wsf.payload_len).length ≤ skb_wrsz c.sk.sendbuf := by
      rw [length_wsFrame, htake] at hroom
      rw [length_payloadLenBytes]
      omega
    rw [ws_encode_frame_eq hsend hrecv hbyte1 hlen (by omega) hheader] at h
    cases h
    exact ⟨rfl, Nat.not_lt.mp hfull, _, rfl, fun _ _ => ⟨rfl, hroom⟩⟩
  · have hframe := ws_calculate_frame_length_eq (Nat.le_trans hlen hsize) c.wsd_errno
    change _ = (((frameLen wsf.payload_len : Nat) : Int), c.wsd_errno) at hframe
    have hsrc : c.pp2sk.recvbuf.rdpos + wsf.payload_len < 4294967296 := by
      have hrd := hrecv.rdpos_le
      have hwr := hrecv.wrpos_le
      rw [hrecv.rdsz_eq] at hlen
      unfold SKB_SIZE at hwr
      omega
    unfold ws_encode_frame at h
    simp only [hframe] at h
    generalize ws_set_payload_len (skb_put c.sk.sendbuf [set_opcode (set_fin_bit wsf.byte1) WS_TEXT_FRAME])
      wsf.payload_len 0 = set at h
    obtain ⟨rv', sendbuf⟩ := set
    obtain ⟨_, -, h⟩ := Except.bind_eq_ok_iff.mp h
    rw [if_neg (by omega)] at h
    obtain ⟨_, -, h⟩ := Except.bind_eq_ok_iff.mp h
    simp only [Skb.skb_transfer_snd _ _ hsrc, Except.pure_eq_ok, Except.ok.injEq, Prod.mk.injEq] at h
    obtain ⟨rfl, rfl⟩ := h
    refine ⟨rfl, Nat.not_lt.mp hfull, (skb_transfer wsf.payload_len sendbuf c.pp2sk.recvbuf).1, ?_,
      fun hsend hroom => absurd ⟨hsend, hroom⟩ hfits⟩
    simp only [turn_on_events, encodeEvents]
    cases c.sk.events.EPOLLOUT <;> cases c.pp2sk.events.EPOLLIN <;> rfl

end wsd
