import Wsd.Ws.Encode

namespace wsd

def PP2_TYPE_CONNHASH : UInt8 := 0xE0
def PP2_TYPE_PAYLOADLEN : UInt8 := 0xE1

def PP2_SIG_VER_CMD_FAM_LEN : Nat := 14
def PP2_ADDR_LEN : Nat := 12
def PP2_ADDR_TLVS_LEN : Nat := 18 + PP2_ADDR_LEN
def PP2_HEADER_LEN : Nat := 2 + PP2_ADDR_TLVS_LEN + PP2_SIG_VER_CMD_FAM_LEN

def pp2_sig : List UInt8 :=
  [0x0d, 0x0a, 0x0d, 0x0a, 0x00, 0x0d, 0x0a, 0x51, 0x55, 0x49, 0x54, 0x0a]

/-- Signature, version and command, and address family. -/
def pp2_sig_ver_cmd_fam : List UInt8 :=
  pp2_sig ++ [0x21, 0x11]

/-- The tag-length-value record of the connection's hash, in host order. -/
def pp2_put_connhash (dst : Skb) (hash : UInt64) : Skb :=
  skb_put dst ([PP2_TYPE_CONNHASH, 0, 8] ++ Bytes.le 8 hash.toNat)

/-- The tag-length-value record of the payload length, which is an `unsigned int`. -/
def pp2_put_payloadlen (dst : Skb) (len : Nat) : Skb :=
  skb_put dst ([PP2_TYPE_PAYLOADLEN, 0, 4] ++ Bytes.le 4 len)

def pp2_encode_header (buf : Skb) (src dst : SockaddrIn) (hash : UInt64) (payload_len : Nat) : Skb :=
  let buf := skb_put buf pp2_sig_ver_cmd_fam
  let buf := skb_put buf (Bytes.be 2 PP2_ADDR_TLVS_LEN)
  let buf := skb_put buf (Bytes.le 4 src.sin_addr.toNat)
  let buf := skb_put buf (Bytes.le 4 dst.sin_addr.toNat)
  let buf := skb_put buf (Bytes.le 2 src.sin_port.toNat)
  let buf := skb_put buf (Bytes.le 2 dst.sin_port.toNat)
  let buf := pp2_put_connhash buf hash
  pp2_put_payloadlen buf payload_len

/-- Appends a client payload, taken from the read position of the client's
    receive buffer, to the send buffer of `pp2sk`. -/
def pp2_encode_frame (c : Conn) (wsf : WsFrame) : Except Fault (Int × Conn) := do
  if (wsf.payload_len + PP2_HEADER_LEN) % 18446744073709551616 > skb_wrsz c.pp2sk.sendbuf then
    return (-1, { c with wsd_errno := .WSD_EAGAIN })
  else
    let sendbuf := pp2_encode_header c.pp2sk.sendbuf c.sk.src_addr c.sk.dst_addr c.sk.hash wsf.payload_len
    let (sendbuf, recvbuf) := skb_transfer (u32 wsf.payload_len) sendbuf c.sk.recvbuf
    return (0, { c with
      sk := { c.sk with recvbuf := skb_compact recvbuf }
      pp2sk := { c.pp2sk with sendbuf } })

/-- The indirect call through a protocol's `encode_frame`. -/
def encode_frame : Option EncodeFrame → Conn → WsFrame → Except Fault (Int × Conn)
  | none, _, _ => .error .null_function
  | some .ws_encode_frame, c, wsf => ws_encode_frame c wsf
  | some .pp2_encode_frame, c, wsf => pp2_encode_frame c wsf

/-- The header of a PP2 frame: a client's addresses and hash, and a payload length. -/
def pp2Header (src dst : SockaddrIn) (hash : UInt64) (payload_len : Nat) : List UInt8 :=
  pp2_sig_ver_cmd_fam ++ Bytes.be 2 PP2_ADDR_TLVS_LEN ++ Bytes.le 4 src.sin_addr.toNat ++
    Bytes.le 4 dst.sin_addr.toNat ++ Bytes.le 2 src.sin_port.toNat ++ Bytes.le 2 dst.sin_port.toNat ++
    ([PP2_TYPE_CONNHASH, 0, 8] ++ Bytes.le 8 hash.toNat) ++
    ([PP2_TYPE_PAYLOADLEN, 0, 4] ++ Bytes.le 4 payload_len)

/-- The frame which carries a payload of the given client to the backend. -/
def pp2Frame (sk : Sk) (payload : List UInt8) : List UInt8 :=
  pp2Header sk.src_addr sk.dst_addr sk.hash payload.length ++ payload

@[simp] theorem length_pp2Header (src dst : SockaddrIn) (hash : UInt64) (payload_len : Nat) :
    (pp2Header src dst hash payload_len).length = PP2_HEADER_LEN := by
  simp [pp2Header, pp2_sig_ver_cmd_fam, pp2_sig, PP2_HEADER_LEN, PP2_ADDR_TLVS_LEN, PP2_ADDR_LEN,
    PP2_SIG_VER_CMD_FAM_LEN]

@[simp] theorem length_pp2Frame (sk : Sk) (payload : List UInt8) :
    (pp2Frame sk payload).length = PP2_HEADER_LEN + payload.length := by
  simp [pp2Frame]

/-- With room for it, the header is put as a whole: the summed lengths of its
    fields agree with the constant which the capacity check uses. -/
theorem pp2_encode_header_eq {buf : Skb} (src dst : SockaddrIn) (hash : UInt64) (payload_len : Nat)
    (hok : buf.Ok) (hroom : PP2_HEADER_LEN ≤ skb_wrsz buf) :
    pp2_encode_header buf src dst hash payload_len = skb_put buf (pp2Header src dst hash payload_len) := by
  have hlen : PP2_HEADER_LEN = 46 := rfl
  have hsig : pp2_sig_ver_cmd_fam.length = 14 := rfl
  unfold pp2_encode_header pp2_put_connhash pp2_put_payloadlen pp2Header
  simp only
  repeat' rw [hok.put_put (by simp only [List.length_append, Bytes.length_le, Bytes.length_be, hsig,
    List.length_cons, List.length_nil]; omega)]

/-- The payload of a frame moves behind its header in the backend's buffer, if
    there is room for both; the client's buffer is compacted behind it. -/
theorem pp2_encode_frame_eq {c : Conn} {wsf : WsFrame} (hsend : c.pp2sk.sendbuf.Ok) (hrecv : c.sk.recvbuf.Ok)
    (hlen : wsf.payload_len ≤ skb_rdsz c.sk.recvbuf) :
    pp2_encode_frame c wsf =
      if skb_wrsz c.pp2sk.sendbuf < wsf.payload_len + PP2_HEADER_LEN then
        .ok (-1, { c with wsd_errno := .WSD_EAGAIN })
      else
        .ok (0, { c with
          sk := { c.sk with recvbuf := skb_compact (skb_get c.sk.recvbuf wsf.payload_len).2 }
          pp2sk := { c.pp2sk with
            sendbuf := skb_put c.pp2sk.sendbuf
              (pp2Frame c.sk (c.sk.recvbuf.readable.take wsf.payload_len)) } }) := by
  have hsize := hrecv.rdsz_le
  have hheader : PP2_HEADER_LEN = 46 := rfl
  unfold SKB_SIZE at hsize
  have hlong : (wsf.payload_len + PP2_HEADER_LEN) % 18446744073709551616 =
      wsf.payload_len + PP2_HEADER_LEN := Nat.mod_eq_of_lt (by omega)
  have hint : u32 wsf.payload_len = wsf.payload_len := u32_of_lt (by omega)
  have htake : (c.sk.recvbuf.readable.take wsf.payload_len).length = wsf.payload_len := by
    rw [List.length_take, hrecv.length_readable_eq]
    omega
  unfold pp2_encode_frame
  rw [hlong, hint]
  by_cases hroom : skb_wrsz c.pp2sk.sendbuf < wsf.payload_len + PP2_HEADER_LEN
  · rw [if_pos hroom, if_pos hroom]
    rfl
  · rw [if_neg hroom, if_neg hroom, pp2_encode_header_eq _ _ _ _ hsend (by omega)]
    have hput : (pp2Header c.sk.src_addr c.sk.dst_addr c.sk.hash wsf.payload_len).length ≤
        skb_wrsz c.pp2sk.sendbuf := by
      rw [length_pp2Header]
      omega
    simp only [(hsend.put hput).transfer hrecv hlen, hsend.put_put hput, pp2Frame, htake,
      Except.pure_eq_ok]

section Errno

variable {c c' : Conn} {wsf : WsFrame} {rv : Int}

theorem ws_encode_frame_errno (h : ws_encode_frame c wsf = .ok (rv, c')) :
    rv = 0 ∨ rv = -1 ∧ c'.wsd_errno = .WSD_EAGAIN := by
  unfold ws_encode_frame at h
  generalize ws_calculate_frame_length wsf.payload_len c.wsd_errno = frame at h
  obtain ⟨frame_len, e⟩ := frame
  obtain ⟨_, -, h⟩ := Except.bind_eq_ok_iff.mp h
  by_cases hfull : skb_wrsz c.sk.sendbuf < frame_len
  · simp only [if_pos hfull] at h
    cases h
    exact .inr ⟨rfl, rfl⟩
  · simp only [if_neg hfull] at h
    obtain ⟨_, -, h⟩ := Except.bind_eq_ok_iff.mp h
    cases h
    exact .inl rfl

theorem pp2_encode_frame_errno (h : pp2_encode_frame c wsf = .ok (rv, c')) :
    rv = 0 ∨ rv = -1 ∧ c'.wsd_errno = .WSD_EAGAIN := by
  unfold pp2_encode_frame at h
  split at h
  · cases h
    exact .inr ⟨rfl, rfl⟩
  · cases h
    exact .inl rfl

/-- A frame is only refused for want of room. -/
theorem encode_frame_errno {handler : Option EncodeFrame} (h : encode_frame handler c wsf = .ok (rv, c')) :
    rv = 0 ∨ rv = -1 ∧ c'.wsd_errno = .WSD_EAGAIN := by
  cases handler with
  | none => cases h
  | some handler =>
    cases handler with
    | ws_encode_frame => exact ws_encode_frame_errno h
    | pp2_encode_frame => exact pp2_encode_frame_errno h

end Errno

end wsd
