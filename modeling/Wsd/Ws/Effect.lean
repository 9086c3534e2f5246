import Wsd.Ws.Decode

namespace wsd

/-- The opcodes which `dispatch_payload` does not know. -/
def IsUnknown (opcode : UInt8) : Prop :=
  ¬ IsData opcode ∧ opcode ≠ WS_CLOSE_FRAME ∧ opcode ≠ WS_PING_FRAME ∧ opcode ≠ WS_PONG_FRAME

instance (opcode : UInt8) : Decidable (IsUnknown opcode) :=
  inferInstanceAs (Decidable (_ ∧ _ ∧ _ ∧ _))

/-- The handlers of a socket which the handshake has upgraded. -/
structure Upgraded (sk : Sk) : Prop where
  encode_frame : sk.proto.encode_frame = some .ws_encode_frame
  decode_frame : sk.proto.decode_frame = some .ws_decode_frame
  ping : sk.proto.ping = some .ws_ping
  pong : sk.proto.pong = some .ws_pong
  start_closing_handshake : sk.proto.start_closing_handshake = some .ws_start_closing_handshake

/-- What one call of the decoder does, by what it finds at the read position. -/
inductive Decoded (c : Conn) : Int → Conn → Prop
  /-- The payload of a data frame is forwarded. -/
  | data (f : Frame) (key : UInt32) (rest : List UInt8) (recvbuf : Skb)
      (hread : c.sk.recvbuf.readable = f.masked key ++ rest) (hdata : IsData f.opcode)
      (hroom : f.payload.length + PP2_HEADER_LEN ≤ skb_wrsz c.pp2sk.sendbuf)
      (hok : recvbuf.Ok) (hrest : recvbuf.readable = rest) (hpos : recvbuf.rdpos = 0) :
      Decoded c 0 { c with
        sk := { c.sk with recvbuf }
        pp2sk := { c.pp2sk with sendbuf := skb_put c.pp2sk.sendbuf (pp2Frame c.sk f.payload) } }
  /-- The backend has no room for a data frame. -/
  | full (f : Frame) (key : UInt32) (rest : List UInt8) (recvbuf : Skb)
      (hread : c.sk.recvbuf.readable = f.masked key ++ rest) (hdata : IsData f.opcode)
      (hfull : skb_wrsz c.pp2sk.sendbuf < f.payload.length + PP2_HEADER_LEN)
      (hok : recvbuf.Ok) (hrest : recvbuf.readable = f.payload ++ rest) (hwr : recvbuf.wrpos = c.sk.recvbuf.wrpos) :
      Decoded c (-1) { c.setRecvbuf recvbuf with wsd_errno := .WSD_EAGAIN }
  /-- A close frame answers the one which was sent before. -/
  | closed (f : Frame) (key : UInt32) (rest : List UInt8) (recvbuf : Skb)
      (hread : c.sk.recvbuf.readable = f.masked key ++ rest) (hclose : f.opcode = WS_CLOSE_FRAME)
      (hclosing : c.sk.closing = true) :
      Decoded c 0 { c with sk := { c.sk with recvbuf := skb_reset recvbuf, closing := false, close := true } }
  /-- A close frame is answered. -/
  | reply (f : Frame) (key : UInt32) (rest : List UInt8) (recvbuf sendbuf : Skb) (status : Nat)
      (hread : c.sk.recvbuf.readable = f.masked key ++ rest) (hclose : f.opcode = WS_CLOSE_FRAME)
      (hclosing : c.sk.closing = false)
      (hsend : c.sk.sendbuf.Ok → c.sk.sendbuf.Appended (closeFrame status false) sendbuf) :
      Decoded c 0 { c with sk := { c.sk with
        recvbuf := skb_reset recvbuf, sendbuf, closing := true, close_on_write := true } }
  /-- There is no room for the answer to a close frame. -/
  | noReply (f : Frame) (key : UInt32) (rest : List UInt8) (recvbuf : Skb)
      (hread : c.sk.recvbuf.readable = f.masked key ++ rest) (hclose : f.opcode = WS_CLOSE_FRAME)
      (hclosing : c.sk.closing = false) :
      Decoded c (-1) { c with sk := { c.sk with recvbuf := skb_reset recvbuf }, wsd_errno := .WSD_ENOMEM }
  /-- A ping frame is answered. -/
  | ping (f : Frame) (key : UInt32) (rest : List UInt8) (recvbuf sendbuf : Skb)
      (hread : c.sk.recvbuf.readable = f.masked key ++ rest) (hping : f.opcode = WS_PING_FRAME)
      (hclosing : c.sk.closing = false)
      (hok : recvbuf.Ok) (hrest : recvbuf.readable = f.payload ++ rest) (hpos : recvbuf.rdpos = 0)
      (hsend : c.sk.sendbuf.Ok → c.sk.sendbuf.Appended (pingPongFrame WS_PONG_FRAME false) sendbuf) :
      Decoded c 0 { c with sk := { c.sk with recvbuf, sendbuf, events := c.sk.events.union EPOLLOUT } }
  /-- There is no room for the answer to a ping frame. -/
  | pingFull (f : Frame) (key : UInt32) (rest : List UInt8) (recvbuf : Skb)
      (hread : c.sk.recvbuf.readable = f.masked key ++ rest) (hping : f.opcode = WS_PING_FRAME)
      (hclosing : c.sk.closing = false) (hok : recvbuf.Ok) (hpos : recvbuf.rdpos = 0) :
      Decoded c (-1) { c.setRecvbuf recvbuf with wsd_errno := .WSD_ENOMEM }
  /-- A pong frame is ignored. -/
  | pong (f : Frame) (key : UInt32) (rest : List UInt8) (recvbuf : Skb)
      (hread : c.sk.recvbuf.readable = f.masked key ++ rest) (hpong : f.opcode = WS_PONG_FRAME)
      (hok : recvbuf.Ok) (hrest : recvbuf.readable = f.payload ++ rest) (hpos : recvbuf.rdpos = 0) :
      Decoded c 0 (c.setRecvbuf recvbuf)
  /-- A frame with an unknown opcode starts the closing handshake. -/
  | unknown (f : Frame) (key : UInt32) (rest : List UInt8) (recvbuf sendbuf : Skb)
      (hread : c.sk.recvbuf.readable = f.masked key ++ rest) (hunknown : IsUnknown f.opcode)
      (hclosing : c.sk.closing = false)
      (hok : recvbuf.Ok) (hrest : recvbuf.readable = f.payload ++ rest) (hwr : recvbuf.wrpos = c.sk.recvbuf.wrpos)
      (hsend : c.sk.sendbuf.Ok → c.sk.sendbuf.Appended (closeFrame WS_1011 false) sendbuf) :
      Decoded c 0 { c with sk := { c.sk with
        recvbuf, sendbuf, events := c.sk.events.union EPOLLOUT, closing := true } }
  /-- There is no room for the close frame which an unknown opcode asks for. -/
  | unknownFull (f : Frame) (key : UInt32) (rest : List UInt8) (recvbuf : Skb)
      (hread : c.sk.recvbuf.readable = f.masked key ++ rest) (hunknown : IsUnknown f.opcode)
      (hclosing : c.sk.closing = false) (hok : recvbuf.Ok) (hwr : recvbuf.wrpos = c.sk.recvbuf.wrpos) :
      Decoded c (-1) { c.setRecvbuf recvbuf with wsd_errno := .WSD_ENOMEM }
  | malformed (hbad : Malformed c.sk.recvbuf.readable) :
      Decoded c (-1) { c.setRecvbuf (skb_rd_forward c.sk.recvbuf 2) with wsd_errno := .WSD_EBADREQ }
  | keyCut (consumed : Nat) (hcut : KeyCut c.sk.recvbuf.readable consumed) :
      Decoded c (-1) { c.setRecvbuf (skb_rd_forward c.sk.recvbuf consumed) with wsd_errno := .WSD_EINPUT }
  /-- There is no complete frame. -/
  | input : Decoded c (-1) { c with wsd_errno := .WSD_EINPUT }

/-- The decoder writes buffers, interest sets and closing flags only. -/
theorem Decoded.core {c c' : Conn} {rv : Int} (h : Decoded c rv c') :
    c'.sk.core = c.sk.core ∧ c'.pp2sk.core = c.pp2sk.core := by
  cases h <;> exact ⟨rfl, rfl⟩

/-- The backend's receive buffer is not touched. -/
theorem Decoded.backend_recvbuf {c c' : Conn} {rv : Int} (h : Decoded c rv c') :
    c'.pp2sk.recvbuf = c.pp2sk.recvbuf := by
  cases h <;> rfl

/-- The control and unknown frames by opcode. -/
theorem dispatch_payload_inv {c c' : Conn} {f : Frame} {key : UInt32} {rest : List UInt8} {recvbuf : Skb}
    {wsf : WsFrame} {rv : Int} (hread : c.sk.recvbuf.readable = f.masked key ++ rest) (hdata : ¬ IsData f.opcode)
    (hopcode : OPCODE wsf.byte1 = f.opcode) (hok : recvbuf.Ok) (hrest : recvbuf.readable = f.payload ++ rest)
    (hwr : recvbuf.wrpos = c.sk.recvbuf.wrpos) (hup : Upgraded c.sk)
    (h : dispatch_payload (c.setRecvbuf recvbuf) wsf = .ok (rv, c')) : Decoded c rv c' := by
  unfold dispatch_payload at h
  simp only [hopcode, if_neg hdata] at h
  by_cases hclose : f.opcode = WS_CLOSE_FRAME
  · simp only [if_pos hclose] at h
    obtain ⟨⟨rv', sk', e⟩, hfinish, hret⟩ := Except.bind_eq_ok_iff.mp h
    simp only [Except.pure_eq_ok, Except.ok.injEq, Prod.mk.injEq] at hret
    obtain ⟨rfl, rfl⟩ := hret
    obtain ⟨recvbuf', ⟨rfl, rfl, hclosing, rfl⟩ | ⟨rfl, rfl, hclosing, status, sendbuf, hsend, rfl⟩ |
      ⟨rfl, rfl, hclosing, rfl⟩⟩ := ws_finish_closing_handshake_inv hfinish
    · exact .closed f key rest recvbuf' hread hclose hclosing
    · exact .reply f key rest recvbuf' sendbuf status hread hclose hclosing hsend
    · exact .noReply f key rest recvbuf' hread hclose hclosing
  simp only [if_neg hclose] at h
  by_cases hping : f.opcode = WS_PING_FRAME
  · simp only [if_pos hping] at h
    obtain ⟨⟨rv', sk', e⟩, hpong, hret⟩ := Except.bind_eq_ok_iff.mp h
    simp only [Except.pure_eq_ok, Except.ok.injEq, Prod.mk.injEq] at hret
    obtain ⟨rfl, rfl⟩ := hret
    have hproto : ((c.setRecvbuf recvbuf).setRecvbuf (skb_compact (c.setRecvbuf recvbuf).sk.recvbuf)).sk.proto.pong =
      some .ws_pong := hup.pong
    rw [hproto] at hpong
    obtain ⟨hclosing, ⟨rfl, rfl, sendbuf, rfl, hsend⟩ | ⟨rfl, rfl, rfl⟩⟩ := put_ping_pong_inv hpong
    · exact .ping f key rest (skb_compact recvbuf) sendbuf hread hping hclosing hok.compact
        (hok.readable_compact.trans hrest) rfl hsend
    · exact .pingFull f key rest (skb_compact recvbuf) hread hping hclosing hok.compact rfl
  simp only [if_neg hping] at h
  by_cases hpong : f.opcode = WS_PONG_FRAME
  · simp only [if_pos hpong, Except.pure_eq_ok, Except.ok.injEq, Prod.mk.injEq] at h
    obtain ⟨rfl, rfl⟩ := h
    exact .pong f key rest (skb_compact recvbuf) hread hpong hok.compact (hok.readable_compact.trans hrest) rfl
  simp only [if_neg hpong] at h
  obtain ⟨⟨rv', sk', e⟩, hstart, hret⟩ := Except.bind_eq_ok_iff.mp h
  simp only [Except.pure_eq_ok, Except.ok.injEq, Prod.mk.injEq] at hret
  obtain ⟨rfl, rfl⟩ := hret
  have hproto : (c.setRecvbuf recvbuf).sk.proto.start_closing_handshake = some .ws_start_closing_handshake :=
    hup.start_closing_handshake
  rw [hproto] at hstart
  obtain ⟨hclosing, ⟨rfl, rfl, sendbuf, rfl, hsend⟩ | ⟨rfl, rfl, rfl⟩⟩ := ws_start_closing_handshake_inv hstart
  · exact .unknown f key rest recvbuf sendbuf hread ⟨hdata, hclose, hping, hpong⟩ hclosing hok hrest hwr hsend
  · exact .unknownFull f key rest recvbuf hread ⟨hdata, hclose, hping, hpong⟩ hclosing hok hwr

/-- What a call of the decoder which returns has done. -/
theorem ws_decode_frame_inv {c c' : Conn} {rv : Int} (hok : c.sk.recvbuf.Ok) (hsend : c.pp2sk.sendbuf.Ok)
    (hencode : c.pp2sk.proto.encode_frame = some .pp2_encode_frame) (hup : Upgraded c.sk)
    (h : ws_decode_frame c = .ok (rv, c')) : Decoded c rv c' := by
  obtain ⟨f, key, rest, hread⟩ | hbad | ⟨consumed, hcut⟩ | ⟨-, hinput⟩ := ws_decode_frame_cases hok
  · by_cases hdata : IsData f.opcode
    · by_cases hfull : skb_wrsz c.pp2sk.sendbuf < f.payload.length + PP2_HEADER_LEN
      · obtain ⟨recvbuf, hdone, hok', hread', hwr, -⟩ :=
          ws_decode_frame_data_full hok hsend hencode hdata hread hfull
        rw [hdone] at h
        cases h
        exact .full f key rest recvbuf hread hdata hfull hok' hread' hwr
      · obtain ⟨recvbuf, hdone, hok', hread', hpos⟩ :=
          ws_decode_frame_data hok hsend hencode hdata hread (by omega)
        rw [hdone] at h
        cases h
        exact .data f key rest recvbuf hread hdata (by omega) hok' hread' hpos
    · obtain ⟨recvbuf, wsf, hdispatch, hok', hread', -, hwr, hbyte1, -⟩ := ws_decode_frame_masked hok f key hread
      rw [hdispatch] at h
      exact dispatch_payload_inv hread hdata (hbyte1 ▸ rfl) hok' hread' hwr hup h
  · rw [ws_decode_frame_malformed hok hbad] at h
    cases h
    exact .malformed hbad
  · rw [ws_decode_frame_keyCut hok hcut] at h
    cases h
    exact .keyCut consumed hcut
  · rw [hinput] at h
    cases h
    exact .input

end wsd
