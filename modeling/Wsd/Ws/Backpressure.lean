import Wsd.Common.Sk
import Wsd.Ws.Decode

namespace wsd

/-- A retry once the backend's socket has room: the frame at the old read
    position yields the PP2 frame which it would have yielded at once. -/
def WsRetry (c c' : Conn) : Prop :=
  ∀ (pp2sk : Sk) (f : Frame) (key : UInt32) (rest : List UInt8), c.sk.recvbuf.readable = f.masked key ++ rest →
    IsData f.opcode → pp2sk.proto.encode_frame = some .pp2_encode_frame → pp2sk.sendbuf.Ok →
    f.payload.length + PP2_HEADER_LEN ≤ skb_wrsz pp2sk.sendbuf →
      ∃ c'', ws_decode_frame { c' with pp2sk } = .ok (0, c'') ∧
        c''.pp2sk.sendbuf.readable = pp2sk.sendbuf.readable ++ pp2Frame c.sk f.payload ∧
        c''.sk.recvbuf.readable = rest

/-- A call which fails for want of room in the backend's send buffer leaves the
    client's receive buffer and the backend's send buffer as they were, and can
    be retried. -/
def WsAtomic (c : Conn) : Prop :=
  ∀ c', ws_decode_frame c = .ok (-1, c') → c'.wsd_errno = .WSD_EAGAIN →
    c'.sk.recvbuf = c.sk.recvbuf ∧ c'.pp2sk.sendbuf = c.pp2sk.sendbuf ∧ WsRetry c c'

/-- A complete data frame for which the backend's send buffer has no room. -/
def BackendFull (c : Conn) : Prop :=
  ∃ (f : Frame) (key : UInt32) (rest : List UInt8), c.sk.recvbuf.readable = f.masked key ++ rest ∧
    IsData f.opcode ∧ skb_wrsz c.pp2sk.sendbuf < f.payload.length + PP2_HEADER_LEN

/-- The decoder reports that it has to try again only when the backend is full. -/
theorem backendFull_of_eagain {c c' : Conn} (hok : c.sk.recvbuf.Ok) (hsend : c.pp2sk.sendbuf.Ok)
    (hencode : c.pp2sk.proto.encode_frame = some .pp2_encode_frame)
    (hdecode : ws_decode_frame c = .ok (-1, c')) (herrno : c'.wsd_errno = .WSD_EAGAIN) : BackendFull c := by
  obtain ⟨f, key, rest, hread⟩ | hbad | ⟨consumed, hcut⟩ | ⟨-, hinput⟩ := ws_decode_frame_cases hok
  · by_cases hdata : IsData f.opcode
    · by_cases hfull : skb_wrsz c.pp2sk.sendbuf < f.payload.length + PP2_HEADER_LEN
      · exact ⟨f, key, rest, hread, hdata, hfull⟩
      · obtain ⟨recvbuf, hdone, -⟩ := ws_decode_frame_data hok hsend hencode hdata hread (by omega)
        rw [hdone] at hdecode
        cases hdecode
    · obtain ⟨recvbuf, wsf, hdispatch, -, -, -, -, hbyte1, -⟩ := ws_decode_frame_masked hok f key hread
      rw [hdispatch] at hdecode
      have hcontrol := (dispatch_payload_control (by rw [hbyte1]; exact hdata) hdecode).1
      rw [herrno] at hcontrol
      obtain hzero | ⟨-, hnomem⟩ := hcontrol
      · cases hzero
      · cases hnomem
  · rw [ws_decode_frame_malformed hok hbad] at hdecode
    cases hdecode
    cases herrno
  · rw [ws_decode_frame_keyCut hok hcut] at hdecode
    cases hdecode
    cases herrno
  · rw [hinput] at hdecode
    cases hdecode
    cases herrno

theorem not_wsAtomic_of_full {c : Conn} (hok : c.sk.recvbuf.Ok) (hsend : c.pp2sk.sendbuf.Ok)
    (hencode : c.pp2sk.proto.encode_frame = some .pp2_encode_frame) (h : BackendFull c) : ¬ WsAtomic c := by
  intro hatomic
  obtain ⟨f, key, rest, hread, hdata, hfull⟩ := h
  obtain ⟨recvbuf, hdecode, -, -, -, hpos⟩ := ws_decode_frame_data_full hok hsend hencode hdata hread hfull
  have hkeep := (hatomic _ hdecode rfl).1
  have hrdpos := congrArg Skb.rdpos hkeep
  simp only [Conn.setRecvbuf] at hrdpos
  omega

/-- Backpressure towards the backend loses nothing exactly if the bytes at the
    read position are no complete data frame which finds the backend full. -/
theorem ws_decode_frame_atomic_iff {c : Conn} (hok : c.sk.recvbuf.Ok) (hsend : c.pp2sk.sendbuf.Ok)
    (hencode : c.pp2sk.proto.encode_frame = some .pp2_encode_frame) : WsAtomic c ↔ ¬ BackendFull c := by
  constructor
  · intro hatomic hfull
    exact not_wsAtomic_of_full hok hsend hencode hfull hatomic
  · intro hfull c' hdecode herrno
    exact absurd (backendFull_of_eagain hok hsend hencode hdecode herrno) hfull

/-- A masked text frame of two bytes. -/
def textFrame : Frame where
  byte1 := 0x81
  form := .len7
  payload := [104, 105]
  rsv := rsvClear_text
  fits := by decide

/-- A client with a text frame to forward, and the backend's socket with the
    given send buffer. -/
def textConn (sendbuf : Skb) : Conn where
  sk := { sk_init 7 0 with recvbuf := Skb.ofBytes (textFrame.masked 0) }
  pp2sk := { sk_init 8 0 with proto := { encode_frame := some .pp2_encode_frame }, sendbuf }
  wsd_errno := .WSD_CHECKERRNO

theorem textConn_ok (sendbuf : Skb) : (textConn sendbuf).sk.recvbuf.Ok ∧
    (textConn sendbuf).sk.recvbuf.readable = textFrame.masked 0 ++ [] := by
  refine ⟨Skb.ok_ofBytes (by decide), ?_⟩
  rw [List.append_nil]
  exact Skb.readable_ofBytes (by decide)

/-- With 47 bytes of room for a frame of 48 the header of the text frame is lost. -/
theorem ws_decode_frame_full_backend :
    ¬ ∀ c : Conn, c.sk.recvbuf.Ok → c.pp2sk.sendbuf.Ok →
      c.pp2sk.proto.encode_frame = some .pp2_encode_frame → WsAtomic c := by
  intro hall
  obtain ⟨hok, hread⟩ := textConn_ok { Skb.zero with wrpos := 1048529 }
  have hsend : Skb.Ok { Skb.zero with wrpos := 1048529 } := ⟨by decide, by decide⟩
  exact not_wsAtomic_of_full hok hsend rfl ⟨textFrame, 0, [], hread, by decide, by decide⟩ (hall _ hok hsend rfl)

/-- An empty send buffer is not full. -/
theorem ws_decode_frame_atomic_sample : WsAtomic (textConn Skb.zero) := by
  obtain ⟨hok, hread⟩ := textConn_ok Skb.zero
  apply (ws_decode_frame_atomic_iff hok Skb.ok_zero rfl).mpr
  rintro ⟨f, key, rest, hread', -, hfull⟩
  obtain ⟨rfl, -, -⟩ := Frame.masked_inj (hread.symm.trans hread')
  exact absurd hfull (by decide)

end wsd
