import Wsd.Common.Sk
import Wsd.Pp2.Decode

namespace wsd

/-- What the encoder appends is what the decoder calls accepted, if the hash is
    not negative as a signed number. -/
theorem pp2Frame_accepted {sk : Sk} {payload rest : List UInt8} (hhash : sk.hash.toNat < 9223372036854775808)
    (hlen : payload.length < 2147483648) :
    Pp2Accepted (pp2Frame sk payload ++ rest) sk.hash payload.length (payload ++ rest) where
  hash_lt := hhash
  len_lt := hlen
  bytes := by
    rw [pp2Frame, pp2Header_eq, List.append_assoc]
    exact ⟨_, _, by simp, by simp [PP2_ADDR_LEN], rfl⟩

/-- The other half of the hashes is taken for the error value. -/
theorem pp2Frame_not_accepted {sk : Sk} {payload rest : List UInt8}
    (hhash : ¬ sk.hash.toNat < 9223372036854775808) (hlen : payload.length < 2147483648) :
    ¬ ∃ hash len rest', Pp2Accepted (pp2Frame sk payload ++ rest) hash len rest' := by
  rintro ⟨hash, len, rest', haccepted⟩
  obtain ⟨field, addrs, hfield, haddrs, hbytes⟩ := haccepted.bytes
  have hlen' := haccepted.len_lt
  rw [pp2Frame, pp2Header_eq, List.append_assoc] at hbytes
  have hinj := pp2HeaderBytes_inj (by simp [hfield]) (by simp [haddrs, PP2_ADDR_LEN]) sk.hash.toNat_lt hash.toNat_lt
    (by omega) (by omega) hbytes
  rw [hinj.1] at hhash
  exact hhash haccepted.hash_lt

section Read

variable {sk : Sk} {payload rest : List UInt8} {m : Mux}

/-- A payload which has been read as a whole is short. -/
theorem pp2Frame_length_lt (hok : m.pp2sk.recvbuf.Ok) (hread : m.pp2sk.recvbuf.readable = pp2Frame sk payload ++ rest) :
    payload.length < 2147483648 := by
  have hsize := hok.rdsz_le
  have hlen := hok.length_readable_eq
  rw [hread, List.length_append, length_pp2Frame] at hlen
  unfold SKB_SIZE at hsize
  omega

theorem pp2Frame_read_accepted (hhash : sk.hash.toNat < 9223372036854775808) (hok : m.pp2sk.recvbuf.Ok)
    (hread : m.pp2sk.recvbuf.readable = pp2Frame sk payload ++ rest) :
    Pp2Accepted m.pp2sk.recvbuf.readable sk.hash payload.length (payload ++ rest) := by
  have hlen := pp2Frame_length_lt hok hread
  rw [hread]
  exact pp2Frame_accepted hhash hlen

/-- A frame of the encoder, at the read position of the backend's receive
    buffer, is delivered to its client. -/
theorem pp2Frame_delivers {id : Nat} {cln_sk : Sk} (hne : payload ≠ []) (hok : m.pp2sk.recvbuf.Ok)
    (hread : m.pp2sk.recvbuf.readable = pp2Frame sk payload ++ rest)
    (hlookup : hash_lookup m.clients m.sk_hash sk.hash = .ok (some (id, cln_sk)))
    (hencode : cln_sk.proto.encode_frame = some .ws_encode_frame) (hsend : cln_sk.sendbuf.Ok)
    (hroom : (wsFrame payload).length ≤ skb_wrsz cln_sk.sendbuf) :
    Delivers m id cln_sk payload rest := by
  have haccepted := pp2Frame_read_accepted (hash_lt_of_near (hash_lookup_near hlookup)) hok hread
  have hdelivers := haccepted.delivers hok (by simp [hne]) (by simp) hlookup hencode hsend
  rw [List.take_left, List.drop_left] at hdelivers
  exact hdelivers hroom

/-- The lookup of a frame whose bucket lies behind the table reads there, unless the hash
    has its highest bit set. -/
theorem pp2Frame_far (hhash : sk.hash.toNat < 9223372036854775808) (hfar : ¬ hash_min sk.hash < HASH_SIZE)
    (hne : payload ≠ []) (hok : m.pp2sk.recvbuf.Ok)
    (hread : m.pp2sk.recvbuf.readable = pp2Frame sk payload ++ rest) :
    pp2_decode_frame m = .error .out_of_bounds :=
  pp2_decode_frame_far hok (pp2Frame_read_accepted hhash hok hread) (by simp [hne]) (by simp) hfar

/-- A frame whose hash has its highest bit set is rejected. -/
theorem pp2Frame_rejected (hhash : ¬ sk.hash.toNat < 9223372036854775808) (hne : payload ≠ [])
    (hok : m.pp2sk.recvbuf.Ok) (hread : m.pp2sk.recvbuf.readable = pp2Frame sk payload ++ rest) :
    pp2_decode_frame m = .ok (-1, { m with wsd_errno := .WSD_ENUM }) := by
  have hpos := List.length_pos_iff.mpr hne
  have hshort := pp2Frame_length_lt hok hread
  have hlen := hok.length_readable_eq
  rw [hread, List.length_append, length_pp2Frame] at hlen
  refine pp2_decode_frame_rejected hok (by omega) ?_
  rw [hread]
  exact pp2Frame_not_accepted hhash hshort

end Read

/-- The bytes which the encoder appends are the frame of the payload. -/
theorem pp2_encode_frame_append {c c' : Conn} {wsf : WsFrame} {bytes : List UInt8} (hsend : c.pp2sk.sendbuf.Ok)
    (hrecv : c.sk.recvbuf.Ok) (hlen : wsf.payload_len ≤ skb_rdsz c.sk.recvbuf)
    (hencode : pp2_encode_frame c wsf = .ok (0, c'))
    (happend : c'.pp2sk.sendbuf.readable = c.pp2sk.sendbuf.readable ++ bytes) :
    bytes = pp2Frame c.sk (c.sk.recvbuf.readable.take wsf.payload_len) := by
  have htake : (c.sk.recvbuf.readable.take wsf.payload_len).length = wsf.payload_len := by
    rw [List.length_take, hrecv.length_readable_eq]
    omega
  rw [pp2_encode_frame_eq hsend hrecv hlen] at hencode
  by_cases hroom : skb_wrsz c.pp2sk.sendbuf < wsf.payload_len + PP2_HEADER_LEN
  · rw [if_pos hroom] at hencode
    simp at hencode
  · rw [if_neg hroom] at hencode
    simp only [Except.ok.injEq, Prod.mk.injEq, true_and] at hencode
    rw [← hencode] at happend
    simp only at happend
    rw [hsend.readable_put (by rw [length_pp2Frame, htake]; omega)] at happend
    exact (List.append_cancel_left happend).symm

/-- A call of the encoder whose bytes stand at the read position of the
    backend's receive buffer, and a client which the walk along the chain of the
    encoded hash finds, upgraded and with room for the frame. -/
structure RoundTrip (c c' : Conn) (wsf : WsFrame) (bytes rest : List UInt8) (m : Mux) (id : Nat)
    (cln_sk : Sk) : Prop where
  sendbuf_ok : c.pp2sk.sendbuf.Ok
  recvbuf_ok : c.sk.recvbuf.Ok
  len_le : wsf.payload_len ≤ skb_rdsz c.sk.recvbuf
  len_pos : 0 < wsf.payload_len
  encode : pp2_encode_frame c wsf = .ok (0, c')
  append : c'.pp2sk.sendbuf.readable = c.pp2sk.sendbuf.readable ++ bytes
  pp2_recvbuf_ok : m.pp2sk.recvbuf.Ok
  read : m.pp2sk.recvbuf.readable = bytes ++ rest
  lookup : hash_for_each_possible m.clients c.sk.hash (m.sk_hash (hash_min c.sk.hash)) = .ok (some (id, cln_sk))
  upgraded : cln_sk.proto.encode_frame = some .ws_encode_frame
  cln_sendbuf_ok : cln_sk.sendbuf.Ok
  room : (wsFrame (c.sk.recvbuf.readable.take wsf.payload_len)).length ≤ skb_wrsz cln_sk.sendbuf

theorem RoundTrip.payload_ne_nil {c c' : Conn} {wsf : WsFrame} {bytes rest : List UInt8} {m : Mux} {id : Nat}
    {cln_sk : Sk} (h : RoundTrip c c' wsf bytes rest m id cln_sk) :
    c.sk.recvbuf.readable.take wsf.payload_len ≠ [] := by
  have hlen := h.len_le
  have hpos := h.len_pos
  rw [← List.length_pos_iff, List.length_take, h.recvbuf_ok.length_readable_eq]
  omega

/-- Decoding undoes encoding exactly for the hashes whose bucket is one of the table's: the
    signed hash takes away those with the highest bit set, the index behind the table the others. -/
theorem pp2_decode_frame_pp2_encode_frame {c c' : Conn} {wsf : WsFrame} {bytes rest : List UInt8} {m : Mux}
    {id : Nat} {cln_sk : Sk} (h : RoundTrip c c' wsf bytes rest m id cln_sk) :
    (Delivers m id cln_sk (c.sk.recvbuf.readable.take wsf.payload_len) rest ↔
        hash_min c.sk.hash < HASH_SIZE) ∧
      (Delivers m id cln_sk (c.sk.recvbuf.readable.take wsf.payload_len) rest ∨
          pp2_decode_frame m = .error .out_of_bounds ↔
        c.sk.hash.toNat < 9223372036854775808) := by
  have hne := h.payload_ne_nil
  have hok := h.pp2_recvbuf_ok
  have hread := h.read
  rw [pp2_encode_frame_append h.sendbuf_ok h.recvbuf_ok h.len_le h.encode h.append] at hread
  by_cases hhash : c.sk.hash.toNat < 9223372036854775808
  · by_cases hnear : hash_min c.sk.hash < HASH_SIZE
    · have hdelivers : Delivers m id cln_sk (c.sk.recvbuf.readable.take wsf.payload_len) rest :=
        pp2Frame_delivers hne hok hread ((hash_lookup_of_near hnear).trans h.lookup) h.upgraded h.cln_sendbuf_ok h.room
      exact ⟨iff_of_true hdelivers hnear, iff_of_true (.inl hdelivers) hhash⟩
    · have hfar := pp2Frame_far hhash hnear hne hok hread
      refine ⟨iff_of_false (fun hdelivers => ?_) hnear, iff_of_true (.inr hfar) hhash⟩
      obtain ⟨m', hdecode⟩ := hdelivers.returns
      rw [hfar] at hdecode
      cases hdecode
  · have hreject := pp2Frame_rejected hhash hne hok hread
    have hnot : ¬ Delivers m id cln_sk (c.sk.recvbuf.readable.take wsf.payload_len) rest := fun hdelivers => by
      obtain ⟨m', hdecode⟩ := hdelivers.returns
      rw [hreject] at hdecode
      simp at hdecode
    refine ⟨iff_of_false hnot fun hnear => hhash (hash_lt_of_near hnear), iff_of_false ?_ hhash⟩
    rintro (hdelivers | hfault)
    · exact hnot hdelivers
    · rw [hreject] at hfault
      cases hfault

/-- A client with two bytes of payload to send, and the backend's socket. -/
def roundTripConn (hash : UInt64) : Conn where
  sk := { sk_init 7 hash with recvbuf := Skb.ofBytes [104, 105] }
  pp2sk := sk_init 8 0
  wsd_errno := .WSD_CHECKERRNO

/-- The same client, upgraded, with its own frame in the backend's receive buffer. -/
def roundTripMux (hash : UInt64) : Mux where
  clients := fun id => if id = 0 then
    some { sk_init 7 hash with proto := { encode_frame := some .ws_encode_frame } } else none
  sk_hash := fun _ => [0]
  pp2sk := { sk_init 8 0 with recvbuf := Skb.ofBytes (pp2Frame (sk_init 7 hash) [104, 105]) }
  wsd_errno := .WSD_CHECKERRNO

theorem roundTrip_sample (hash : UInt64) :
    ∃ c', RoundTrip (roundTripConn hash) c' { payload_len := 2 } (pp2Frame (sk_init 7 hash) [104, 105]) []
      (roundTripMux hash) 0 { sk_init 7 hash with proto := { encode_frame := some .ws_encode_frame } } := by
  have hrecv : (Skb.ofBytes [104, 105]).Ok := Skb.ok_ofBytes (by decide)
  have hread : (Skb.ofBytes [104, 105]).readable = [104, 105] := Skb.readable_ofBytes (by decide)
  have hframe : (pp2Frame (sk_init 7 hash) [104, 105]).length ≤ SKB_SIZE := by
    rw [length_pp2Frame]
    decide
  have hlen : 2 ≤ skb_rdsz (Skb.ofBytes [104, 105]) := by
    rw [Skb.rdsz_ofBytes (by decide)]
    decide
  have hroom : ¬ skb_wrsz Skb.zero < 2 + PP2_HEADER_LEN := by decide
  have hencode := (@pp2_encode_frame_eq (roundTripConn hash) { payload_len := 2 }
    Skb.ok_zero hrecv hlen).trans (if_neg hroom)
  have htake : (roundTripConn hash).sk.recvbuf.readable.take 2 = [104, 105] := by
    change (Skb.ofBytes [104, 105]).readable.take 2 = _
    rw [hread]
    rfl
  refine ⟨_, Skb.ok_zero, hrecv, hlen, by decide, hencode, ?_,
    Skb.ok_ofBytes hframe, ?_, ?_, rfl, Skb.ok_zero, ?_⟩
  · rw [htake]
    exact Skb.ok_zero.readable_put (by rw [Skb.wrsz_zero]; exact hframe)
  · rw [List.append_nil]
    exact Skb.readable_ofBytes hframe
  · simp [roundTripMux, roundTripConn, hash_for_each_possible, sk_init]
  · have hfits : (wsFrame [104, 105]).length ≤ skb_wrsz Skb.zero := by decide
    rw [htake]
    exact hfits

/-- The client of a peer at 10.0.0.200, port 54321, loses its payload. -/
theorem pp2_round_trip_high_hash :
    ¬ ∀ (c c' : Conn) (wsf : WsFrame) (bytes rest : List UInt8) (m : Mux) (id : Nat) (cln_sk : Sk),
      RoundTrip c c' wsf bytes rest m id cln_sk →
        Delivers m id cln_sk (c.sk.recvbuf.readable.take wsf.payload_len) rest := by
  intro hall
  obtain ⟨c', hsample⟩ := roundTrip_sample 0xc800000a31d40000
  have hdelivers := hall (roundTripConn 0xc800000a31d40000) c' { payload_len := 2 } _ [] (roundTripMux 0xc800000a31d40000)
    0 _ hsample
  have hread := hsample.read
  rw [pp2_encode_frame_append hsample.sendbuf_ok hsample.recvbuf_ok hsample.len_le hsample.encode
    hsample.append] at hread
  obtain ⟨m', hdecode⟩ := hdelivers.returns
  rw [pp2Frame_rejected (by decide) hsample.payload_ne_nil hsample.pp2_recvbuf_ok hread] at hdecode
  simp at hdecode

/-- A peer at 10.0.0.1 gets the payload. -/
theorem pp2_round_trip_low_hash :
    ∃ c', RoundTrip (roundTripConn 0x0100000a31d40000) c' { payload_len := 2 }
        (pp2Frame (sk_init 7 0x0100000a31d40000) [104, 105]) [] (roundTripMux 0x0100000a31d40000) 0
        { sk_init 7 0x0100000a31d40000 with proto := { encode_frame := some .ws_encode_frame } } ∧
      Delivers (roundTripMux 0x0100000a31d40000) 0
        { sk_init 7 0x0100000a31d40000 with proto := { encode_frame := some .ws_encode_frame } }
        ((roundTripConn 0x0100000a31d40000).sk.recvbuf.readable.take 2) [] := by
  obtain ⟨c', hsample⟩ := roundTrip_sample 0x0100000a31d40000
  exact ⟨c', hsample, (pp2_decode_frame_pp2_encode_frame hsample).1.mpr (by decide)⟩

end wsd
