import Wsd.Pp2.Effect
import Wsd.Pp2.RoundTrip

namespace wsd

/-- A retry in any later state: once the bytes which follow complete the frame at
    the old read position, and its client has room, the frame is delivered. -/
def Pp2Retry (m m' : Mux) : Prop :=
  ∀ (m'' : Mux) (more rest : List UInt8) (hash : UInt64) (len id : Nat) (cln_sk : Sk), m''.pp2sk.recvbuf.Ok →
    m''.pp2sk.recvbuf.readable = m'.pp2sk.recvbuf.readable ++ more →
    Pp2Accepted (m.pp2sk.recvbuf.readable ++ more) hash len rest → rest ≠ [] → len ≤ rest.length →
    hash_lookup m''.clients m''.sk_hash hash = .ok (some (id, cln_sk)) →
    cln_sk.proto.encode_frame = some .ws_encode_frame → cln_sk.sendbuf.Ok →
    (wsFrame (rest.take len)).length ≤ skb_wrsz cln_sk.sendbuf →
      Delivers m'' id cln_sk (rest.take len) (rest.drop len)

/-- A call which fails for want of input or of room leaves the backend's receive
    buffer and every client's send buffer as they were, and can be retried. -/
def Pp2Atomic (m : Mux) : Prop :=
  ∀ m', pp2_decode_frame m = .ok (-1, m') → m'.wsd_errno = .WSD_EINPUT ∨ m'.wsd_errno = .WSD_EAGAIN →
    m'.pp2sk.recvbuf = m.pp2sk.recvbuf ∧
      (∀ id, (m'.clients id).map Sk.sendbuf = (m.clients id).map Sk.sendbuf) ∧ Pp2Retry m m'

/-- A complete frame for an upgraded client whose send buffer has less room than
    the computed frame length. -/
def ClientFull (m : Mux) : Prop :=
  ∃ hash len rest id cln_sk, Pp2Accepted m.pp2sk.recvbuf.readable hash len rest ∧ rest ≠ [] ∧
    len ≤ rest.length ∧ hash_lookup m.clients m.sk_hash hash = .ok (some (id, cln_sk)) ∧
    cln_sk.proto.encode_frame = some .ws_encode_frame ∧ skb_wrsz cln_sk.sendbuf < frameLen len

/-- A receive buffer which is as it was makes the retry decode the same frame. -/
theorem pp2Retry_of_recvbuf {m m' : Mux} (h : m'.pp2sk.recvbuf = m.pp2sk.recvbuf) : Pp2Retry m m' := by
  intro m'' more rest hash len id cln_sk hok hread haccepted hne hlen hlookup hencode hsend hroom
  rw [h] at hread
  rw [← hread] at haccepted
  exact haccepted.delivers hok hne hlen hlookup hencode hsend hroom

/-- The header's read position is not restored when the client is full. -/
theorem pp2_decode_frame_full {m : Mux} (hok : m.pp2sk.recvbuf.Ok) (h : ClientFull m) :
    ∃ m', pp2_decode_frame m = .ok (-1, m') ∧ m'.wsd_errno = .WSD_EAGAIN ∧
      m'.pp2sk.recvbuf = skb_rd_forward m.pp2sk.recvbuf PP2_HEADER_LEN := by
  obtain ⟨hash, len, rest, id, cln_sk, haccepted, hne, hlen, hlookup, hencode, hfull⟩ := h
  have hsize := hok.rdsz_le
  have hlength := haccepted.length
  rw [hok.length_readable_eq] at hlength
  have hdecode := pp2_decode_frame_accepted hok haccepted hne
  rw [if_neg (by omega)] at hdecode
  exact ⟨_, hdecode.trans (pp2_decode_payload_full (by omega) hlookup hencode hfull), rfl, rfl⟩

/-- Every other failure for want of input or of room changes `wsd_errno` only. -/
theorem pp2_decode_frame_failure {m m' : Mux} (hok : m.pp2sk.recvbuf.Ok)
    (hclients : ∀ id sk, m.clients id = some sk → sk.proto.encode_frame ≠ some .pp2_encode_frame)
    (hfull : ¬ ClientFull m) (h : pp2_decode_frame m = .ok (-1, m')) :
    m' = { m with wsd_errno := m'.wsd_errno } := by
  cases pp2_decode_frame_inv hok hclients h with
  | waits wsd_errno hagain => rfl
  | full hash len rest id cln_sk recvbuf haccepted hlen hne hlookup hencode hless =>
    exact absurd ⟨hash, len, rest, id, cln_sk, haccepted, hne, hlen, hlookup, hencode, hless⟩ hfull

theorem not_pp2Atomic_of_full {m : Mux} (hok : m.pp2sk.recvbuf.Ok) (h : ClientFull m) : ¬ Pp2Atomic m := by
  intro hatomic
  obtain ⟨m', hdecode, herrno, hrecv⟩ := pp2_decode_frame_full hok h
  have hkeep := (hatomic m' hdecode (Or.inr herrno)).1
  obtain ⟨hash, len, rest, -, -, haccepted, -⟩ := h
  have hlength := haccepted.length
  have hpos := congrArg Skb.rdpos (hrecv.symm.trans hkeep)
  have hwr := hok.wrpos_le
  have hrd := hok.rdpos_le
  have hheader : PP2_HEADER_LEN = 46 := rfl
  rw [hok.length_readable_eq, hok.rdsz_eq] at hlength
  simp only [skb_rd_forward] at hpos
  rw [Skb.u32_of_le_size (by omega)] at hpos
  omega

/-- Backpressure towards a client loses nothing exactly if the frame at the read
    position is not a complete one for a client which is full. -/
theorem pp2_decode_frame_atomic_iff {m : Mux} (hok : m.pp2sk.recvbuf.Ok)
    (hclients : ∀ id sk, m.clients id = some sk → sk.proto.encode_frame ≠ some .pp2_encode_frame) :
    Pp2Atomic m ↔ ¬ ClientFull m := by
  constructor
  · intro hatomic hfull
    exact not_pp2Atomic_of_full hok hfull hatomic
  · intro hfull m' hdecode herrno
    have hm' := pp2_decode_frame_failure hok hclients hfull hdecode
    have hrecv : m'.pp2sk.recvbuf = m.pp2sk.recvbuf := by rw [hm']
    refine ⟨hrecv, ?_, pp2Retry_of_recvbuf hrecv⟩
    intro id
    rw [hm']

/-- An upgraded client with the given send buffer. -/
def backpressureClient (sendbuf : Skb) : Sk :=
  { sk_init 7 0x0100000a31d40000 with proto := { encode_frame := some .ws_encode_frame }, sendbuf }

/-- The client, and a frame of two bytes for it. -/
def backpressureMux (sendbuf : Skb) : Mux where
  clients := fun id => if id = 0 then some (backpressureClient sendbuf) else none
  sk_hash := fun _ => [0]
  pp2sk := { sk_init 8 0 with recvbuf := Skb.ofBytes (pp2Frame (sk_init 7 0x0100000a31d40000) [104, 105]) }
  wsd_errno := .WSD_CHECKERRNO

theorem backpressureMux_ok (sendbuf : Skb) :
    (backpressureMux sendbuf).pp2sk.recvbuf.Ok ∧
      (backpressureMux sendbuf).pp2sk.recvbuf.readable = pp2Frame (sk_init 7 0x0100000a31d40000) [104, 105] ∧
      ∀ id sk, (backpressureMux sendbuf).clients id = some sk →
        sk.proto.encode_frame ≠ some .pp2_encode_frame := by
  refine ⟨Skb.ok_ofBytes (by rw [length_pp2Frame]; decide), Skb.readable_ofBytes (by rw [length_pp2Frame]; decide), ?_⟩
  intro id sk hsk
  simp only [backpressureMux] at hsk
  split at hsk
  · cases hsk
    simp [backpressureClient]
  · cases hsk

/-- A client without any room loses the header of its frame. -/
theorem pp2_decode_frame_full_client :
    ¬ ∀ m : Mux, m.pp2sk.recvbuf.Ok →
      (∀ id sk, m.clients id = some sk → sk.proto.encode_frame ≠ some .pp2_encode_frame) → Pp2Atomic m := by
  intro hall
  obtain ⟨hok, hread, hclients⟩ := backpressureMux_ok { Skb.zero with wrpos := SKB_SIZE }
  refine not_pp2Atomic_of_full hok ?_ (hall _ hok hclients)
  have haccepted := @pp2Frame_accepted (sk_init 7 0x0100000a31d40000) [104, 105] []
    (by decide) (by decide)
  rw [List.append_nil, ← hread] at haccepted
  exact ⟨_, _, _, 0, backpressureClient { Skb.zero with wrpos := SKB_SIZE }, haccepted, by decide, by decide,
    (hash_lookup_of_near (by decide)).trans
      (by simp [backpressureMux, backpressureClient, hash_for_each_possible, sk_init]), rfl, by decide⟩

/-- A client with an empty send buffer is not full. -/
theorem pp2_decode_frame_atomic_sample : Pp2Atomic (backpressureMux Skb.zero) := by
  obtain ⟨hok, hread, hclients⟩ := backpressureMux_ok Skb.zero
  apply (pp2_decode_frame_atomic_iff hok hclients).mpr
  rintro ⟨hash, len, rest, id, cln_sk, haccepted, -, -, hlookup, -, hless⟩
  have hsample := @pp2Frame_accepted (sk_init 7 0x0100000a31d40000) [104, 105] []
    (by decide) (by decide)
  rw [List.append_nil, ← hread] at hsample
  obtain ⟨-, rfl, -⟩ := haccepted.unique hsample
  obtain ⟨-, hclient, -⟩ := hash_lookup_found hlookup
  simp only [backpressureMux] at hclient
  split at hclient
  · cases hclient
    exact absurd hless (by decide)
  · cases hclient

end wsd
