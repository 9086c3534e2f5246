import Wsd.Pp2.Effect
import Wsd.Pp2.RoundTrip

namespace wsd

/-- The readable bytes are the start of a frame with the given hash and payload length,
    with or without what follows it. -/
def Pp2At (r : List UInt8) (hash : UInt64) (len : Nat) : Prop :=
  ∃ src dst more body, r ++ more = pp2Header src dst hash len ++ body

/-- The backend's frame is looked up inside the hash table and changes no client with
    another hash; a complete one whose hash no client has is skipped. -/
def Isolates (m : Mux) (hash : UInt64) (len : Nat) : Prop :=
  pp2_decode_frame m ≠ .error .out_of_bounds ∧
    (∀ rv m', pp2_decode_frame m = .ok (rv, m') →
      ∀ id sk, m.clients id = some sk → sk.hash ≠ hash → m'.clients id = some sk) ∧
    ((∀ id sk, m.clients id = some sk → sk.hash ≠ hash) → PP2_HEADER_LEN + len ≤ skb_rdsz m.pp2sk.recvbuf →
      ∃ m', pp2_decode_frame m = .ok (0, m') ∧ m'.clients = m.clients ∧
        m'.pp2sk.recvbuf.readable = m.pp2sk.recvbuf.readable.drop (PP2_HEADER_LEN + len))

/-- A chain of open clients is walked to its end if none of them has the hash. -/
theorem hash_for_each_possible_none {clients : Nat → Option Sk} {hash : UInt64} {chain : List Nat}
    (hchain : ∀ id ∈ chain, clients id ≠ none) (hno : ∀ id sk, clients id = some sk → sk.hash ≠ hash) :
    hash_for_each_possible clients hash chain = .ok none := by
  induction chain with
  | nil => rfl
  | cons id chain ih =>
    obtain ⟨hid, hchain⟩ := List.forall_mem_cons.mp hchain
    obtain ⟨sk, hsk⟩ := Option.ne_none_iff_exists'.mp hid
    rw [hash_for_each_possible, hsk]
    simp only [if_neg (hno id sk hsk)]
    exact ih hchain

section Isolation

variable {m : Mux} {hash : UInt64} {len : Nat}

/-- What the decoder accepts at a frame are that frame's hash and length. -/
theorem Pp2At.accepted_eq {r : List UInt8} (h : Pp2At r hash len) (hlen : len < 4294967296) {hash' : UInt64}
    {len' : Nat} {rest : List UInt8} (haccepted : Pp2Accepted r hash' len' rest) : hash' = hash ∧ len' = len := by
  obtain ⟨src, dst, more, body, hr⟩ := h
  obtain ⟨field, addrs, hfield, haddrs, hbytes⟩ := haccepted.bytes
  have hlen' := haccepted.len_lt
  rw [hbytes, List.append_assoc, pp2Header_eq] at hr
  have hinj := pp2HeaderBytes_inj (by simp [hfield]) (by simp [haddrs, PP2_ADDR_LEN]) hash'.toNat_lt hash.toNat_lt
    (by omega) hlen hr
  exact ⟨UInt64.toNat_inj.mp hinj.1, hinj.2.1⟩

theorem Pp2At.hash_eq {r : List UInt8} (h : Pp2At r hash len) (hlen : len < 4294967296) {hash' : UInt64} {len' : Nat}
    {rest : List UInt8} (haccepted : Pp2Accepted r hash' len' rest) : hash' = hash :=
  (h.accepted_eq hlen haccepted).1

/-- A complete frame whose hash is not negative as a signed number is accepted. -/
theorem Pp2At.accepted {r : List UInt8} (h : Pp2At r hash len) (hsize : PP2_HEADER_LEN ≤ r.length)
    (hhash : hash.toNat < 9223372036854775808) (hlen : len < 2147483648) :
    Pp2Accepted r hash len (r.drop PP2_HEADER_LEN) where
  hash_lt := hhash
  len_lt := hlen
  bytes := by
    obtain ⟨src, dst, more, body, hr⟩ := h
    have htake := congrArg (List.take PP2_HEADER_LEN) hr
    rw [List.take_append_of_le_length hsize, List.take_left' (length_pp2Header src dst hash len)] at htake
    have hsplit := List.take_append_drop PP2_HEADER_LEN r
    rw [htake, pp2Header_eq] at hsplit
    exact ⟨_, _, by simp, by simp [PP2_ADDR_LEN], hsplit.symm⟩

/-- Whatever the decoder returns, only clients with the frame's hash change. -/
theorem Pp2At.others_unchanged (h : Pp2At m.pp2sk.recvbuf.readable hash len) (hlen : len < 4294967296)
    (hok : m.pp2sk.recvbuf.Ok)
    (hclients : ∀ id sk, m.clients id = some sk → sk.proto.encode_frame ≠ some .pp2_encode_frame) {rv : Int} {m' : Mux}
    (hdecode : pp2_decode_frame m = .ok (rv, m')) {id : Nat} {sk : Sk} (hsk : m.clients id = some sk)
    (hhash : sk.hash ≠ hash) : m'.clients id = some sk := by
  have hdemuxed := pp2_decode_frame_inv hok hclients hdecode
  cases hsk' : m'.clients id with
  | none => exact absurd (hdemuxed.clients_none hsk') (by simp [hsk])
  | some sk' =>
    obtain rfl | ⟨-, hash', len', rest, sendbuf, haccepted, -, hlookup, -⟩ := hdemuxed.client_cases hsk hsk'
    · rfl
    · obtain ⟨-, -, hfound⟩ := hash_lookup_found hlookup
      exact absurd (hfound.trans (h.hash_eq hlen haccepted)) hhash

/-- A complete frame for no client is skipped if the decoder accepts it and at least
    one byte follows its header. -/
theorem Pp2At.skipped (h : Pp2At m.pp2sk.recvbuf.readable hash len) (hok : m.pp2sk.recvbuf.Ok)
    (hchain : ∀ id ∈ m.sk_hash (hash_min hash), m.clients id ≠ none)
    (hno : ∀ id sk, m.clients id = some sk → sk.hash ≠ hash)
    (hcomplete : PP2_HEADER_LEN + len ≤ skb_rdsz m.pp2sk.recvbuf) (hnear : hash_min hash < HASH_SIZE)
    (hmore : PP2_HEADER_LEN < skb_rdsz m.pp2sk.recvbuf) :
    ∃ m', pp2_decode_frame m = .ok (0, m') ∧ m'.clients = m.clients ∧
      m'.pp2sk.recvbuf.readable = m.pp2sk.recvbuf.readable.drop (PP2_HEADER_LEN + len) := by
  have hlength := hok.length_readable_eq
  have hsize := hok.rdsz_le
  unfold SKB_SIZE at hsize
  have haccepted := h.accepted (by omega) (hash_lt_of_near hnear) (by omega)
  have hrest : (m.pp2sk.recvbuf.readable.drop PP2_HEADER_LEN).length = skb_rdsz m.pp2sk.recvbuf - PP2_HEADER_LEN := by
    rw [List.length_drop, hlength]
  have hne : m.pp2sk.recvbuf.readable.drop PP2_HEADER_LEN ≠ [] := by
    rw [← List.length_pos_iff, hrest]
    omega
  obtain ⟨hforward, hread⟩ := haccepted.readable_rd_forward hok
  have hpayload : len ≤ skb_rdsz (skb_rd_forward m.pp2sk.recvbuf PP2_HEADER_LEN) := by
    rw [← hforward.length_readable_eq, hread, hrest]
    omega
  have hskip := hforward.rd_forward hpayload
  refine ⟨m.setRecvbuf (skb_compact (skb_rd_forward (skb_rd_forward m.pp2sk.recvbuf PP2_HEADER_LEN) len)), ?_, rfl, ?_⟩
  · rw [pp2_decode_frame_accepted hok haccepted hne, if_neg (by rw [hrest]; omega)]
    unfold pp2_decode_payload
    rw [hash_lookup_of_near hnear, hash_for_each_possible_none hchain hno]
    rfl
  · change (skb_compact (skb_rd_forward (skb_rd_forward m.pp2sk.recvbuf PP2_HEADER_LEN) len)).readable = _
    rw [hskip.readable_compact, hforward.readable_rd_forward hpayload, hread, List.drop_drop]

/-- The lookup stays inside the table, unless the frame is complete with a byte behind its
    header and its bucket is none of the table's. -/
theorem Pp2At.out_of_bounds_iff (h : Pp2At m.pp2sk.recvbuf.readable hash len) (hlen : len < 4294967296)
    (hok : m.pp2sk.recvbuf.Ok) :
    pp2_decode_frame m = .error .out_of_bounds ↔
      PP2_HEADER_LEN + len ≤ skb_rdsz m.pp2sk.recvbuf ∧ PP2_HEADER_LEN < skb_rdsz m.pp2sk.recvbuf ∧
        hash.toNat < 9223372036854775808 ∧ ¬ hash_min hash < HASH_SIZE := by
  have hlength := hok.length_readable_eq
  have hsize := hok.rdsz_le
  unfold SKB_SIZE at hsize
  constructor
  · intro hfault
    obtain ⟨hash', len', rest, haccepted, hle, hne, hfar⟩ := pp2_decode_frame_out_of_bounds hok hfault
    have hpos := List.length_pos_iff.mpr hne
    have htotal := haccepted.length
    obtain ⟨rfl, rfl⟩ := h.accepted_eq hlen haccepted
    exact ⟨by omega, by omega, haccepted.hash_lt, hfar⟩
  · rintro ⟨hcomplete, hmore, hhash, hfar⟩
    have haccepted := h.accepted (by omega) hhash (by omega)
    have hrest : (m.pp2sk.recvbuf.readable.drop PP2_HEADER_LEN).length =
        skb_rdsz m.pp2sk.recvbuf - PP2_HEADER_LEN := by
      rw [List.length_drop, hlength]
    refine pp2_decode_frame_far hok haccepted ?_ (by omega) hfar
    rw [← List.length_pos_iff, hrest]
    omega

/-- The three defects: a hash with its highest bit set is rejected, a bucket index from
    `HASH_SIZE` on is read behind the table, and a frame without a payload waits for a
    byte behind it. -/
theorem pp2_decode_frame_isolates_iff (hok : m.pp2sk.recvbuf.Ok)
    (hclients : ∀ id sk, m.clients id = some sk → sk.proto.encode_frame ≠ some .pp2_encode_frame)
    (hchain : hash_min hash < HASH_SIZE → ∀ id ∈ m.sk_hash (hash_min hash), m.clients id ≠ none)
    (hlen : len < 4294967296) (hat : Pp2At m.pp2sk.recvbuf.readable hash len) :
    Isolates m hash len ↔
      (PP2_HEADER_LEN + len ≤ skb_rdsz m.pp2sk.recvbuf →
        (hash_min hash < HASH_SIZE ∨ 9223372036854775808 ≤ hash.toNat ∨
            skb_rdsz m.pp2sk.recvbuf = PP2_HEADER_LEN) ∧
          ((∀ id sk, m.clients id = some sk → sk.hash ≠ hash) →
            hash_min hash < HASH_SIZE ∧ PP2_HEADER_LEN < skb_rdsz m.pp2sk.recvbuf)) := by
  have hfault := hat.out_of_bounds_iff hlen hok
  constructor
  · rintro ⟨hbounds, -, hskips⟩ hcomplete
    have hinside : hash_min hash < HASH_SIZE ∨ 9223372036854775808 ≤ hash.toNat ∨
        skb_rdsz m.pp2sk.recvbuf = PP2_HEADER_LEN := by
      rw [Ne, hfault] at hbounds
      omega
    refine ⟨hinside, fun hno => ?_⟩
    obtain ⟨m', hdecode, -⟩ := hskips hno hcomplete
    have hmore : PP2_HEADER_LEN < skb_rdsz m.pp2sk.recvbuf := by
      by_contra hshort
      rw [pp2_decode_frame_short (Nat.not_lt.mp hshort)] at hdecode
      cases hdecode
    refine ⟨?_, hmore⟩
    obtain hnear | hhigh | hshort := hinside
    · exact hnear
    · have hreject := pp2_decode_frame_rejected hok hmore (by
        rintro ⟨hash', len', rest, haccepted⟩
        rw [← hat.hash_eq hlen haccepted] at hhigh
        exact absurd haccepted.hash_lt (by omega))
      rw [hreject] at hdecode
      cases hdecode
    · omega
  · intro hcond
    refine ⟨?_, fun rv m' hdecode id sk hsk hhash => hat.others_unchanged hlen hok hclients hdecode hsk hhash, ?_⟩
    · rw [Ne, hfault]
      rintro ⟨hcomplete, hmore, hhash, hfar⟩
      obtain ⟨hnear | hhigh | hshort, -⟩ := hcond hcomplete <;> omega
    · intro hno hcomplete
      obtain ⟨hnear, hmore⟩ := (hcond hcomplete).2 hno
      exact hat.skipped hok (hchain hnear) hno hcomplete hnear hmore

end Isolation

namespace Sample

/-- A daemon without clients whose backend has sent the given bytes. -/
def lonely (bytes : List UInt8) : Mux where
  clients := fun _ => none
  sk_hash := fun _ => []
  pp2sk := { sk_init 6 0xffffffffffffffff with recvbuf := Skb.ofBytes bytes }
  wsd_errno := .WSD_CHECKERRNO

def endpoint : SockaddrIn where
  sin_addr := 0x0100000a
  sin_port := 0x31d4

/-- A frame for the given hash, and what follows it. -/
def framed (hash : UInt64) (payload rest : List UInt8) : List UInt8 :=
  pp2Header endpoint endpoint hash payload.length ++ (payload ++ rest)

theorem lonely_at (hash : UInt64) (payload rest : List UInt8) (hsize : (framed hash payload rest).length ≤ SKB_SIZE) :
    Pp2At (lonely (framed hash payload rest)).pp2sk.recvbuf.readable hash payload.length :=
  ⟨endpoint, endpoint, [], payload ++ rest, by rw [List.append_nil]; exact Skb.readable_ofBytes hsize⟩

end Sample

/-- A frame with a payload is skipped. -/
theorem pp2_decode_frame_isolates_hi : Isolates (Sample.lonely (Sample.framed 7 [104, 105] [])) 7 2 := by
  have hrdsz : skb_rdsz (Sample.lonely (Sample.framed 7 [104, 105] [])).pp2sk.recvbuf = 48 :=
    (Skb.rdsz_ofBytes (by decide)).trans (by decide)
  refine (pp2_decode_frame_isolates_iff (Skb.ok_ofBytes (by decide)) (by simp [Sample.lonely])
    (by simp [Sample.lonely]) (by decide) (Sample.lonely_at 7 [104, 105] [] (by decide))).mpr fun _ => ?_
  exact ⟨Or.inl (by decide), fun _ => ⟨by decide, by rw [hrdsz]; decide⟩⟩

/-- A frame without a payload, with nothing behind it, is not skipped. -/
theorem empty_frame_waits :
    ¬ ∀ (m : Mux) (hash : UInt64) (len : Nat), m.pp2sk.recvbuf.Ok →
      (∀ id sk, m.clients id = some sk → sk.proto.encode_frame ≠ some .pp2_encode_frame) →
      (hash_min hash < HASH_SIZE → ∀ id ∈ m.sk_hash (hash_min hash), m.clients id ≠ none) → len < 4294967296 →
      Pp2At m.pp2sk.recvbuf.readable hash len → Isolates m hash len := by
  intro h
  have hskips := (h (Sample.lonely (Sample.framed 7 [] [])) 7 0 (Skb.ok_ofBytes (by decide)) (by simp [Sample.lonely])
    (by simp [Sample.lonely]) (by decide) (Sample.lonely_at 7 [] [] (by decide))).2.2
  have hrdsz : skb_rdsz (Sample.lonely (Sample.framed 7 [] [])).pp2sk.recvbuf = 46 :=
    (Skb.rdsz_ofBytes (by decide)).trans (by decide)
  obtain ⟨m', hdecode, -⟩ := hskips (by simp [Sample.lonely]) (by rw [hrdsz]; decide)
  rw [pp2_decode_frame_short (by rw [hrdsz]; decide)] at hdecode
  cases hdecode

end wsd
