import Mathlib.Logic.Function.Basic
import Wsd.Pp2.Encode

namespace wsd

def PP2_VER_BITS (byte : UInt8) : UInt8 := (0xf0 &&& byte) >>> 4
def PP2_CMD_BITS (byte : UInt8) : UInt8 := 0xf &&& byte
def PP2_FAM_BITS (byte : UInt8) : UInt8 := (0xf0 &&& byte) >>> 4
def PP2_PROTO_BITS (byte : UInt8) : UInt8 := 0xf &&& byte

def HASH_SIZE : Nat := 16

def HASH_BITS : Nat := HASH_SIZE >>> 1

/-- The index of a hash's bucket: its high bits, as many as half the size of the table. -/
def hash_min (val : UInt64) : Nat :=
  val.toNat >>> (64 - HASH_BITS)

def pp2_get_connhash (src : Skb) : Int × Skb :=
  let (tlv, src') := skb_get src (3 + 8)
  if tlv.take 3 ≠ [PP2_TYPE_CONNHASH, 0, 8] then (-1, src) else (i64 (Bytes.leVal (tlv.drop 3)), src')

def pp2_get_payloadlen (src : Skb) : Int × Skb :=
  let (tlv, src') := skb_get src (3 + 4)
  if tlv.take 3 ≠ [PP2_TYPE_PAYLOADLEN, 0, 4] then (-1, src) else (i32 (Bytes.leVal (tlv.drop 3)), src')

/-- What the backend's frame handler reads and writes: the client sockets by
    address, the chains of the hash table `sk_hash`, `pp2sk` and `wsd_errno`. -/
structure Mux where
  clients : Nat → Option Sk
  sk_hash : Nat → List Nat
  pp2sk : Sk
  wsd_errno : Errno

/-- The handler's state with another receive buffer of `pp2sk`. -/
def Mux.setRecvbuf (m : Mux) (recvbuf : Skb) : Mux :=
  { m with pp2sk := { m.pp2sk with recvbuf } }

/-- The walk along a hash chain up to the first socket with the given hash. -/
def hash_for_each_possible (clients : Nat → Option Sk) (hash : UInt64) :
    List Nat → Except Fault (Option (Nat × Sk))
  | [] => .ok none
  | id :: chain =>
    match clients id with
    | none => .error .use_after_free
    | some sk => if sk.hash = hash then .ok (some (id, sk)) else hash_for_each_possible clients hash chain

/-- The lookup of a hash: its bucket is an index into an array of `HASH_SIZE` chains. -/
def hash_lookup (clients : Nat → Option Sk) (sk_hash : Nat → List Nat) (hash : UInt64) :
    Except Fault (Option (Nat × Sk)) :=
  if hash_min hash < HASH_SIZE then
    hash_for_each_possible clients hash (sk_hash (hash_min hash))
  else
    .error .out_of_bounds

/-- What the walk finds is a client with that hash. -/
theorem hash_for_each_possible_found {clients : Nat → Option Sk} {hash : UInt64} {chain : List Nat} {id : Nat} {sk : Sk}
    (h : hash_for_each_possible clients hash chain = .ok (some (id, sk))) :
    id ∈ chain ∧ clients id = some sk ∧ sk.hash = hash := by
  induction chain with
  | nil => simp [hash_for_each_possible] at h
  | cons first chain ih =>
    unfold hash_for_each_possible at h
    cases hfirst : clients first with
    | none => simp [hfirst] at h
    | some sk' =>
      rw [hfirst] at h
      by_cases heq : sk'.hash = hash
      · simp only [if_pos heq, Except.ok.injEq, Option.some.injEq, Prod.mk.injEq] at h
        obtain ⟨rfl, rfl⟩ := h
        exact ⟨List.mem_cons_self, hfirst, heq⟩
      · simp only [if_neg heq] at h
        obtain ⟨hmem, hrest⟩ := ih h
        exact ⟨List.mem_cons_of_mem _ hmem, hrest⟩

section Lookup

variable {clients : Nat → Option Sk} {sk_hash : Nat → List Nat} {hash : UInt64}

theorem hash_lookup_of_near (hnear : hash_min hash < HASH_SIZE) :
    hash_lookup clients sk_hash hash = hash_for_each_possible clients hash (sk_hash (hash_min hash)) :=
  if_pos hnear

theorem hash_lookup_of_far (hfar : ¬ hash_min hash < HASH_SIZE) :
    hash_lookup clients sk_hash hash = .error .out_of_bounds :=
  if_neg hfar

/-- A lookup which ends has read a bucket of the table. -/
theorem hash_lookup_near {found : Option (Nat × Sk)} (h : hash_lookup clients sk_hash hash = .ok found) :
    hash_min hash < HASH_SIZE := by
  by_contra hfar
  rw [hash_lookup_of_far hfar] at h
  cases h

theorem hash_lookup_found {id : Nat} {sk : Sk} (h : hash_lookup clients sk_hash hash = .ok (some (id, sk))) :
    id ∈ sk_hash (hash_min hash) ∧ clients id = some sk ∧ sk.hash = hash := by
  rw [hash_lookup_of_near (hash_lookup_near h)] at h
  exact hash_for_each_possible_found h

/-- A hash whose bucket is one of the table's is not negative as a signed number. -/
theorem hash_lt_of_near (hnear : hash_min hash < HASH_SIZE) : hash.toNat < 9223372036854775808 := by
  unfold hash_min at hnear
  simp only [HASH_BITS, HASH_SIZE, Nat.shiftRight_eq_div_pow] at hnear
  omega

end Lookup

/-- The part of `pp2_decode_frame` behind the header: the payload goes to the
    client with the given hash, or is skipped if there is none. -/
def pp2_decode_payload (m : Mux) (recvbuf : Skb) (hash : UInt64) (len : Nat) : Except Fault (Int × Mux) := do
  match ← hash_lookup m.clients m.sk_hash hash with
  | none =>
    return (0, m.setRecvbuf (skb_compact (skb_rd_forward recvbuf len)))
  | some (id, cln_sk) =>
    let (rv, c) ← encode_frame cln_sk.proto.encode_frame
      { sk := cln_sk, pp2sk := { m.pp2sk with recvbuf }, wsd_errno := m.wsd_errno } { payload_len := len }
    return (rv, { m with
      clients := Function.update m.clients id (some c.sk)
      pp2sk := c.pp2sk
      wsd_errno := c.wsd_errno })

/-- Installed on `pp2sk` only, so that its argument is `pp2sk`. -/
def pp2_decode_frame (m : Mux) : Except Fault (Int × Mux) := do
  if PP2_HEADER_LEN ≥ skb_rdsz m.pp2sk.recvbuf then
    return (-1, { m with wsd_errno := .WSD_EINPUT })
  else
    let old_rdpos := m.pp2sk.recvbuf.rdpos
    let (hdr, recvbuf) := skb_get m.pp2sk.recvbuf 16
    let ver_cmd := hdr.getD 12 0
    let fam := hdr.getD 13 0
    if hdr.take 12 ≠ pp2_sig then
      return (-1, { m.setRecvbuf { recvbuf with rdpos := old_rdpos } with wsd_errno := .WSD_ENUM })
    else if PP2_VER_BITS ver_cmd ≠ 2 ∨ PP2_CMD_BITS ver_cmd ≠ 1 ∨ PP2_FAM_BITS fam ≠ 1 ∨
        PP2_PROTO_BITS fam ≠ 1 then
      return (-1, { m.setRecvbuf { recvbuf with rdpos := old_rdpos } with wsd_errno := .WSD_ENUM })
    else
      let recvbuf := skb_rd_forward recvbuf PP2_ADDR_LEN
      let (val, recvbuf) := pp2_get_connhash recvbuf
      if val < 0 then
        return (-1, { m.setRecvbuf { recvbuf with rdpos := old_rdpos } with wsd_errno := .WSD_ENUM })
      else
        let hash := UInt64.ofNat val.toNat
        let (val, recvbuf) := pp2_get_payloadlen recvbuf
        if val < 0 then
          return (-1, { m.setRecvbuf { recvbuf with rdpos := old_rdpos } with wsd_errno := .WSD_ENUM })
        else
          let len := val.toNat
          if skb_rdsz recvbuf < len then
            return (-1, { m.setRecvbuf { recvbuf with rdpos := old_rdpos } with wsd_errno := .WSD_EAGAIN })
          else
            pp2_decode_payload m recvbuf hash len

/-- The 46 bytes of a header with the given values; the decoder skips the length
    field and the addresses. -/
def pp2HeaderBytes (field addrs : List UInt8) (hash payload_len : Nat) : List UInt8 :=
  pp2_sig_ver_cmd_fam ++ field ++ addrs ++ ([PP2_TYPE_CONNHASH, 0, 8] ++ Bytes.le 8 hash) ++
    ([PP2_TYPE_PAYLOADLEN, 0, 4] ++ Bytes.le 4 payload_len)

/-- The bytes start with a header which the decoder accepts: the hash and the
    payload length are those which are not negative as signed numbers. -/
structure Pp2Accepted (r : List UInt8) (hash : UInt64) (len : Nat) (rest : List UInt8) : Prop where
  hash_lt : hash.toNat < 9223372036854775808
  len_lt : len < 2147483648
  bytes : ∃ field addrs, field.length = 2 ∧ addrs.length = PP2_ADDR_LEN ∧
    r = pp2HeaderBytes field addrs hash.toNat len ++ rest

theorem i64_nonneg_iff {n : Nat} (h : n < 18446744073709551616) : 0 ≤ i64 n ↔ n < 9223372036854775808 := by
  unfold i64
  rw [Nat.mod_eq_of_lt h]
  split <;> omega

theorem i32_nonneg_iff {n : Nat} (h : n < 4294967296) : 0 ≤ i32 n ↔ n < 2147483648 := by
  unfold i32
  rw [Nat.mod_eq_of_lt h]
  split <;> omega

theorem ver_cmd_iff (byte : UInt8) : PP2_VER_BITS byte = 2 ∧ PP2_CMD_BITS byte = 1 ↔ byte = 0x21 := by
  apply uint8_forall (P := fun b => PP2_VER_BITS b = 2 ∧ PP2_CMD_BITS b = 1 ↔ b = 0x21)
  decide +kernel

theorem fam_iff (byte : UInt8) : PP2_FAM_BITS byte = 1 ∧ PP2_PROTO_BITS byte = 1 ↔ byte = 0x11 := by
  apply uint8_forall (P := fun b => PP2_FAM_BITS b = 1 ∧ PP2_PROTO_BITS b = 1 ↔ b = 0x11)
  decide +kernel

/-- The four parts of a header as the decoder loads them. -/
structure Pp2Parts (r hdr addrs tlv1 tlv2 rest : List UInt8) : Prop where
  hdr_len : hdr.length = 16
  addrs_len : addrs.length = 12
  tlv1_len : tlv1.length = 11
  tlv2_len : tlv2.length = 7
  bytes : r = hdr ++ (addrs ++ (tlv1 ++ (tlv2 ++ rest)))

theorem exists_pp2Parts {r : List UInt8} (h : PP2_HEADER_LEN ≤ r.length) :
    ∃ hdr addrs tlv1 tlv2 rest, Pp2Parts r hdr addrs tlv1 tlv2 rest := by
  have hlen : PP2_HEADER_LEN = 46 := rfl
  refine ⟨r.take 16, (r.drop 16).take 12, (r.drop 28).take 11, (r.drop 39).take 7, r.drop 46,
    by simp; omega, by simp; omega, by simp; omega, by simp; omega, ?_⟩
  have h1 : (r.drop 39).take 7 ++ r.drop 46 = r.drop 39 := by
    rw [← List.drop_drop (i := 7) (j := 39), List.take_append_drop]
  have h2 : (r.drop 28).take 11 ++ r.drop 39 = r.drop 28 := by
    rw [← List.drop_drop (i := 11) (j := 28), List.take_append_drop]
  have h3 : (r.drop 16).take 12 ++ r.drop 28 = r.drop 16 := by
    rw [← List.drop_drop (i := 12) (j := 16), List.take_append_drop]
  rw [h1, h2, h3, List.take_append_drop]

/-- What the decoder's loads deliver, and what is left behind the header. -/
theorem Pp2Parts.loads {b : Skb} {hdr addrs tlv1 tlv2 rest : List UInt8} (hok : b.Ok)
    (h : Pp2Parts b.readable hdr addrs tlv1 tlv2 rest) :
    (skb_get b 16).1 = hdr ∧ (skb_get (skb_rd_forward b 28) 11).1 = tlv1 ∧
      (skb_get (skb_rd_forward b 39) 7).1 = tlv2 ∧ skb_rdsz b = PP2_HEADER_LEN + rest.length ∧
      skb_rdsz (skb_rd_forward b 46) = rest.length := by
  obtain ⟨hhdr, haddrs, htlv1, htlv2, hbytes⟩ := h
  have hlen := hok.length_readable_eq
  rw [hbytes] at hlen
  simp only [List.length_append, hhdr, haddrs, htlv1, htlv2] at hlen
  have hheader : PP2_HEADER_LEN = 46 := rfl
  have hload1 := @Skb.Ok.get_bytes_of_append _ hok (hdr ++ addrs) _ _ (by rw [List.append_assoc]; exact hbytes)
  have hload2 := @Skb.Ok.get_bytes_of_append _ hok (hdr ++ addrs ++ tlv1) _ _
    (by rw [List.append_assoc, List.append_assoc]; exact hbytes)
  simp only [List.length_append, hhdr, haddrs, htlv1, htlv2] at hload1 hload2
  refine ⟨?_, hload1, hload2, by omega, ?_⟩
  · rw [hok.get_bytes (by omega), hbytes, ← hhdr, List.take_left]
  · rw [hok.rdsz_rd_forward (by omega)]
    omega

/-- An accepted header in parts. -/
theorem Pp2Accepted.parts {r : List UInt8} {hash : UInt64} {len : Nat} {rest : List UInt8}
    (h : Pp2Accepted r hash len rest) :
    ∃ field addrs, field.length = 2 ∧
      Pp2Parts r (pp2_sig_ver_cmd_fam ++ field) addrs ([PP2_TYPE_CONNHASH, 0, 8] ++ Bytes.le 8 hash.toNat)
        ([PP2_TYPE_PAYLOADLEN, 0, 4] ++ Bytes.le 4 len) rest := by
  obtain ⟨field, addrs, hfield, haddrs, hbytes⟩ := h.bytes
  refine ⟨field, addrs, hfield, ?_, haddrs, by simp, by simp, ?_⟩
  · rw [List.length_append, hfield]
    rfl
  · rw [hbytes]
    simp only [pp2HeaderBytes, List.append_assoc]

theorem pp2_get_connhash_of_tlv {b : Skb} {hash : UInt64} (hlt : hash.toNat < 9223372036854775808)
    (hload : (skb_get b 11).1 = [PP2_TYPE_CONNHASH, 0, 8] ++ Bytes.le 8 hash.toNat) :
    pp2_get_connhash b = ((hash.toNat : Int), skb_rd_forward b 11) := by
  have htlv : ([PP2_TYPE_CONNHASH, 0, 8] ++ Bytes.le 8 hash.toNat).take 3 = [PP2_TYPE_CONNHASH, 0, 8] := rfl
  have hval : ([PP2_TYPE_CONNHASH, 0, 8] ++ Bytes.le 8 hash.toNat).drop 3 = Bytes.le 8 hash.toNat := rfl
  unfold pp2_get_connhash
  simp only [Nat.reduceAdd, hload, htlv, hval, ne_eq, not_true_eq_false, if_false]
  rw [Bytes.leVal_le_of_lt (by simpa using hash.toNat_lt), i64_of_lt hlt, Skb.get_snd]

theorem pp2_get_payloadlen_of_tlv {b : Skb} {len : Nat} (hlt : len < 2147483648)
    (hload : (skb_get b 7).1 = [PP2_TYPE_PAYLOADLEN, 0, 4] ++ Bytes.le 4 len) :
    pp2_get_payloadlen b = ((len : Int), skb_rd_forward b 7) := by
  have htlv : ([PP2_TYPE_PAYLOADLEN, 0, 4] ++ Bytes.le 4 len).take 3 = [PP2_TYPE_PAYLOADLEN, 0, 4] := rfl
  have hval : ([PP2_TYPE_PAYLOADLEN, 0, 4] ++ Bytes.le 4 len).drop 3 = Bytes.le 4 len := rfl
  unfold pp2_get_payloadlen
  simp only [Nat.reduceAdd, hload, htlv, hval, ne_eq, not_true_eq_false, if_false]
  rw [Bytes.leVal_le_of_lt (by omega), i32_of_lt hlt, Skb.get_snd]

/-- A hash which decodes to a value that is no error was put by `pp2_put_connhash`. -/
theorem pp2_get_connhash_nonneg {b : Skb} (h : ¬ (pp2_get_connhash b).1 < 0) :
    ∃ hash : UInt64, hash.toNat < 9223372036854775808 ∧
      (skb_get b 11).1 = [PP2_TYPE_CONNHASH, 0, 8] ++ Bytes.le 8 hash.toNat := by
  unfold pp2_get_connhash at h
  by_cases htlv : (skb_get b (3 + 8)).1.take 3 ≠ [PP2_TYPE_CONNHASH, 0, 8]
  · simp only [if_pos htlv] at h
    exact absurd (by decide) h
  · simp only [if_neg htlv] at h
    have hlen : ((skb_get b (3 + 8)).1.drop 3).length = 8 := by simp [skb_get]
    have hval := Bytes.leVal_lt ((skb_get b (3 + 8)).1.drop 3)
    have hbytes := Bytes.le_leVal ((skb_get b (3 + 8)).1.drop 3)
    rw [hlen] at hval hbytes
    have hnat : (UInt64.ofNat (Bytes.leVal ((skb_get b (3 + 8)).1.drop 3))).toNat =
        Bytes.leVal ((skb_get b (3 + 8)).1.drop 3) := UInt64.toNat_ofNat_of_lt' (by simpa using hval)
    refine ⟨UInt64.ofNat (Bytes.leVal ((skb_get b (3 + 8)).1.drop 3)), ?_, ?_⟩
    · rw [hnat]
      exact (i64_nonneg_iff (by simpa using hval)).mp (by omega)
    · rw [hnat, hbytes, ← not_not.mp htlv, List.take_append_drop]

theorem pp2_get_payloadlen_nonneg {b : Skb} (h : ¬ (pp2_get_payloadlen b).1 < 0) :
    ∃ len, len < 2147483648 ∧ (skb_get b 7).1 = [PP2_TYPE_PAYLOADLEN, 0, 4] ++ Bytes.le 4 len := by
  unfold pp2_get_payloadlen at h
  by_cases htlv : (skb_get b (3 + 4)).1.take 3 ≠ [PP2_TYPE_PAYLOADLEN, 0, 4]
  · simp only [if_pos htlv] at h
    exact absurd (by decide) h
  · simp only [if_neg htlv] at h
    have hlen : ((skb_get b (3 + 4)).1.drop 3).length = 4 := by simp [skb_get]
    have hval := Bytes.leVal_lt ((skb_get b (3 + 4)).1.drop 3)
    have hbytes := Bytes.le_leVal ((skb_get b (3 + 4)).1.drop 3)
    rw [hlen] at hval hbytes
    refine ⟨Bytes.leVal ((skb_get b (3 + 4)).1.drop 3), (i32_nonneg_iff (by simpa using hval)).mp (by omega), ?_⟩
    rw [hbytes, ← not_not.mp htlv, List.take_append_drop]

/-- Too few bytes for a header and a byte behind it. -/
theorem pp2_decode_frame_short {m : Mux} (h : skb_rdsz m.pp2sk.recvbuf ≤ PP2_HEADER_LEN) :
    pp2_decode_frame m = .ok (-1, { m with wsd_errno := .WSD_EINPUT }) :=
  if_pos h

/-- An accepted header either waits for its payload with everything as it was,
    or has the payload delivered. -/
theorem pp2_decode_frame_accepted {m : Mux} (hok : m.pp2sk.recvbuf.Ok) {hash : UInt64} {len : Nat}
    {rest : List UInt8} (h : Pp2Accepted m.pp2sk.recvbuf.readable hash len rest) (hne : rest ≠ []) :
    pp2_decode_frame m =
      if rest.length < len then
        .ok (-1, { m with wsd_errno := .WSD_EAGAIN })
      else
        pp2_decode_payload m (skb_rd_forward m.pp2sk.recvbuf PP2_HEADER_LEN) hash len := by
  obtain ⟨field, addrs, hfield, hparts⟩ := h.parts
  obtain ⟨hload, hload1, hload2, hsize, hleft⟩ := hparts.loads hok
  have hpos : 0 < rest.length := List.length_pos_iff.mpr hne
  have hheader : PP2_HEADER_LEN = 46 := rfl
  have hhash := pp2_get_connhash_of_tlv h.hash_lt hload1
  have hlen := pp2_get_payloadlen_of_tlv h.len_lt hload2
  have hsig : (pp2_sig_ver_cmd_fam ++ field).take 12 = pp2_sig := rfl
  have hver : (pp2_sig_ver_cmd_fam ++ field).getD 12 0 = 0x21 := rfl
  have hfam : (pp2_sig_ver_cmd_fam ++ field).getD 13 0 = 0x11 := rfl
  unfold pp2_decode_frame
  rw [if_neg (by omega)]
  simp only [hload, hsig, hver, hfam, ne_eq, not_true_eq_false, if_false, Skb.get_snd,
    Skb.rd_forward_rd_forward, PP2_ADDR_LEN, Nat.reduceAdd, hhash, hlen, hleft, Int.toNat_natCast,
    UInt64.ofNat_toNat]
  rw [if_neg (by decide), if_neg (by omega), if_neg (by omega)]
  rfl

/-- A complete frame whose bucket lies behind the table makes the lookup read there. -/
theorem pp2_decode_frame_far {m : Mux} (hok : m.pp2sk.recvbuf.Ok) {hash : UInt64} {len : Nat}
    {rest : List UInt8} (h : Pp2Accepted m.pp2sk.recvbuf.readable hash len rest) (hne : rest ≠ [])
    (hlen : len ≤ rest.length) (hfar : ¬ hash_min hash < HASH_SIZE) :
    pp2_decode_frame m = .error .out_of_bounds := by
  rw [pp2_decode_frame_accepted hok h hne, if_neg (by omega)]
  unfold pp2_decode_payload
  rw [hash_lookup_of_far hfar]
  rfl

/-- Any other header is rejected with everything as it was. -/
theorem pp2_decode_frame_rejected {m : Mux} (hok : m.pp2sk.recvbuf.Ok)
    (hsize : PP2_HEADER_LEN < skb_rdsz m.pp2sk.recvbuf)
    (h : ¬ ∃ hash len rest, Pp2Accepted m.pp2sk.recvbuf.readable hash len rest) :
    pp2_decode_frame m = .ok (-1, { m with wsd_errno := .WSD_ENUM }) := by
  obtain ⟨hdr, addrs, tlv1, tlv2, rest, hparts⟩ := exists_pp2Parts (r := m.pp2sk.recvbuf.readable)
    (by rw [hok.length_readable_eq]; omega)
  obtain ⟨hload, hload1, hload2, -, hleft⟩ := hparts.loads hok
  unfold pp2_decode_frame
  rw [if_neg (by omega)]
  simp only [hload, Skb.get_snd, Skb.rd_forward_rd_forward, PP2_ADDR_LEN, Nat.reduceAdd]
  by_cases hsig : hdr.take 12 ≠ pp2_sig
  · rw [if_pos hsig]
    rfl
  rw [if_neg hsig]
  by_cases hver : PP2_VER_BITS (hdr.getD 12 0) ≠ 2 ∨ PP2_CMD_BITS (hdr.getD 12 0) ≠ 1 ∨
      PP2_FAM_BITS (hdr.getD 13 0) ≠ 1 ∨ PP2_PROTO_BITS (hdr.getD 13 0) ≠ 1
  · rw [if_pos hver]
    rfl
  rw [if_neg hver]
  by_cases hhash : (pp2_get_connhash (skb_rd_forward m.pp2sk.recvbuf 28)).1 < 0
  · rw [if_pos hhash]
    have hskb : (pp2_get_connhash (skb_rd_forward m.pp2sk.recvbuf 28)).2 = skb_rd_forward m.pp2sk.recvbuf 28 ∨
        (pp2_get_connhash (skb_rd_forward m.pp2sk.recvbuf 28)).2 = skb_rd_forward m.pp2sk.recvbuf 39 := by
      unfold pp2_get_connhash
      simp only
      split
      · exact Or.inl rfl
      · exact Or.inr (Skb.rd_forward_rd_forward _ _ _)
    obtain hskb | hskb := hskb <;> rw [hskb] <;> rfl
  rw [if_neg hhash]
  obtain ⟨hash, hhash_lt, htlv1⟩ := pp2_get_connhash_nonneg hhash
  rw [pp2_get_connhash_of_tlv hhash_lt htlv1]
  simp only [Skb.rd_forward_rd_forward, Nat.reduceAdd]
  by_cases hlen : (pp2_get_payloadlen (skb_rd_forward m.pp2sk.recvbuf 39)).1 < 0
  · rw [if_pos hlen]
    have hskb : (pp2_get_payloadlen (skb_rd_forward m.pp2sk.recvbuf 39)).2 = skb_rd_forward m.pp2sk.recvbuf 39 ∨
        (pp2_get_payloadlen (skb_rd_forward m.pp2sk.recvbuf 39)).2 = skb_rd_forward m.pp2sk.recvbuf 46 := by
      unfold pp2_get_payloadlen
      simp only
      split
      · exact Or.inl rfl
      · exact Or.inr (Skb.rd_forward_rd_forward _ _ _)
    obtain hskb | hskb := hskb <;> rw [hskb] <;> rfl
  exfalso
  obtain ⟨len, hlen_lt, htlv2⟩ := pp2_get_payloadlen_nonneg hlen
  rw [hload1] at htlv1
  rw [hload2] at htlv2
  refine h ⟨hash, len, rest, hhash_lt, hlen_lt, hdr.drop 14, addrs, ?_, hparts.addrs_len, ?_⟩
  · rw [List.length_drop, hparts.hdr_len]
  · have hhdr_len := hparts.hdr_len
    have hsplit : hdr = hdr.take 12 ++ [hdr.getD 12 0, hdr.getD 13 0] ++ hdr.drop 14 := by
      have hdrop12 := List.drop_eq_getElem_cons (show 12 < hdr.length by omega)
      have hdrop13 := List.drop_eq_getElem_cons (show 13 < hdr.length by omega)
      have hwhole := List.take_append_drop 12 hdr
      rw [hdrop12, hdrop13] at hwhole
      simp only [List.getD_eq_getElem?_getD, List.getElem?_eq_getElem (show 12 < hdr.length by omega),
        List.getElem?_eq_getElem (show 13 < hdr.length by omega), Option.getD_some, List.append_assoc]
      exact hwhole.symm
    push Not at hver
    have hver_cmd := (ver_cmd_iff _).mp ⟨hver.1, hver.2.1⟩
    have hfam := (fam_iff _).mp hver.2.2
    rw [not_not.mp hsig, hver_cmd, hfam] at hsplit
    rw [hparts.bytes, htlv1, htlv2, hsplit]
    simp only [pp2HeaderBytes, pp2_sig_ver_cmd_fam, List.append_assoc]
    rfl

/-- A header states its hash and its payload length without ambiguity. -/
theorem pp2HeaderBytes_inj {field field' addrs addrs' rest rest' : List UInt8} {hash hash' len len' : Nat}
    (hfield : field.length = field'.length) (haddrs : addrs.length = addrs'.length)
    (hhash : hash < 18446744073709551616) (hhash' : hash' < 18446744073709551616)
    (hlen : len < 4294967296) (hlen' : len' < 4294967296)
    (heq : pp2HeaderBytes field addrs hash len ++ rest = pp2HeaderBytes field' addrs' hash' len' ++ rest') :
    hash = hash' ∧ len = len' ∧ rest = rest' := by
  simp only [pp2HeaderBytes, List.append_assoc] at heq
  have htail := (List.append_inj (List.append_cancel_left heq) hfield).2
  have htlvs := (List.append_inj htail haddrs).2
  obtain ⟨hbytes, htail⟩ := List.append_inj (List.append_cancel_left htlvs) (by simp)
  obtain ⟨hbytes', hrest⟩ := List.append_inj (List.append_cancel_left htail) (by simp)
  exact ⟨Bytes.le_inj hhash hhash' hbytes, Bytes.le_inj hlen hlen' hbytes', hrest⟩

theorem Pp2Accepted.unique {r : List UInt8} {hash hash' : UInt64} {len len' : Nat} {rest rest' : List UInt8}
    (h : Pp2Accepted r hash len rest) (h' : Pp2Accepted r hash' len' rest') :
    hash = hash' ∧ len = len' ∧ rest = rest' := by
  obtain ⟨field, addrs, hfield, haddrs, hbytes⟩ := h.bytes
  obtain ⟨field', addrs', hfield', haddrs', hbytes'⟩ := h'.bytes
  have hlen := h.len_lt
  have hlen' := h'.len_lt
  have hinj := pp2HeaderBytes_inj (hfield.trans hfield'.symm) (haddrs.trans haddrs'.symm) hash.toNat_lt
    hash'.toNat_lt (by omega) (by omega) (hbytes.symm.trans hbytes')
  exact ⟨UInt64.toNat_inj.mp hinj.1, hinj.2⟩

/-- The encoder's header in the decoder's terms. -/
theorem pp2Header_eq (src dst : SockaddrIn) (hash : UInt64) (payload_len : Nat) :
    pp2Header src dst hash payload_len =
      pp2HeaderBytes (Bytes.be 2 PP2_ADDR_TLVS_LEN)
        (Bytes.le 4 src.sin_addr.toNat ++ Bytes.le 4 dst.sin_addr.toNat ++ Bytes.le 2 src.sin_port.toNat ++
          Bytes.le 2 dst.sin_port.toNat) hash.toNat payload_len := by
  simp only [pp2Header, pp2HeaderBytes, List.append_assoc]

theorem Pp2Accepted.length {r : List UInt8} {hash : UInt64} {len : Nat} {rest : List UInt8}
    (h : Pp2Accepted r hash len rest) : r.length = PP2_HEADER_LEN + rest.length := by
  obtain ⟨field, addrs, -, hparts⟩ := h.parts
  rw [hparts.bytes]
  simp only [List.length_append, hparts.hdr_len, hparts.addrs_len, hparts.tlv1_len, hparts.tlv2_len]
  have hheader : PP2_HEADER_LEN = 46 := rfl
  omega

/-- Behind an accepted header the rest of the bytes is readable. -/
theorem Pp2Accepted.readable_rd_forward {b : Skb} (hok : b.Ok) {hash : UInt64} {len : Nat} {rest : List UInt8}
    (h : Pp2Accepted b.readable hash len rest) :
    (skb_rd_forward b PP2_HEADER_LEN).Ok ∧ (skb_rd_forward b PP2_HEADER_LEN).readable = rest := by
  have hlen := h.length
  rw [hok.length_readable_eq] at hlen
  obtain ⟨field, addrs, hfield, haddrs, hbytes⟩ := h.bytes
  have hheader : (pp2HeaderBytes field addrs hash.toNat len).length = PP2_HEADER_LEN := by
    simp only [pp2HeaderBytes, List.length_append, hfield, haddrs, Bytes.length_le]
    rfl
  refine ⟨hok.rd_forward (by omega), ?_⟩
  rw [hok.readable_rd_forward (by omega), hbytes, ← hheader, List.drop_left]

theorem hash_for_each_possible_in_bounds (clients : Nat → Option Sk) (hash : UInt64) (chain : List Nat) :
    hash_for_each_possible clients hash chain ≠ .error .out_of_bounds := by
  induction chain with
  | nil => simp [hash_for_each_possible]
  | cons id chain ih =>
    unfold hash_for_each_possible
    split
    · simp
    · split
      · simp
      · exact ih

theorem encode_frame_in_bounds (handler : Option EncodeFrame) (c : Conn) (wsf : WsFrame) :
    encode_frame handler c wsf ≠ .error .out_of_bounds := by
  rcases handler with _ | _ | _
  · simp [encode_frame]
  · change ws_encode_frame c wsf ≠ _
    unfold ws_encode_frame
    generalize ws_calculate_frame_length wsf.payload_len c.wsd_errno = calculated
    obtain ⟨frame_len, e⟩ := calculated
    intro h
    obtain h | ⟨_, -, h⟩ := Except.bind_eq_error_iff.mp h
    · cases (assert_eq_error_iff.mp h).2
    by_cases hfull : (skb_wrsz c.sk.sendbuf : Int) < frame_len
    · rw [if_pos hfull] at h
      cases h
    rw [if_neg hfull] at h
    obtain h | ⟨_, -, h⟩ := Except.bind_eq_error_iff.mp h
    · cases (assert_eq_error_iff.mp h).2
    · cases h
  · change pp2_encode_frame c wsf ≠ _
    unfold pp2_encode_frame
    split <;> simp [Except.pure_eq_ok]

/-- Nothing else of the decoder reads or writes behind an array. -/
theorem pp2_decode_frame_out_of_bounds {m : Mux} (hok : m.pp2sk.recvbuf.Ok)
    (h : pp2_decode_frame m = .error .out_of_bounds) :
    ∃ hash len rest, Pp2Accepted m.pp2sk.recvbuf.readable hash len rest ∧ len ≤ rest.length ∧ rest ≠ [] ∧
      ¬ hash_min hash < HASH_SIZE := by
  by_cases hshort : skb_rdsz m.pp2sk.recvbuf ≤ PP2_HEADER_LEN
  · rw [pp2_decode_frame_short hshort] at h
    cases h
  by_cases haccepted : ∃ hash len rest, Pp2Accepted m.pp2sk.recvbuf.readable hash len rest
  · obtain ⟨hash, len, rest, haccepted⟩ := haccepted
    have hlength := haccepted.length
    rw [hok.length_readable_eq] at hlength
    have hne : rest ≠ [] := by
      rw [← List.length_pos_iff]
      omega
    rw [pp2_decode_frame_accepted hok haccepted hne] at h
    by_cases hlen : rest.length < len
    · rw [if_pos hlen] at h
      cases h
    rw [if_neg hlen] at h
    refine ⟨hash, len, rest, haccepted, by omega, hne, fun hnear => ?_⟩
    unfold pp2_decode_payload at h
    rw [hash_lookup_of_near hnear] at h
    obtain h | ⟨found, -, h⟩ := Except.bind_eq_error_iff.mp h
    · exact hash_for_each_possible_in_bounds _ _ _ h
    cases found with
    | none => cases h
    | some found =>
      obtain h | ⟨_, -, h⟩ := Except.bind_eq_error_iff.mp h
      · exact encode_frame_in_bounds _ _ _ h
      · cases h
  · rw [pp2_decode_frame_rejected hok (by omega) haccepted] at h
    cases h

/-- A payload for an upgraded client whose send buffer passes the capacity check is put
    there as one frame; exactly its bytes leave the backend's receive buffer. -/
theorem pp2_decode_payload_put {m : Mux} {recvbuf : Skb} {hash : UInt64} {len id : Nat} {cln_sk : Sk}
    (hok : recvbuf.Ok) (hlen : len ≤ skb_rdsz recvbuf)
    (hlookup : hash_lookup m.clients m.sk_hash hash = .ok (some (id, cln_sk)))
    (hencode : cln_sk.proto.encode_frame = some .ws_encode_frame) (hsend : cln_sk.sendbuf.Ok)
    (hpass : frameLen len ≤ skb_wrsz cln_sk.sendbuf)
    (hheader : 1 + (payloadLenBytes len).length ≤ skb_wrsz cln_sk.sendbuf) :
    pp2_decode_payload m recvbuf hash len = .ok (0, { m with
      clients := Function.update m.clients id (some { cln_sk with
        sendbuf := skb_put cln_sk.sendbuf (wsFrame (recvbuf.readable.take len))
        events := encodeEvents cln_sk.events m.pp2sk.events })
      pp2sk := { m.pp2sk with recvbuf := skb_compact (skb_get recvbuf len).2 } }) := by
  have heq := @ws_encode_frame_eq { sk := cln_sk, pp2sk := { m.pp2sk with recvbuf }, wsd_errno := m.wsd_errno }
      { payload_len := len } hsend hok rfl hlen hpass hheader
  unfold pp2_decode_payload
  rw [hlookup]
  simp only [Except.ok_bind, hencode, encode_frame, heq, Except.pure_eq_ok]

theorem pp2_decode_payload_room {m : Mux} {recvbuf : Skb} {hash : UInt64} {len id : Nat} {cln_sk : Sk}
    (hok : recvbuf.Ok) (hlen : len ≤ skb_rdsz recvbuf)
    (hlookup : hash_lookup m.clients m.sk_hash hash = .ok (some (id, cln_sk)))
    (hencode : cln_sk.proto.encode_frame = some .ws_encode_frame) (hsend : cln_sk.sendbuf.Ok)
    (hroom : (wsFrame (recvbuf.readable.take len)).length ≤ skb_wrsz cln_sk.sendbuf) :
    pp2_decode_payload m recvbuf hash len = .ok (0, { m with
      clients := Function.update m.clients id (some { cln_sk with
        sendbuf := skb_put cln_sk.sendbuf (wsFrame (recvbuf.readable.take len))
        events := encodeEvents cln_sk.events m.pp2sk.events })
      pp2sk := { m.pp2sk with recvbuf := skb_compact (skb_get recvbuf len).2 } }) := by
  have htake : (recvbuf.readable.take len).length = len := by
    rw [List.length_take, hok.length_readable_eq]
    omega
  have hcheck := frameLen_lt_length_wsFrame (recvbuf.readable.take len)
  rw [htake] at hcheck
  apply pp2_decode_payload_put hok hlen hlookup hencode hsend (by omega)
  rw [length_wsFrame, htake] at hroom
  rw [length_payloadLenBytes]
  omega

/-- The decoder succeeds, hands exactly the payload to the client at `id`, and
    leaves exactly `rest` to read; no other client changes. -/
def Delivers (m : Mux) (id : Nat) (cln_sk : Sk) (payload rest : List UInt8) : Prop :=
  ∃ m' sendbuf events, pp2_decode_frame m = .ok (0, m') ∧
    m'.clients = Function.update m.clients id (some { cln_sk with sendbuf, events }) ∧
    sendbuf.Ok ∧ sendbuf.readable = cln_sk.sendbuf.readable ++ wsFrame payload ∧
    m'.pp2sk.recvbuf.Ok ∧ m'.pp2sk.recvbuf.readable = rest ∧ m'.pp2sk.sendbuf = m.pp2sk.sendbuf

theorem Delivers.returns {m : Mux} {id : Nat} {cln_sk : Sk} {payload rest : List UInt8}
    (h : Delivers m id cln_sk payload rest) : ∃ m', pp2_decode_frame m = .ok (0, m') := by
  obtain ⟨m', -, -, hdecode, -⟩ := h
  exact ⟨m', hdecode⟩

/-- The payload behind an accepted header is delivered to an upgraded client with
    room for it. -/
theorem Pp2Accepted.delivers {m : Mux} {hash : UInt64} {len : Nat} {rest : List UInt8} {id : Nat} {cln_sk : Sk}
    (h : Pp2Accepted m.pp2sk.recvbuf.readable hash len rest) (hok : m.pp2sk.recvbuf.Ok) (hne : rest ≠ [])
    (hlen : len ≤ rest.length)
    (hlookup : hash_lookup m.clients m.sk_hash hash = .ok (some (id, cln_sk)))
    (hencode : cln_sk.proto.encode_frame = some .ws_encode_frame) (hsend : cln_sk.sendbuf.Ok)
    (hroom : (wsFrame (rest.take len)).length ≤ skb_wrsz cln_sk.sendbuf) :
    Delivers m id cln_sk (rest.take len) (rest.drop len) := by
  obtain ⟨hok', hread'⟩ := h.readable_rd_forward hok
  have hdecode := pp2_decode_frame_accepted hok h hne
  rw [if_neg (by omega)] at hdecode
  have hleft : len ≤ skb_rdsz (skb_rd_forward m.pp2sk.recvbuf PP2_HEADER_LEN) := by
    rwa [← hok'.length_readable_eq, hread']
  have hpayload := pp2_decode_payload_room (m := m) hok' hleft hlookup hencode hsend (by rwa [hread'])
  rw [hread'] at hpayload
  refine ⟨_, _, _, hdecode.trans hpayload, rfl, hsend.put hroom, hsend.readable_put hroom,
    (hok'.get hleft).compact, ?_, rfl⟩
  simp only
  rw [(hok'.get hleft).readable_compact, hok'.readable_get hleft, hread']

/-- Without room for the payload in the client's send buffer, the read position
    stays behind the header. -/
theorem pp2_decode_payload_full {m : Mux} {recvbuf : Skb} {hash : UInt64} {len id : Nat} {cln_sk : Sk}
    (hlen : len ≤ SKB_SIZE)
    (hlookup : hash_lookup m.clients m.sk_hash hash = .ok (some (id, cln_sk)))
    (hencode : cln_sk.proto.encode_frame = some .ws_encode_frame)
    (hfull : skb_wrsz cln_sk.sendbuf < frameLen len) :
    pp2_decode_payload m recvbuf hash len = .ok (-1, { m.setRecvbuf recvbuf with
      clients := Function.update m.clients id (some cln_sk)
      wsd_errno := .WSD_EAGAIN }) := by
  have heq := @ws_encode_frame_full { sk := cln_sk, pp2sk := { m.pp2sk with recvbuf }, wsd_errno := m.wsd_errno }
      { payload_len := len } hlen hfull
  unfold pp2_decode_payload
  rw [hlookup]
  simp only [Except.ok_bind, hencode, encode_frame, heq, Except.pure_eq_ok, Mux.setRecvbuf]

end wsd
