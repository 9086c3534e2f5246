import Wsd.Pp2.Isolation

namespace wsd

/-- A payload is only refused for want of room in the client's send buffer. -/
theorem pp2_decode_payload_errno {m m' : Mux} {recvbuf : Skb} {hash : UInt64} {len : Nat} {rv : Int}
    (h : pp2_decode_payload m recvbuf hash len = .ok (rv, m')) : rv = 0 ∨ rv = -1 ∧ m'.wsd_errno = .WSD_EAGAIN := by
  unfold pp2_decode_payload at h
  obtain ⟨found, -, h⟩ := Except.bind_eq_ok_iff.mp h
  cases found with
  | none =>
    cases h
    exact .inl rfl
  | some found =>
    obtain ⟨⟨rv', c⟩, hencoded, hret⟩ := Except.bind_eq_ok_iff.mp h
    cases hret
    exact encode_frame_errno hencoded

/-- The bytes are laid out as a header, whatever the values of its fields. -/
structure Pp2Layout (bytes field addrs : List UInt8) (hash len : Nat) : Prop where
  field_len : field.length = 2
  addrs_len : addrs.length = PP2_ADDR_LEN
  hash_lt : hash < 18446744073709551616
  len_lt : len < 2147483648
  bytes : bytes = pp2HeaderBytes field addrs hash len

/-- The encoder puts these bytes for some addresses, ports, hash and payload length. -/
def Pp2Encodes (bytes : List UInt8) : Prop :=
  ∃ (buf : Skb) (src dst : SockaddrIn) (hash : UInt64) (payload_len : Nat), payload_len < 2147483648 ∧ buf.Ok ∧
    PP2_HEADER_LEN ≤ skb_wrsz buf ∧ buf.Appended bytes (pp2_encode_header buf src dst hash payload_len)

section Layout

variable {bytes field addrs : List UInt8} {hash len : Nat}

theorem length_pp2HeaderBytes (hfield : field.length = 2) (haddrs : addrs.length = PP2_ADDR_LEN) :
    (pp2HeaderBytes field addrs hash len).length = PP2_HEADER_LEN := by
  simp only [pp2HeaderBytes, List.length_append, hfield, haddrs, Bytes.length_le]
  rfl

/-- Twelve bytes are the two addresses and the two ports of some endpoints. -/
theorem exists_endpoints (haddrs : addrs.length = PP2_ADDR_LEN) :
    ∃ src dst : SockaddrIn, addrs = Bytes.le 4 src.sin_addr.toNat ++ Bytes.le 4 dst.sin_addr.toNat ++
      Bytes.le 2 src.sin_port.toNat ++ Bytes.le 2 dst.sin_port.toNat := by
  have hfour (bs : List UInt8) (hlen : bs.length = 4) : Bytes.le 4 (UInt32.ofNat (Bytes.leVal bs)).toNat = bs := by
    have hlt := Bytes.leVal_lt bs
    have hval := Bytes.le_leVal bs
    rw [hlen] at hlt hval
    rwa [UInt32.toNat_ofNat_of_lt' (by simpa using hlt)]
  have htwo (bs : List UInt8) (hlen : bs.length = 2) : Bytes.le 2 (UInt16.ofNat (Bytes.leVal bs)).toNat = bs := by
    have hlt := Bytes.leVal_lt bs
    have hval := Bytes.le_leVal bs
    rw [hlen] at hlt hval
    rwa [UInt16.toNat_ofNat_of_lt' (by simpa using hlt)]
  have hlen : addrs.length = 12 := haddrs
  refine ⟨⟨.ofNat (Bytes.leVal (addrs.take 4)), .ofNat (Bytes.leVal ((addrs.drop 8).take 2))⟩,
    ⟨.ofNat (Bytes.leVal ((addrs.drop 4).take 4)), .ofNat (Bytes.leVal (addrs.drop 10))⟩, ?_⟩
  rw [hfour _ (by simp [hlen]), hfour _ (by simp [hlen]), htwo _ (by simp [hlen]), htwo _ (by simp [hlen])]
  match addrs, hlen with
  | [_, _, _, _, _, _, _, _, _, _, _, _], _ => rfl

/-- The encoder's headers are those whose length field states the 30 bytes of addresses and
    records. -/
theorem pp2Encodes_iff (hlen : bytes.length = PP2_HEADER_LEN) :
    Pp2Encodes bytes ↔ ∃ addrs hash len, Pp2Layout bytes (Bytes.be 2 PP2_ADDR_TLVS_LEN) addrs hash len := by
  constructor
  · rintro ⟨buf, src, dst, hash, payload_len, hlt, hok, hroom, happended⟩
    have hheader : (pp2Header src dst hash payload_len).length ≤ skb_wrsz buf := by rwa [length_pp2Header]
    have hread := happended.readable hok
    rw [pp2_encode_header_eq _ _ _ _ hok hroom, hok.readable_put hheader] at hread
    have hbytes := (List.append_cancel_left hread).symm
    rw [pp2Header_eq] at hbytes
    exact ⟨_, hash.toNat, payload_len, by simp, by simp [PP2_ADDR_LEN], hash.toNat_lt, hlt, hbytes⟩
  · rintro ⟨addrs, hash, len, hlayout⟩
    obtain ⟨src, dst, haddrs⟩ := exists_endpoints hlayout.addrs_len
    have hnat : (UInt64.ofNat hash).toNat = hash := UInt64.toNat_ofNat_of_lt' (by simpa using hlayout.hash_lt)
    refine ⟨Skb.zero, src, dst, .ofNat hash, len, hlayout.len_lt, Skb.ok_zero, by decide, ?_, by rw [hlen]; decide⟩
    rw [pp2_encode_header_eq _ _ _ _ Skb.ok_zero (by decide), pp2Header_eq, hnat, hlayout.bytes, haddrs]

theorem Pp2Accepted.layout {r rest : List UInt8} {hash : UInt64} (h : Pp2Accepted r hash len rest) :
    ∃ field addrs, Pp2Layout (r.take PP2_HEADER_LEN) field addrs hash.toNat len := by
  obtain ⟨field, addrs, hfield, haddrs, hbytes⟩ := h.bytes
  refine ⟨field, addrs, hfield, haddrs, hash.toNat_lt, h.len_lt, ?_⟩
  rw [hbytes, List.take_left' (length_pp2HeaderBytes hfield haddrs)]

theorem Pp2Layout.accepted {r : List UInt8} (h : Pp2Layout (r.take PP2_HEADER_LEN) field addrs hash len)
    (hlt : hash < 9223372036854775808) : Pp2Accepted r (.ofNat hash) len (r.drop PP2_HEADER_LEN) := by
  have hnat : (UInt64.ofNat hash).toNat = hash := UInt64.toNat_ofNat_of_lt' (by simpa using h.hash_lt)
  refine ⟨by rwa [hnat], h.len_lt, field, addrs, h.field_len, h.addrs_len, ?_⟩
  rw [hnat, ← h.bytes, List.take_append_drop]

/-- An accepted header is one whose hash is not negative as a signed number. -/
theorem pp2Accepted_iff_layout (r : List UInt8) :
    (∃ hash len rest, Pp2Accepted r hash len rest) ↔
      ∃ field addrs hash len, Pp2Layout (r.take PP2_HEADER_LEN) field addrs hash len ∧ hash < 9223372036854775808 := by
  constructor
  · rintro ⟨hash, len, rest, haccepted⟩
    obtain ⟨field, addrs, hlayout⟩ := haccepted.layout
    exact ⟨field, addrs, hash.toNat, len, hlayout, haccepted.hash_lt⟩
  · rintro ⟨field, addrs, hash, len, hlayout, hlt⟩
    exact ⟨_, _, _, hlayout.accepted hlt⟩

/-- The fields of a header are determined. -/
theorem Pp2Layout.unique {field' addrs' : List UInt8} {hash' len' : Nat} (h : Pp2Layout bytes field addrs hash len)
    (h' : Pp2Layout bytes field' addrs' hash' len') : field = field' ∧ hash = hash' := by
  have heq := h.bytes.symm.trans h'.bytes
  have hlen := h.len_lt
  have hlen' := h'.len_lt
  have hinj := @pp2HeaderBytes_inj field field' addrs addrs' [] [] hash hash' len len'
    (h.field_len.trans h'.field_len.symm) (h.addrs_len.trans h'.addrs_len.symm) h.hash_lt h'.hash_lt (by omega)
    (by omega) (by rw [heq])
  simp only [pp2HeaderBytes, List.append_assoc] at heq
  exact ⟨(List.append_inj (List.append_cancel_left heq) (h.field_len.trans h'.field_len.symm)).1, hinj.1⟩

end Layout

/-- The decoder fails as it does for bytes which are no header. -/
def Pp2Rejects (m : Mux) : Prop :=
  ∃ m', pp2_decode_frame m = .ok (-1, m') ∧ m'.wsd_errno = .WSD_ENUM

/-- The decoder accepts the first 46 bytes exactly if the encoder can have put them, and where it
    rejects them its read position stays. -/
structure Pp2Faithful (m : Mux) : Prop where
  accepts : ¬ Pp2Rejects m ↔ Pp2Encodes (m.pp2sk.recvbuf.readable.take PP2_HEADER_LEN)
  keeps {m' : Mux} : pp2_decode_frame m = .ok (-1, m') → m'.wsd_errno = .WSD_ENUM →
    m'.pp2sk.recvbuf.rdpos = m.pp2sk.recvbuf.rdpos

/-- Of the bytes which are laid out as a header, those with the right length field are those with
    a hash below 2^63; and bytes behind which nothing follows are laid out as a header of 30. -/
def Pp2Agreed (m : Mux) : Prop :=
  if skb_rdsz m.pp2sk.recvbuf = PP2_HEADER_LEN then
    ∃ addrs hash len, Pp2Layout (m.pp2sk.recvbuf.readable.take PP2_HEADER_LEN) (Bytes.be 2 PP2_ADDR_TLVS_LEN) addrs
      hash len
  else
    ∀ {field addrs hash len}, Pp2Layout (m.pp2sk.recvbuf.readable.take PP2_HEADER_LEN) field addrs hash len →
      (field = Bytes.be 2 PP2_ADDR_TLVS_LEN ↔ hash < 9223372036854775808)

section Faithful

variable {m : Mux}

theorem pp2Rejects_iff (hok : m.pp2sk.recvbuf.Ok) (hsize : PP2_HEADER_LEN < skb_rdsz m.pp2sk.recvbuf) :
    Pp2Rejects m ↔ ¬ ∃ hash len rest, Pp2Accepted m.pp2sk.recvbuf.readable hash len rest := by
  constructor
  · rintro ⟨m', hdecode, herrno⟩ ⟨hash, len, rest, haccepted⟩
    have hlength := haccepted.length
    rw [hok.length_readable_eq] at hlength
    have hne : rest ≠ [] := by
      rw [← List.length_pos_iff]
      omega
    rw [pp2_decode_frame_accepted hok haccepted hne] at hdecode
    split at hdecode
    · cases hdecode
      cases herrno
    · obtain hrv | ⟨-, he⟩ := pp2_decode_payload_errno hdecode
      · cases hrv
      · cases he.symm.trans herrno
  · exact fun hno => ⟨_, pp2_decode_frame_rejected hok hsize hno, rfl⟩

theorem pp2_decode_frame_keeps {m' : Mux} (hok : m.pp2sk.recvbuf.Ok) (hdecode : pp2_decode_frame m = .ok (-1, m'))
    (herrno : m'.wsd_errno = .WSD_ENUM) : m'.pp2sk.recvbuf = m.pp2sk.recvbuf := by
  by_cases hshort : skb_rdsz m.pp2sk.recvbuf ≤ PP2_HEADER_LEN
  · rw [pp2_decode_frame_short hshort] at hdecode
    cases hdecode
    rfl
  · have hsize : PP2_HEADER_LEN < skb_rdsz m.pp2sk.recvbuf := Nat.lt_of_not_le hshort
    rw [pp2_decode_frame_rejected hok hsize ((pp2Rejects_iff hok hsize).1 ⟨m', hdecode, herrno⟩)] at hdecode
    cases hdecode
    rfl

/-- The decoder skips the length field, and takes a hash with its top bit set for an error. -/
theorem pp2_faithful_iff (hok : m.pp2sk.recvbuf.Ok) (hsize : PP2_HEADER_LEN ≤ skb_rdsz m.pp2sk.recvbuf) :
    Pp2Faithful m ↔ Pp2Agreed m := by
  have hread : PP2_HEADER_LEN ≤ m.pp2sk.recvbuf.readable.length := by rwa [hok.length_readable_eq]
  have htake : (m.pp2sk.recvbuf.readable.take PP2_HEADER_LEN).length = PP2_HEADER_LEN := by
    rw [List.length_take, Nat.min_eq_left hread]
  have hiff : Pp2Faithful m ↔ (¬ Pp2Rejects m ↔ Pp2Encodes (m.pp2sk.recvbuf.readable.take PP2_HEADER_LEN)) :=
    ⟨Pp2Faithful.accepts, fun haccepts => ⟨haccepts, fun hdecode herrno => by
      rw [pp2_decode_frame_keeps hok hdecode herrno]⟩⟩
  rw [hiff, pp2Encodes_iff htake, Pp2Agreed]
  by_cases hexact : skb_rdsz m.pp2sk.recvbuf = PP2_HEADER_LEN
  · rw [if_pos hexact]
    have hno : ¬ Pp2Rejects m := by
      rintro ⟨m', hdecode, herrno⟩
      rw [pp2_decode_frame_short (Nat.le_of_eq hexact)] at hdecode
      cases hdecode
      cases herrno
    exact iff_true_left hno
  · rw [if_neg hexact, pp2Rejects_iff hok (by omega), not_not, pp2Accepted_iff_layout _]
    constructor
    · intro h field addrs hash len hlayout
      constructor
      · rintro rfl
        obtain ⟨field', addrs', hash', len', hlayout', hlt⟩ := h.2 ⟨addrs, hash, len, hlayout⟩
        obtain ⟨-, rfl⟩ := hlayout.unique hlayout'
        exact hlt
      · intro hlt
        obtain ⟨addrs', hash', len', hlayout'⟩ := h.1 ⟨field, addrs, hash, len, hlayout, hlt⟩
        exact (hlayout.unique hlayout').1
    · intro h
      constructor
      · rintro ⟨field, addrs, hash, len, hlayout, hlt⟩
        obtain rfl := (h hlayout).2 hlt
        exact ⟨addrs, hash, len, hlayout⟩
      · rintro ⟨addrs, hash, len, hlayout⟩
        exact ⟨_, addrs, hash, len, hlayout, (h hlayout).1 rfl⟩

end Faithful

namespace Sample

/-- A frame with one payload byte whose header has the given length field. -/
def fielded (field : List UInt8) : List UInt8 :=
  pp2HeaderBytes field (List.replicate 12 0) 7 1 ++ [0x61]

theorem fielded_layout {field : List UInt8} (hfield : field.length = 2) :
    Pp2Layout ((lonely (fielded field)).pp2sk.recvbuf.readable.take PP2_HEADER_LEN) field (List.replicate 12 0) 7 1 := by
  have hlen : (pp2HeaderBytes field (List.replicate 12 0) 7 1).length = PP2_HEADER_LEN :=
    length_pp2HeaderBytes hfield rfl
  have hsize : (fielded field).length ≤ SKB_SIZE := by
    rw [fielded, List.length_append, hlen]
    decide
  have hread : (lonely (fielded field)).pp2sk.recvbuf.readable = fielded field := Skb.readable_ofBytes hsize
  refine ⟨hfield, rfl, by decide, by decide, ?_⟩
  rw [hread, fielded, List.take_left' hlen]

theorem rdsz_fielded {field : List UInt8} (hfield : field.length = 2) :
    skb_rdsz (lonely (fielded field)).pp2sk.recvbuf = 47 ∧ (lonely (fielded field)).pp2sk.recvbuf.Ok := by
  have hlen : (fielded field).length = 47 := by
    rw [fielded, List.length_append, length_pp2HeaderBytes hfield rfl]
    rfl
  have hsize : (fielded field).length ≤ SKB_SIZE := by
    rw [hlen]
    decide
  exact ⟨(Skb.rdsz_ofBytes hsize).trans hlen, Skb.ok_ofBytes hsize⟩

end Sample

theorem pp2_faithful_thirty : Pp2Faithful (Sample.lonely (Sample.fielded (Bytes.be 2 PP2_ADDR_TLVS_LEN))) := by
  obtain ⟨hrdsz, hok⟩ := @Sample.rdsz_fielded (Bytes.be 2 PP2_ADDR_TLVS_LEN) rfl
  apply (pp2_faithful_iff hok (by rw [hrdsz]; decide)).2
  rw [Pp2Agreed, if_neg (by rw [hrdsz]; decide)]
  intro field addrs hash len hlayout
  obtain ⟨hfield, hhash⟩ := hlayout.unique (Sample.fielded_layout rfl)
  exact iff_of_true hfield (by omega)

/-- A header whose length field is zero is accepted. -/
theorem pp2_length_field_ignored : ¬ Pp2Faithful (Sample.lonely (Sample.fielded [0, 0])) := by
  intro h
  obtain ⟨hrdsz, hok⟩ := @Sample.rdsz_fielded [0, 0] rfl
  have hread : PP2_HEADER_LEN ≤ (Sample.lonely (Sample.fielded [0, 0])).pp2sk.recvbuf.readable.length := by
    rw [hok.length_readable_eq, hrdsz]
    decide
  have hlayout := @Sample.fielded_layout [0, 0] rfl
  have haccepted := (pp2Accepted_iff_layout _).2 ⟨_, _, _, _, hlayout, by decide⟩
  have hencodes := h.accepts.1 (by
    rw [pp2Rejects_iff hok (by rw [hrdsz]; decide), not_not]
    exact haccepted)
  obtain ⟨addrs, hash, len, hthirty⟩ := (pp2Encodes_iff (by
    rw [List.length_take, Nat.min_eq_left hread])).1 hencodes
  exact absurd (hlayout.unique hthirty).1 (by decide)

end wsd
