import Wsd.Pp2.Decode

namespace wsd

/-- What one call of the backend's decoder does, by what it finds at the read
    position and in the hash table. -/
inductive Demuxed (m : Mux) : Int → Mux → Prop
  /-- There is no complete frame, or one which is rejected. -/
  | waits (wsd_errno : Errno) (hagain : wsd_errno = .WSD_EAGAIN → skb_rdsz m.pp2sk.recvbuf ≠ 0) :
      Demuxed m (-1) { m with wsd_errno }
  /-- The payload of a frame for no client is skipped. -/
  | skipped (hash : UInt64) (len : Nat) (rest : List UInt8) (recvbuf : Skb)
      (haccepted : Pp2Accepted m.pp2sk.recvbuf.readable hash len rest) (hlen : len ≤ rest.length)
      (hok : recvbuf.Ok) (hread : recvbuf.readable = rest.drop len) (hpos : recvbuf.rdpos = 0) :
      Demuxed m 0 (m.setRecvbuf recvbuf)
  /-- The client's send buffer has less room than the computed frame length. -/
  | full (hash : UInt64) (len : Nat) (rest : List UInt8) (id : Nat) (cln_sk : Sk) (recvbuf : Skb)
      (haccepted : Pp2Accepted m.pp2sk.recvbuf.readable hash len rest) (hlen : len ≤ rest.length) (hne : rest ≠ [])
      (hlookup : hash_lookup m.clients m.sk_hash hash = .ok (some (id, cln_sk)))
      (hencode : cln_sk.proto.encode_frame = some .ws_encode_frame)
      (hfull : skb_wrsz cln_sk.sendbuf < frameLen len)
      (hok : recvbuf.Ok) (hread : recvbuf.readable = rest) :
      Demuxed m (-1) { m.setRecvbuf recvbuf with wsd_errno := .WSD_EAGAIN }
  /-- The payload goes to a client, in one frame which fits if there is room for it. -/
  | delivered (hash : UInt64) (len : Nat) (rest : List UInt8) (id : Nat) (cln_sk : Sk) (sendbuf recvbuf : Skb)
      (haccepted : Pp2Accepted m.pp2sk.recvbuf.readable hash len rest) (hlen : len ≤ rest.length)
      (hlookup : hash_lookup m.clients m.sk_hash hash = .ok (some (id, cln_sk)))
      (hencode : cln_sk.proto.encode_frame = some .ws_encode_frame)
      (hcheck : frameLen len ≤ skb_wrsz cln_sk.sendbuf)
      (hsend : cln_sk.sendbuf.Ok → (wsFrame (rest.take len)).length ≤ skb_wrsz cln_sk.sendbuf →
        cln_sk.sendbuf.Appended (wsFrame (rest.take len)) sendbuf)
      (hok : recvbuf.Ok) (hread : recvbuf.readable = rest.drop len) (hpos : recvbuf.rdpos = 0) :
      Demuxed m 0 { m with
        clients := Function.update m.clients id (some { cln_sk with
          sendbuf, events := encodeEvents cln_sk.events m.pp2sk.events })
        pp2sk := { m.pp2sk with recvbuf } }

/-- The decoder writes buffers and interest sets only. -/
theorem Demuxed.core {m m' : Mux} {rv : Int} (h : Demuxed m rv m') : m'.pp2sk.core = m.pp2sk.core := by
  cases h <;> rfl

theorem Demuxed.clients_core {m m' : Mux} {rv : Int} (h : Demuxed m rv m') {j : Nat} {cl' : Sk}
    (hcl : m'.clients j = some cl') : ∃ cl, m.clients j = some cl ∧ cl'.core = cl.core := by
  cases h with
  | delivered hash len rest id cln_sk sendbuf recvbuf haccepted hlen hlookup =>
    obtain ⟨-, hclient, -⟩ := hash_lookup_found hlookup
    by_cases hj : j = id
    · subst hj
      simp only [Function.update_self, Option.some.injEq] at hcl
      subst hcl
      exact ⟨cln_sk, hclient, rfl⟩
    · simp only [Function.update_of_ne hj] at hcl
      exact ⟨cl', hcl, rfl⟩
  | _ => exact ⟨cl', hcl, rfl⟩

theorem Demuxed.clients_none {m m' : Mux} {rv : Int} (h : Demuxed m rv m') {j : Nat} (hcl : m'.clients j = none) :
    m.clients j = none := by
  cases h with
  | delivered hash len rest id cln_sk sendbuf recvbuf haccepted hlen hlookup =>
    by_cases hj : j = id
    · subst hj
      simp only [Function.update_self, reduceCtorEq] at hcl
    · simpa only [Function.update_of_ne hj] using hcl
  | _ => exact hcl

/-- The backend's send buffer is not touched. -/
theorem Demuxed.backend_sendbuf {m m' : Mux} {rv : Int} (h : Demuxed m rv m') : m'.pp2sk.sendbuf = m.pp2sk.sendbuf := by
  cases h <;> rfl

/-- A client whose payload is delivered changes in its send buffer and its
    interest set; every other client is the same. -/
theorem Demuxed.client_cases {m m' : Mux} {rv : Int} (h : Demuxed m rv m') {j : Nat} {cl cl' : Sk}
    (hcl : m.clients j = some cl) (hcl' : m'.clients j = some cl') :
    cl' = cl ∨ rv = 0 ∧ ∃ hash len rest sendbuf, Pp2Accepted m.pp2sk.recvbuf.readable hash len rest ∧
      len ≤ rest.length ∧ hash_lookup m.clients m.sk_hash hash = .ok (some (j, cl)) ∧
      cl.proto.encode_frame = some .ws_encode_frame ∧ frameLen len ≤ skb_wrsz cl.sendbuf ∧
      (cl.sendbuf.Ok → (wsFrame (rest.take len)).length ≤ skb_wrsz cl.sendbuf →
        cl.sendbuf.Appended (wsFrame (rest.take len)) sendbuf) ∧
      cl' = { cl with sendbuf, events := encodeEvents cl.events m.pp2sk.events } := by
  cases h with
  | delivered hash len rest id cln_sk sendbuf recvbuf haccepted hlen hlookup hencode hcheck hsend =>
    obtain ⟨-, hclient, -⟩ := hash_lookup_found hlookup
    by_cases hj : j = id
    · subst hj
      rw [hclient] at hcl
      cases hcl
      simp only [Function.update_self, Option.some.injEq] at hcl'
      exact Or.inr ⟨rfl, hash, len, rest, sendbuf, haccepted, hlen, hlookup, hencode, hcheck, hsend, hcl'.symm⟩
    · simp only [Function.update_of_ne hj] at hcl'
      exact Or.inl (Option.some.inj (hcl'.symm.trans hcl))
  | _ => exact Or.inl (Option.some.inj (hcl'.symm.trans hcl))

/-- A client is left alone, or a frame has been put into its send buffer. -/
theorem Demuxed.client_encoded {m m' : Mux} {rv : Int} (h : Demuxed m rv m') {j : Nat} {cl cl' : Sk}
    (hcl : m.clients j = some cl) (hcl' : m'.clients j = some cl') :
    cl' = cl ∨ ∃ sendbuf, cl' = { cl with sendbuf, events := encodeEvents cl.events m.pp2sk.events } := by
  obtain hsame | ⟨hrv, hash, len, rest, sendbuf, haccepted, hlen, hlookup, hencode, hroom, hput, hsame⟩ :=
    h.client_cases hcl hcl'
  · exact .inl hsame
  · exact .inr ⟨sendbuf, hsame⟩

theorem Demuxed.client_eq {m m' : Mux} {rv : Int} (h : Demuxed m rv m') {j : Nat} {cl cl' : Sk}
    (hcl : m.clients j = some cl) (hcl' : m'.clients j = some cl') :
    ∃ sendbuf events, cl' = { cl with sendbuf, events } := by
  obtain rfl | ⟨sendbuf, rfl⟩ := h.client_encoded hcl hcl'
  · exact ⟨cl'.sendbuf, cl'.events, rfl⟩
  · exact ⟨sendbuf, _, rfl⟩

/-- The part behind an accepted header. -/
theorem pp2_decode_payload_inv {m m' : Mux} {hash : UInt64} {len : Nat} {rest : List UInt8} {rv : Int}
    (hclients : ∀ id sk, m.clients id = some sk → sk.proto.encode_frame ≠ some .pp2_encode_frame)
    (haccepted : Pp2Accepted m.pp2sk.recvbuf.readable hash len rest) (hlen : len ≤ rest.length) (hne : rest ≠ [])
    (hrecv : m.pp2sk.recvbuf.Ok)
    (h : pp2_decode_payload m (skb_rd_forward m.pp2sk.recvbuf PP2_HEADER_LEN) hash len = .ok (rv, m')) :
    Demuxed m rv m' := by
  obtain ⟨hok, hread⟩ := haccepted.readable_rd_forward hrecv
  generalize skb_rd_forward m.pp2sk.recvbuf PP2_HEADER_LEN = recvbuf at h hok hread
  have hsize : len ≤ skb_rdsz recvbuf := by rwa [← hok.length_readable_eq, hread]
  have hget := hok.rd_forward hsize
  have hrest : (skb_compact (skb_rd_forward recvbuf len)).readable = rest.drop len := by
    rw [hget.readable_compact, hok.readable_rd_forward hsize, hread]
  unfold pp2_decode_payload at h
  obtain ⟨found, hlookup, h⟩ := Except.bind_eq_ok_iff.mp h
  cases found with
  | none =>
    simp only [Except.pure_eq_ok, Except.ok.injEq, Prod.mk.injEq] at h
    obtain ⟨rfl, rfl⟩ := h
    exact .skipped hash len rest _ haccepted hlen hget.compact hrest rfl
  | some found =>
    obtain ⟨id, cln_sk⟩ := found
    obtain ⟨-, hclient, -⟩ := hash_lookup_found hlookup
    obtain ⟨⟨rv', c⟩, hencoded, hret⟩ := Except.bind_eq_ok_iff.mp h
    simp only [Except.pure_eq_ok, Except.ok.injEq, Prod.mk.injEq] at hret
    obtain ⟨rfl, rfl⟩ := hret
    cases hproto : cln_sk.proto.encode_frame with
    | none =>
      rw [hproto] at hencoded
      cases hencoded
    | some handler =>
      cases handler with
      | pp2_encode_frame => exact absurd hproto (hclients id cln_sk hclient)
      | ws_encode_frame =>
        rw [hproto] at hencoded
        obtain ⟨rfl, rfl, hfull⟩ | ⟨rfl, hcheck, sendbuf, rfl, hsend⟩ := ws_encode_frame_inv hok rfl hsize hencoded
        · have hsame : Function.update m.clients id (some cln_sk) = m.clients := by
            rw [← hclient, Function.update_eq_self]
          simp only [hsame]
          exact .full hash len rest id cln_sk recvbuf haccepted hlen hne hlookup hproto hfull hok hread
        · simp only [hread] at hsend
          exact .delivered hash len rest id cln_sk sendbuf _ haccepted hlen hlookup hproto hcheck hsend
            hget.compact hrest rfl

theorem pp2_decode_frame_inv {m m' : Mux} {rv : Int} (hrecv : m.pp2sk.recvbuf.Ok)
    (hclients : ∀ id sk, m.clients id = some sk → sk.proto.encode_frame ≠ some .pp2_encode_frame)
    (h : pp2_decode_frame m = .ok (rv, m')) : Demuxed m rv m' := by
  by_cases hshort : skb_rdsz m.pp2sk.recvbuf ≤ PP2_HEADER_LEN
  · rw [pp2_decode_frame_short hshort] at h
    cases h
    exact .waits .WSD_EINPUT (by simp)
  have hpos : skb_rdsz m.pp2sk.recvbuf ≠ 0 := by omega
  by_cases haccepted : ∃ hash len rest, Pp2Accepted m.pp2sk.recvbuf.readable hash len rest
  · obtain ⟨hash, len, rest, haccepted⟩ := haccepted
    have hlength := haccepted.length
    rw [hrecv.length_readable_eq] at hlength
    have hne : rest ≠ [] := by
      rw [← List.length_pos_iff]
      omega
    rw [pp2_decode_frame_accepted hrecv haccepted hne] at h
    by_cases hlen : rest.length < len
    · rw [if_pos hlen] at h
      cases h
      exact .waits .WSD_EAGAIN fun _ => hpos
    · rw [if_neg hlen] at h
      exact pp2_decode_payload_inv hclients haccepted (by omega) hne hrecv h
  · rw [pp2_decode_frame_rejected hrecv (by omega) haccepted] at h
    cases h
    exact .waits .WSD_ENUM (by simp)

end wsd
