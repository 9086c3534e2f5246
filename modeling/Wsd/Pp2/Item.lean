import Mathlib.Algebra.GroupWithZero.Nat
import Wsd.Bytes.Framing
import Wsd.Pp2.Isolation

namespace wsd

/-- A frame in the format of `pp2_encode_frame`. -/
structure Pp2Item where
  src : SockaddrIn
  dst : SockaddrIn
  hash : UInt64
  payload : List UInt8
  fits : payload.length < 4294967296

namespace Pp2Item

def bytes (f : Pp2Item) : List UInt8 :=
  pp2Header f.src f.dst f.hash f.payload.length ++ f.payload

theorem length_bytes (f : Pp2Item) : f.bytes.length = PP2_HEADER_LEN + f.payload.length := by
  rw [bytes, List.length_append, length_pp2Header]

end Pp2Item

/-- The space which the payloads for a hash take in a client's send buffer. -/
def space (hash : UInt64) (frames : List Pp2Item) : Nat :=
  ((frames.filter fun f => f.hash = hash).map fun f => (wsFrame f.payload).length).sum

/-- Each frame's bucket is one of the hash table's; the frame is for no client, or for an
    upgraded client with room for all its frames. -/
def Serves (clients : Nat → Option Sk) (sk_hash : Nat → List Nat) (frames : List Pp2Item) : Prop :=
  ∀ f ∈ frames, hash_min f.hash < HASH_SIZE ∧
    (hash_lookup clients sk_hash f.hash = .ok none ∨
      ∃ id cl, hash_lookup clients sk_hash f.hash = .ok (some (id, cl)) ∧
        cl.proto.encode_frame = some .ws_encode_frame ∧ cl.sendbuf.Ok ∧ space f.hash frames ≤ skb_wrsz cl.sendbuf)

/-- A client which is replaced by one with the same hash is found as before. -/
theorem hash_for_each_possible_update {clients : Nat → Option Sk} {id : Nat} {cl cl' : Sk}
    (hcl : clients id = some cl) (hsame : cl'.hash = cl.hash) (hash : UInt64) (chain : List Nat) :
    hash_for_each_possible (Function.update clients id (some cl')) hash chain =
      (hash_for_each_possible clients hash chain).map fun found =>
        found.map fun p => if p.1 = id then (id, cl') else p := by
  induction chain with
  | nil => rfl
  | cons first chain ih =>
    unfold hash_for_each_possible
    by_cases hfirst : first = id
    · subst hfirst
      simp only [Function.update_self, hcl, hsame]
      by_cases hfound : cl.hash = hash
      · simp [hfound, Except.map]
      · simp only [if_neg hfound, ih]
    · simp only [Function.update_of_ne hfirst]
      cases clients first with
      | none => rfl
      | some sk =>
        by_cases hfound : sk.hash = hash
        · simp [hfound, hfirst, Except.map]
        · simp only [if_neg hfound, ih]

theorem hash_lookup_update {clients : Nat → Option Sk} {id : Nat} {cl cl' : Sk} (hcl : clients id = some cl)
    (hsame : cl'.hash = cl.hash) (sk_hash : Nat → List Nat) (hash : UInt64) :
    hash_lookup (Function.update clients id (some cl')) sk_hash hash =
      (hash_lookup clients sk_hash hash).map fun found =>
        found.map fun p => if p.1 = id then (id, cl') else p := by
  by_cases hnear : hash_min hash < HASH_SIZE
  · rw [hash_lookup_of_near hnear, hash_lookup_of_near hnear]
    exact hash_for_each_possible_update hcl hsame hash _
  · rw [hash_lookup_of_far hnear, hash_lookup_of_far hnear]
    rfl

section Item

variable {m : Mux} {f : Pp2Item} {rest more : List UInt8} {left : List Pp2Item}

theorem space_cons_of_eq {hash : UInt64} (h : f.hash = hash) :
    space hash (f :: left) = (wsFrame f.payload).length + space hash left := by
  simp [space, h]

theorem space_cons_le (hash : UInt64) (f : Pp2Item) (left : List Pp2Item) : space hash left ≤ space hash (f :: left) := by
  by_cases h : f.hash = hash
  · rw [space_cons_of_eq h]
    exact Nat.le_add_left _ _
  · simp [space, h]

theorem Serves.tail {clients : Nat → Option Sk} {sk_hash : Nat → List Nat} (h : Serves clients sk_hash (f :: left)) :
    Serves clients sk_hash left := by
  intro g hg
  obtain ⟨hnear, hnone | ⟨id, cl, hlookup, hencode, hok, hroom⟩⟩ := h g (List.mem_cons_of_mem _ hg)
  · exact ⟨hnear, Or.inl hnone⟩
  · exact ⟨hnear, Or.inr ⟨id, cl, hlookup, hencode, hok, Nat.le_trans (space_cons_le g.hash f left) hroom⟩⟩

/-- The frame's own client has room for the payload, and for the payloads behind it afterwards. -/
theorem Serves.put {clients : Nat → Option Sk} {sk_hash : Nat → List Nat} (h : Serves clients sk_hash (f :: left))
    {id : Nat} {cl : Sk} (hlookup : hash_lookup clients sk_hash f.hash = .ok (some (id, cl)))
    (hroom : (wsFrame f.payload).length ≤ skb_wrsz cl.sendbuf) (hok : cl.sendbuf.Ok)
    (hencode : cl.proto.encode_frame = some .ws_encode_frame) (events : EpollEvents) :
    Serves (Function.update clients id (some { cl with sendbuf := skb_put cl.sendbuf (wsFrame f.payload), events }))
      sk_hash left := by
  obtain ⟨-, hcl, hhash⟩ := hash_lookup_found hlookup
  intro g hg
  obtain ⟨hnear, hserved⟩ := h g (List.mem_cons_of_mem _ hg)
  refine ⟨hnear, ?_⟩
  rw [@hash_lookup_update clients id cl
    { cl with sendbuf := skb_put cl.sendbuf (wsFrame f.payload), events } hcl rfl]
  obtain hnone | ⟨id', cl', hlookup', hencode', hok', hroom'⟩ := hserved
  · rw [hnone]
    exact Or.inl rfl
  · rw [hlookup']
    obtain ⟨-, hcl', hhash'⟩ := hash_lookup_found hlookup'
    apply Or.inr
    by_cases hid : id' = id
    · subst hid
      rw [hcl] at hcl'
      cases hcl'
      have hsame : f.hash = g.hash := hhash.symm.trans hhash'
      refine ⟨id', { cl with sendbuf := skb_put cl.sendbuf (wsFrame f.payload), events }, ?_, hencode, hok.put hroom, ?_⟩
      · simp [Except.map]
      · change space g.hash left ≤ skb_wrsz (skb_put cl.sendbuf (wsFrame f.payload))
        rw [space_cons_of_eq hsame] at hroom'
        rw [hok.wrsz_put hroom]
        omega
    · exact ⟨id', cl', by simp [Except.map, hid], hencode', hok', Nat.le_trans (space_cons_le g.hash f left) hroom'⟩

/-- A complete frame with a byte behind its header is consumed. -/
theorem pp2_decode_frame_item (hok : m.pp2sk.recvbuf.Ok) (hread : m.pp2sk.recvbuf.readable = f.bytes ++ rest)
    (hne : f.payload ++ rest ≠ []) (hserves : Serves m.clients m.sk_hash (f :: left)) :
    ∃ clients recvbuf, pp2_decode_frame m = .ok (0, { m with clients, pp2sk := { m.pp2sk with recvbuf } }) ∧
      recvbuf.Ok ∧ recvbuf.readable = rest ∧ Serves clients m.sk_hash left := by
  obtain ⟨hnear, hserved⟩ := hserves f List.mem_cons_self
  have hlength := hok.length_readable_eq
  have hsize := hok.rdsz_le
  unfold SKB_SIZE at hsize
  have htotal := congrArg List.length hread
  rw [List.length_append, f.length_bytes] at htotal
  have hat : Pp2At m.pp2sk.recvbuf.readable f.hash f.payload.length :=
    ⟨f.src, f.dst, [], f.payload ++ rest, by rw [List.append_nil, hread, Pp2Item.bytes, List.append_assoc]⟩
  have haccepted := hat.accepted (by omega) (hash_lt_of_near hnear) (by omega)
  have hdrop : m.pp2sk.recvbuf.readable.drop PP2_HEADER_LEN = f.payload ++ rest := by
    rw [hread, Pp2Item.bytes, List.append_assoc, List.drop_left' (length_pp2Header ..)]
  rw [hdrop] at haccepted
  have hdecode := pp2_decode_frame_accepted hok haccepted hne
  rw [if_neg (by simp)] at hdecode
  obtain ⟨hforward, hreadf⟩ := haccepted.readable_rd_forward hok
  generalize skb_rd_forward m.pp2sk.recvbuf PP2_HEADER_LEN = recvbuf at hdecode hforward hreadf
  have hpayload : f.payload.length ≤ skb_rdsz recvbuf := by
    rw [← hforward.length_readable_eq, hreadf, List.length_append]
    omega
  have htake : recvbuf.readable.take f.payload.length = f.payload := by
    rw [hreadf, List.take_left]
  have hskip := hforward.get hpayload
  have hrest : (skb_compact (skb_get recvbuf f.payload.length).2).readable = rest := by
    rw [hskip.readable_compact, hforward.readable_get hpayload, hreadf, List.drop_left]
  obtain hnone | ⟨id, cl, hlookup, hencode, hcl, hroom⟩ := hserved
  · refine ⟨m.clients, skb_compact (skb_get recvbuf f.payload.length).2, ?_, hskip.compact, hrest, hserves.tail⟩
    rw [hdecode]
    unfold pp2_decode_payload
    rw [hnone]
    rfl
  · rw [space_cons_of_eq rfl] at hroom
    have hput := @pp2_decode_payload_room m recvbuf f.hash f.payload.length id cl hforward hpayload hlookup hencode hcl
      (by rw [htake]; omega)
    rw [htake] at hput
    exact ⟨_, _, hdecode.trans hput, hskip.compact, hrest, hserves.put hlookup (by omega) hcl hencode _⟩

/-- A complete frame with a byte behind its header whose bucket is none of the table's
    makes the lookup read behind it. -/
theorem pp2_decode_frame_item_far (hok : m.pp2sk.recvbuf.Ok) (hread : m.pp2sk.recvbuf.readable = f.bytes ++ rest)
    (hne : f.payload ++ rest ≠ []) (hhash : f.hash.toNat < 9223372036854775808)
    (hfar : ¬ hash_min f.hash < HASH_SIZE) : pp2_decode_frame m = .error .out_of_bounds := by
  have hlength := hok.length_readable_eq
  have hpos := List.length_pos_iff.mpr hne
  have htotal := congrArg List.length hread
  rw [List.length_append, f.length_bytes] at htotal
  rw [List.length_append] at hpos
  have hat : Pp2At m.pp2sk.recvbuf.readable f.hash f.payload.length :=
    ⟨f.src, f.dst, [], f.payload ++ rest, by rw [List.append_nil, hread, Pp2Item.bytes, List.append_assoc]⟩
  exact (hat.out_of_bounds_iff f.fits hok).mpr ⟨by omega, by omega, hhash, hfar⟩

/-- A proper part of a frame is left as it is. -/
theorem pp2_decode_frame_cut (hok : m.pp2sk.recvbuf.Ok) (hread : m.pp2sk.recvbuf.readable ++ more = f.bytes)
    (hmore : more ≠ []) : ∃ wsd_errno, pp2_decode_frame m = .ok (-1, { m with wsd_errno }) := by
  by_cases hshort : skb_rdsz m.pp2sk.recvbuf ≤ PP2_HEADER_LEN
  · exact ⟨_, pp2_decode_frame_short hshort⟩
  by_cases haccepted : ∃ hash len rest, Pp2Accepted m.pp2sk.recvbuf.readable hash len rest
  · obtain ⟨hash, len, rest, haccepted⟩ := haccepted
    have hlength := haccepted.length
    have hrdsz := hok.length_readable_eq
    have hpos : 0 < more.length := List.length_pos_iff.mpr hmore
    have hne : rest ≠ [] := by
      rw [← List.length_pos_iff]
      omega
    obtain ⟨field, addrs, hfield, haddrs, hbytes⟩ := haccepted.bytes
    have hlen := haccepted.len_lt
    have hframe := hread
    rw [hbytes, List.append_assoc, Pp2Item.bytes, pp2Header_eq] at hframe
    have hinj := pp2HeaderBytes_inj (by simp [hfield]) (by simp [haddrs, PP2_ADDR_LEN]) hash.toNat_lt
      f.hash.toNat_lt (by omega) f.fits hframe
    have hpayload := congrArg List.length hinj.2.2
    rw [List.length_append] at hpayload
    have hdecode := pp2_decode_frame_accepted hok haccepted hne
    rw [if_pos (by rw [hinj.2.1]; omega)] at hdecode
    exact ⟨_, hdecode⟩
  · exact ⟨_, pp2_decode_frame_rejected hok (by omega) haccepted⟩

end Item

end wsd
