import Wsd.Http.Progress

namespace wsd

namespace Skb

/-- The bytes have been put behind what the buffer holds, and possibly others behind them. -/
structure Extended (b : Skb) (obj : List UInt8) (b' : Skb) : Prop where
  rdpos_eq : b'.rdpos = b.rdpos
  wrpos_eq : b'.wrpos = b.wrpos + obj.length
  room : b.wrpos + obj.length ≤ SKB_SIZE
  data_eq : ∀ i, i < b.wrpos → b'.data i = b.data i
  bytes : b'.data.window b.wrpos obj.length = obj

namespace Extended

variable {b b1 b' : Skb} {obj obj' : List UInt8}

theorem refl (hok : b.Ok) : b.Extended [] b :=
  ⟨rfl, rfl, hok.wrpos_le, fun _ _ => rfl, rfl⟩

theorem trans (h : b.Extended obj b1) (h' : b1.Extended obj' b') : b.Extended (obj ++ obj') b' := by
  have hwrpos := h.wrpos_eq
  have hroom := h'.room
  have hwrpos' := h'.wrpos_eq
  refine ⟨h'.rdpos_eq.trans h.rdpos_eq, ?_, ?_, fun i hi => ?_, ?_⟩
  · rw [List.length_append]
    omega
  · rw [List.length_append]
    omega
  · rw [h'.data_eq i (by omega), h.data_eq i hi]
  · have hfront : b'.data.window b.wrpos obj.length = b1.data.window b.wrpos obj.length :=
      Memory.window_congr fun k hk => h'.data_eq (b.wrpos + k) (by omega)
    rw [List.length_append, Memory.window_add, hfront, h.bytes, ← hwrpos, h'.bytes]

/-- Taking back the write position takes back the bytes. -/
theorem undo (h : b.Extended obj b1) : b.Extended [] { b1 with wrpos := b.wrpos } := by
  have hroom := h.room
  exact ⟨h.rdpos_eq, rfl, by simp only [List.length_nil]; omega, h.data_eq, rfl⟩

theorem ok (h : b.Extended obj b') (hok : b.Ok) : b'.Ok := by
  have hle := hok.rdpos_le
  have hroom := h.room
  constructor
  · rw [h.rdpos_eq, h.wrpos_eq]
    omega
  · rw [h.wrpos_eq]
    exact hroom

theorem wrsz (h : b.Extended obj b') (hok : b.Ok) : skb_wrsz b' = skb_wrsz b - obj.length := by
  rw [(h.ok hok).wrsz_eq, hok.wrsz_eq, h.wrpos_eq]
  omega

theorem readable (h : b.Extended obj b') (hok : b.Ok) : b'.readable = b.readable ++ obj := by
  have hle := hok.rdpos_le
  have hlen : b.wrpos + obj.length - b.rdpos = b.wrpos - b.rdpos + obj.length := by omega
  have hfront : b'.data.window b.rdpos (b.wrpos - b.rdpos) = b.data.window b.rdpos (b.wrpos - b.rdpos) :=
    Memory.window_congr fun k hk => h.data_eq (b.rdpos + k) (by omega)
  unfold Skb.readable
  rw [h.rdpos_eq, h.wrpos_eq, hlen, Memory.window_add, hfront, Nat.add_sub_cancel' hle, h.bytes]

/-- What `skb_put` and the string functions do to the buffer. -/
theorem store {xs : List UInt8} (hok : b.Ok) (hroom : obj.length ≤ skb_wrsz b) :
    b.Extended obj { b with data := b.data.store b.wrpos (obj ++ xs), wrpos := u32 (b.wrpos + obj.length) } := by
  have hsize := hok.wrpos_le
  rw [hok.wrsz_eq] at hroom
  have hwrpos : u32 (b.wrpos + obj.length) = b.wrpos + obj.length := u32_of_lt (by unfold SKB_SIZE at *; omega)
  refine ⟨rfl, hwrpos, by omega, fun i hi => Memory.store_apply_of_lt _ _ hi, ?_⟩
  simp only
  rw [Memory.store_append, Memory.window_store_before _ _ (Nat.le_refl _), Memory.window_store_self]

theorem put (h : b.Extended obj b1) (hok : b.Ok) (hroom : obj'.length ≤ skb_wrsz b1) :
    b.Extended (obj ++ obj') (skb_put b1 obj') := by
  have hstore := @store _ _ [] (h.ok hok) hroom
  rw [List.append_nil] at hstore
  exact h.trans hstore

theorem strcpy (h : b.Extended obj b1) (hok : b.Ok) (hroom : obj'.length ≤ skb_wrsz b1) :
    b.Extended (obj ++ obj') (skb_strcpy b1 obj') :=
  h.trans (store (h.ok hok) hroom)

theorem crlf (h : b.Extended obj b1) (hok : b.Ok) (hroom : 2 ≤ skb_wrsz b1) :
    b.Extended (obj ++ [CR, LF]) (skb_put (skb_put b1 [CR]) [LF]) := by
  have hcr := h.put hok (show [CR].length ≤ skb_wrsz b1 by simp only [List.length_singleton]; omega)
  have hleft := hcr.wrsz hok
  have hbefore := h.wrsz hok
  simp only [List.length_append, List.length_singleton] at hleft
  have hlf := hcr.put hok (show [LF].length ≤ _ by simp only [List.length_singleton]; omega)
  rwa [List.append_assoc, List.singleton_append] at hlf

end Extended

/-- A string is put as a whole or not at all. -/
theorem put_strn_cases {b : Skb} (hok : b.Ok) (s : List UInt8) :
    (skb_wrsz b < s.length ∧ skb_put_strn b s s.length = (-1, b)) ∨
      ∃ b', skb_put_strn b s s.length = (0, b') ∧ b.Extended s b' := by
  unfold skb_put_strn
  by_cases hroom : skb_wrsz b < s.length
  · rw [if_pos hroom]
    exact .inl ⟨hroom, rfl⟩
  · rw [if_neg hroom]
    have hwhole : strncpy s s.length = s := by
      simp [strncpy]
    have hstore := @Extended.store b s [] hok (Nat.not_lt.mp hroom)
    rw [List.append_nil] at hstore
    rw [hwhole]
    exact .inr ⟨_, rfl, hstore⟩

end Skb

/-- The response of a successful handshake. -/
def handshake_response (accept proto : List UInt8) : List UInt8 :=
  HTTP_101 ++ accept ++ [CR, LF] ++ WS_VER ++ FLD_SEC_WS_VER_VAL ++ [CR, LF] ++ WS_PROTO ++ proto ++ [CR, LF] ++ [CR, LF]

theorem length_handshake_response {accept proto : List UInt8} (h : accept.length = WS_ACCEPT_KEY_LEN) :
    (handshake_response accept proto).length = 182 + proto.length := by
  have h101 : HTTP_101.length = 97 := rfl
  have hver : WS_VER.length = 23 := rfl
  have hval : FLD_SEC_WS_VER_VAL.length = 2 := rfl
  have hproto : WS_PROTO.length = 24 := rfl
  have hkey : WS_ACCEPT_KEY_LEN = 28 := rfl
  unfold handshake_response
  simp only [List.length_append, List.length_cons, List.length_nil]
  omega

section Prepare

variable {ssl : Openssl} {data : Memory UInt8} {b : Skb} {req : HttpReq} {key proto : Chunk}

/-- The response is put as a whole, or what has been put of it is taken back. -/
theorem prepare_handshake_cases (hok : b.Ok) (hcollected : Collected data req.sec_ws_key)
    (hkey : trim data req.sec_ws_key = .ok key) (hfits : key.len ≤ 27)
    (hproto : trim data req.sec_ws_proto = .ok proto) (hclass : ∀ c ∈ proto.bytes data, c ≠ 0) :
    (skb_wrsz b < 182 + proto.len ∧ ∃ b' req', prepare_handshake ssl data b req = .ok (-1, b', req') ∧ b.Extended [] b') ∨
      ∃ b' req', prepare_handshake ssl data b req = .ok (0, b', req') ∧
        b.Extended (handshake_response (ssl.base64_sha1 (key.bytes data ++ WS_GUID)) (proto.bytes data)) b' := by
  have h101 : HTTP_101.length = 97 := rfl
  have hver : WS_VER.length = 23 := rfl
  have hval : FLD_SEC_WS_VER_VAL.length = 2 := rfl
  have hname : WS_PROTO.length = 24 := rfl
  have haccept := ssl.length (key.bytes data ++ WS_GUID)
  have hkeylen : WS_ACCEPT_KEY_LEN = 28 := rfl
  have hlen : (proto.bytes data).length = proto.len := Memory.length_window ..
  have hwhole := strncpy_cstr hclass
  unfold prepare_handshake
  have h0 := Skb.Extended.refl hok
  by_cases hroom1 : skb_wrsz b < HTTP_101.length
  · rw [if_pos hroom1]
    exact .inl ⟨by omega, b, req, rfl, h0⟩
  rw [if_neg hroom1]
  have h1 := h0.strcpy hok (Nat.not_lt.mp hroom1)
  have hleft1 := h1.wrsz hok
  generalize skb_strcpy b HTTP_101 = b1 at h1 hleft1 ⊢
  simp only [List.nil_append] at h1 hleft1
  by_cases hroom2 : skb_wrsz b1 < WS_ACCEPT_KEY_LEN + 2
  · simp only [if_pos hroom2]
    exact .inl ⟨by omega, _, _, rfl, h1.undo⟩
  simp only [if_neg hroom2]
  rw [generate_accept_val_eq ssl b1 hcollected hkey hfits]
  simp only [Except.ok_bind]
  have h2 := h1.put hok (show (ssl.base64_sha1 (key.bytes data ++ WS_GUID)).length ≤ skb_wrsz b1 by omega)
  have hleft2 := h2.wrsz hok
  generalize skb_put b1 (ssl.base64_sha1 (key.bytes data ++ WS_GUID)) = b2 at h2 hleft2 ⊢
  have h3 := h2.crlf hok (by simp only [List.length_append] at hleft2; omega)
  have hleft3 := h3.wrsz hok
  generalize skb_put (skb_put b2 [CR]) [LF] = b3 at h3 hleft3 ⊢
  simp only [List.length_append, List.length_cons, List.length_nil] at hleft3
  by_cases hroom3 : skb_wrsz b3 < WS_VER.length + FLD_SEC_WS_VER_VAL.length + 2
  · rw [if_pos hroom3]
    exact .inl ⟨by omega, _, _, rfl, h3.undo⟩
  rw [if_neg hroom3]
  have h4 := h3.strcpy hok (show WS_VER.length ≤ skb_wrsz b3 by omega)
  have hleft4 := h4.wrsz hok
  generalize skb_strcpy b3 WS_VER = b4 at h4 hleft4 ⊢
  simp only [List.length_append, List.length_cons, List.length_nil] at hleft4
  have h5 := h4.strcpy hok (show FLD_SEC_WS_VER_VAL.length ≤ skb_wrsz b4 by omega)
  have hleft5 := h5.wrsz hok
  generalize skb_strcpy b4 FLD_SEC_WS_VER_VAL = b5 at h5 hleft5 ⊢
  simp only [List.length_append, List.length_cons, List.length_nil] at hleft5
  have h6 := h5.crlf hok (by omega)
  have hleft6 := h6.wrsz hok
  generalize skb_put (skb_put b5 [CR]) [LF] = b6 at h6 hleft6 ⊢
  simp only [List.length_append, List.length_cons, List.length_nil] at hleft6
  rw [hproto]
  simp only [Except.ok_bind]
  have hsum : u32 (WS_PROTO.length + proto.len + 2) = WS_PROTO.length + proto.len + 2 := by
    have hle := trim_len_le hproto
    exact u32_of_lt (by unfold SKB_SIZE at hle; omega)
  rw [hsum]
  by_cases hroom4 : skb_wrsz b6 < WS_PROTO.length + proto.len + 2
  · rw [if_pos hroom4]
    exact .inl ⟨by omega, _, _, rfl, h6.undo⟩
  rw [if_neg hroom4, hwhole]
  have h7 := h6.strcpy hok (show WS_PROTO.length ≤ skb_wrsz b6 by omega)
  have hleft7 := h7.wrsz hok
  generalize skb_strcpy b6 WS_PROTO = b7 at h7 hleft7 ⊢
  simp only [List.length_append, List.length_cons, List.length_nil] at hleft7
  have h8 := h7.put hok (show (proto.bytes data).length ≤ skb_wrsz b7 by omega)
  have hleft8 := h8.wrsz hok
  generalize skb_put b7 (proto.bytes data) = b8 at h8 hleft8 ⊢
  simp only [List.length_append, List.length_cons, List.length_nil] at hleft8
  have h9 := h8.crlf hok (by omega)
  have hleft9 := h9.wrsz hok
  generalize skb_put (skb_put b8 [CR]) [LF] = b9 at h9 hleft9 ⊢
  simp only [List.length_append, List.length_cons, List.length_nil] at hleft9
  by_cases hroom5 : skb_wrsz b9 < 2
  · rw [if_pos hroom5]
    exact .inl ⟨by omega, _, _, rfl, h9.undo⟩
  rw [if_neg hroom5]
  exact .inr ⟨_, _, rfl, h9.crlf hok (by omega)⟩

end Prepare

end wsd
