import Wsd.Types

namespace wsd

/-- C's `unsigned int` arithmetic. -/
def u32 (n : Nat) : Nat :=
  n % 4294967296

theorem u32_of_lt {n : Nat} (h : n < 4294967296) : u32 n = n :=
  Nat.mod_eq_of_lt h

/-- The `int` with the bits of an `unsigned int`. -/
def i32 (n : Nat) : Int :=
  if n % 4294967296 < 2147483648 then (n % 4294967296 : Nat) else (n % 4294967296 : Nat) - 4294967296

theorem i32_of_lt {n : Nat} (h : n < 2147483648) : i32 n = n := by
  have hmod : n % 4294967296 = n := Nat.mod_eq_of_lt (by omega)
  simp [i32, hmod, h]

def skb_rdsz (b : Skb) : Nat :=
  u32 (b.wrpos + 4294967296 - b.rdpos)

def skb_wrsz (b : Skb) : Nat :=
  u32 (SKB_SIZE + 4294967296 - b.wrpos)

/-- Stores an object, given by its bytes in memory, at the write position. -/
def skb_put (b : Skb) (obj : List UInt8) : Skb :=
  { b with data := b.data.store b.wrpos obj, wrpos := u32 (b.wrpos + obj.length) }

/-- Loads the bytes of an object of the given size from the read position. -/
def skb_get (b : Skb) (size : Nat) : List UInt8 × Skb :=
  (b.data.window b.rdpos size, { b with rdpos := u32 (b.rdpos + size) })

def skb_reset (b : Skb) : Skb :=
  { b with wrpos := 0, rdpos := 0 }

def skb_rd_forward (b : Skb) (amount : Nat) : Skb :=
  { b with rdpos := u32 (b.rdpos + amount) }

def skb_rd_reset (b : Skb) (pos : Nat) : Skb :=
  { b with rdpos := pos }

def skb_compact (b : Skb) : Skb :=
  { data := b.data.move 0 b.rdpos (skb_rdsz b), wrpos := skb_rdsz b, rdpos := 0 }

/-- Loads a `char` from the read position. -/
def skb_get_char (b : Skb) : UInt8 × Skb :=
  (b.data b.rdpos, { b with rdpos := u32 (b.rdpos + 1) })

/-- The bytes which `strncpy` writes: the string cut to `n` bytes and padded
    with terminators. -/
def strncpy (s : List UInt8) (n : Nat) : List UInt8 :=
  s.take n ++ List.replicate (n - s.length) 0

def skb_put_strn (b : Skb) (s : List UInt8) (n : Nat) : Int × Skb :=
  if skb_wrsz b < n then
    (-1, b)
  else
    (0, { b with data := b.data.store b.wrpos (strncpy s n), wrpos := u32 (b.wrpos + n) })

/-- `while (k--) dst->data[dst->wrpos++] = src->data[src->rdpos++];` -/
def skb_transfer : Nat → Skb → Skb → Skb × Skb
  | 0, dst, src => (dst, src)
  | k + 1, dst, src =>
    skb_transfer k
      { dst with data := dst.data.store dst.wrpos [src.data src.rdpos], wrpos := u32 (dst.wrpos + 1) }
      { src with rdpos := u32 (src.rdpos + 1) }

/-- The bytes between the read and the write position. -/
def Skb.readable (b : Skb) : List UInt8 :=
  b.data.window b.rdpos (b.wrpos - b.rdpos)

/-- The positions of a buffer are in order and within its array. -/
structure Skb.Ok (b : Skb) : Prop where
  rdpos_le : b.rdpos ≤ b.wrpos
  wrpos_le : b.wrpos ≤ SKB_SIZE

namespace Skb

variable {b dst src : Skb}

theorem length_readable (b : Skb) : b.readable.length = b.wrpos - b.rdpos :=
  Memory.length_window ..

theorem Ok.rdsz_eq (h : b.Ok) : skb_rdsz b = b.wrpos - b.rdpos := by
  obtain ⟨hrd, hwr⟩ := h
  unfold skb_rdsz u32
  unfold SKB_SIZE at hwr
  omega

theorem Ok.wrsz_eq (h : b.Ok) : skb_wrsz b = SKB_SIZE - b.wrpos := by
  obtain ⟨hrd, hwr⟩ := h
  unfold skb_wrsz u32
  unfold SKB_SIZE at hwr ⊢
  omega

theorem Ok.length_readable_eq (h : b.Ok) : b.readable.length = skb_rdsz b := by
  rw [b.length_readable, h.rdsz_eq]

theorem Ok.rdsz_le (h : b.Ok) : skb_rdsz b ≤ SKB_SIZE := by
  have hwr := h.wrpos_le
  rw [h.rdsz_eq]
  omega

theorem Ok.readable_eq_nil_iff (h : b.Ok) : b.readable = [] ↔ skb_rdsz b = 0 := by
  rw [← List.length_eq_zero_iff, h.length_readable_eq]

/-- A position inside the array is far from the end of `unsigned int`. -/
theorem u32_of_le_size {n : Nat} (h : n ≤ SKB_SIZE) : u32 n = n := by
  unfold SKB_SIZE at h
  exact u32_of_lt (by omega)

section Put

variable {obj : List UInt8}

theorem Ok.put_wrpos (h : b.Ok) (hroom : obj.length ≤ skb_wrsz b) :
    (skb_put b obj).wrpos = b.wrpos + obj.length := by
  have hwr := h.wrpos_le
  rw [h.wrsz_eq] at hroom
  exact u32_of_le_size (by omega)

theorem Ok.put (h : b.Ok) (hroom : obj.length ≤ skb_wrsz b) : (skb_put b obj).Ok := by
  have hrd := h.rdpos_le
  have hwr := h.wrpos_le
  have hpos := h.put_wrpos hroom
  rw [h.wrsz_eq] at hroom
  constructor
  · rw [hpos]
    change b.rdpos ≤ _
    omega
  · rw [hpos]
    omega

theorem Ok.wrsz_put (h : b.Ok) (hroom : obj.length ≤ skb_wrsz b) :
    skb_wrsz (skb_put b obj) = skb_wrsz b - obj.length := by
  rw [(h.put hroom).wrsz_eq, h.put_wrpos hroom, h.wrsz_eq]
  omega

theorem Ok.put_byte (h : b.Ok) (x : UInt8) (hroom : 1 ≤ skb_wrsz b) : (skb_put b [x]).Ok :=
  h.put (by rwa [List.length_singleton])

theorem Ok.wrsz_put_byte (h : b.Ok) (x : UInt8) (hroom : 1 ≤ skb_wrsz b) :
    skb_wrsz (skb_put b [x]) = skb_wrsz b - 1 := by
  rw [h.wrsz_put (by rwa [List.length_singleton]), List.length_singleton]

/-- A byte takes one cell of the free space, wherever the positions are. -/
theorem wrsz_put_byte {x : UInt8} (hpos : b.wrpos < 4294967296) (hroom : 1 ≤ skb_wrsz b) :
    skb_wrsz (skb_put b [x]) = skb_wrsz b - 1 := by
  unfold skb_wrsz skb_put u32 SKB_SIZE at *
  simp only [List.length_singleton]
  omega

/-- Putting an object appends its bytes to the readable ones. -/
theorem Ok.readable_put (h : b.Ok) (hroom : obj.length ≤ skb_wrsz b) :
    (skb_put b obj).readable = b.readable ++ obj := by
  have hrd := h.rdpos_le
  have hlen : b.wrpos + obj.length - b.rdpos = b.wrpos - b.rdpos + obj.length := by omega
  have hstart : b.wrpos = b.rdpos + (b.wrpos - b.rdpos) := by omega
  unfold readable
  rw [h.put_wrpos hroom]
  change (b.data.store b.wrpos obj).window b.rdpos (b.wrpos + obj.length - b.rdpos) = _
  rw [hlen]
  conv => lhs; arg 1; rw [hstart]
  exact Memory.window_store_append ..

/-- An object has been put for which there was room. -/
structure Appended (b : Skb) (obj : List UInt8) (b' : Skb) : Prop where
  eq : b' = skb_put b obj
  room : obj.length ≤ skb_wrsz b

variable {b' : Skb}

theorem Appended.ok (h : b.Appended obj b') (hok : b.Ok) : b'.Ok := by
  rw [h.eq]
  exact hok.put h.room

theorem Appended.readable (h : b.Appended obj b') (hok : b.Ok) : b'.readable = b.readable ++ obj := by
  rw [h.eq]
  exact hok.readable_put h.room

/-- Two objects put one after the other are put like one. -/
theorem Ok.put_put (h : b.Ok) {obj' : List UInt8} (hroom : obj.length ≤ skb_wrsz b) :
    skb_put (skb_put b obj) obj' = skb_put b (obj ++ obj') := by
  have hpos := h.put_wrpos hroom
  have hstore := Memory.store_append b.data b.wrpos obj obj'
  unfold skb_put at hpos ⊢
  simp only at hpos
  simp only [hpos, hstore, List.length_append, Nat.add_assoc]

end Put

section Get

variable {size : Nat}

theorem Ok.get_rdpos (h : b.Ok) (hsize : size ≤ skb_rdsz b) : (skb_get b size).2.rdpos = b.rdpos + size := by
  have hwr := h.wrpos_le
  have hrd := h.rdpos_le
  rw [h.rdsz_eq] at hsize
  exact u32_of_le_size (by omega)

theorem Ok.get (h : b.Ok) (hsize : size ≤ skb_rdsz b) : (skb_get b size).2.Ok := by
  have hrd := h.rdpos_le
  have hpos := h.get_rdpos hsize
  rw [h.rdsz_eq] at hsize
  constructor
  · rw [hpos]
    change _ ≤ b.wrpos
    omega
  · exact h.wrpos_le

theorem Ok.rdsz_get (h : b.Ok) (hsize : size ≤ skb_rdsz b) :
    skb_rdsz (skb_get b size).2 = skb_rdsz b - size := by
  rw [(h.get hsize).rdsz_eq, h.get_rdpos hsize, h.rdsz_eq]
  change b.wrpos - (b.rdpos + size) = _
  omega

theorem Ok.get_bytes (h : b.Ok) (hsize : size ≤ skb_rdsz b) : (skb_get b size).1 = b.readable.take size := by
  rw [h.rdsz_eq] at hsize
  exact (Memory.take_window _ hsize).symm

/-- Getting an object removes its bytes from the readable ones. -/
theorem Ok.readable_get (h : b.Ok) (hsize : size ≤ skb_rdsz b) :
    (skb_get b size).2.readable = b.readable.drop size := by
  have hpos := h.get_rdpos hsize
  rw [h.rdsz_eq] at hsize
  unfold readable
  rw [hpos, Memory.drop_window _ hsize, ← Nat.sub_sub]
  rfl

/-- Getting an object moves the read position past it. -/
theorem get_snd (b : Skb) (size : Nat) : (skb_get b size).2 = skb_rd_forward b size := rfl

@[simp] theorem rd_forward_rd_forward (b : Skb) (n k : Nat) :
    skb_rd_forward (skb_rd_forward b n) k = skb_rd_forward b (n + k) := by
  refine Skb.ext ?_ rfl rfl
  simp only [skb_rd_forward, u32]
  omega

@[simp] theorem rd_forward_restore (b : Skb) (n : Nat) :
    { skb_rd_forward b n with rdpos := b.rdpos } = b := rfl

theorem Ok.rd_forward (h : b.Ok) (hsize : size ≤ skb_rdsz b) : (skb_rd_forward b size).Ok :=
  h.get hsize

theorem Ok.rdsz_rd_forward (h : b.Ok) (hsize : size ≤ skb_rdsz b) :
    skb_rdsz (skb_rd_forward b size) = skb_rdsz b - size :=
  h.rdsz_get hsize

theorem Ok.readable_rd_forward (h : b.Ok) (hsize : size ≤ skb_rdsz b) :
    (skb_rd_forward b size).readable = b.readable.drop size :=
  h.readable_get hsize

/-- An object between others is loaded from behind those before it. -/
theorem Ok.get_bytes_of_append (h : b.Ok) {before obj after : List UInt8}
    (hread : b.readable = before ++ (obj ++ after)) :
    (skb_get (skb_rd_forward b before.length) obj.length).1 = obj := by
  have hlen := h.length_readable_eq
  rw [hread, List.length_append, List.length_append] at hlen
  have hsize : before.length ≤ skb_rdsz b := by omega
  rw [(h.rd_forward hsize).get_bytes (by rw [h.rdsz_rd_forward hsize]; omega), h.readable_rd_forward hsize,
    hread, List.drop_left, List.take_left]

theorem Ok.get_char (h : b.Ok) {x : UInt8} {xs : List UInt8} (hread : b.readable = x :: xs) :
    ∃ b', skb_get_char b = (x, b') ∧ b'.Ok ∧ b'.readable = xs ∧ b'.rdpos = b.rdpos + 1 ∧
      b'.wrpos = b.wrpos ∧ b'.data = b.data := by
  have hsize : 1 ≤ skb_rdsz b := by
    rw [← h.length_readable_eq, hread, List.length_cons]
    omega
  have hbyte : b.data b.rdpos = x := by
    have hfirst := h.get_bytes hsize
    rw [hread] at hfirst
    exact (List.cons_eq_cons.mp hfirst).1
  have hrest := h.readable_get hsize
  rw [hread] at hrest
  exact ⟨(skb_get b 1).2, by rw [← hbyte]; rfl, h.get hsize, hrest, h.get_rdpos hsize, rfl, rfl⟩

/-- Writing over the first readable bytes leaves the others as they are. -/
theorem Ok.readable_overwrite (h : b.Ok) {xs : List UInt8} (hsize : xs.length ≤ skb_rdsz b) :
    { b with data := b.data.store b.rdpos xs }.readable = xs ++ b.readable.drop xs.length := by
  rw [h.rdsz_eq] at hsize
  have hlen : b.wrpos - b.rdpos = xs.length + (b.wrpos - b.rdpos - xs.length) := by omega
  unfold readable
  simp only
  rw [Memory.drop_window _ hsize, hlen, Memory.window_add, Memory.window_store_self,
    Memory.window_store_after _ _ (Nat.le_refl _), Nat.add_sub_cancel_left]

end Get

theorem ok_reset (b : Skb) : (skb_reset b).Ok :=
  ⟨Nat.le_refl 0, Nat.zero_le _⟩

@[simp] theorem readable_reset (b : Skb) : (skb_reset b).readable = [] := rfl

@[simp] theorem rdsz_reset (b : Skb) : skb_rdsz (skb_reset b) = 0 :=
  (ok_reset b).rdsz_eq

theorem Ok.compact (h : b.Ok) : (skb_compact b).Ok :=
  ⟨Nat.zero_le _, h.rdsz_le⟩

@[simp] theorem rdpos_compact (b : Skb) : (skb_compact b).rdpos = 0 := rfl

theorem Ok.wrpos_compact (h : b.Ok) : (skb_compact b).wrpos = b.wrpos - b.rdpos :=
  h.rdsz_eq

/-- Compaction moves the readable bytes but neither drops nor changes any. -/
theorem Ok.readable_compact (h : b.Ok) : (skb_compact b).readable = b.readable := by
  unfold readable
  rw [h.wrpos_compact, rdpos_compact, Nat.sub_zero]
  unfold skb_compact
  rw [h.rdsz_eq, Memory.window_move]

theorem Ok.rdsz_compact (h : b.Ok) : skb_rdsz (skb_compact b) = skb_rdsz b := by
  rw [h.compact.rdsz_eq, h.wrpos_compact, h.rdsz_eq, rdpos_compact, Nat.sub_zero]

/-- The copy loop stores the next bytes of `src` at the write position of
    `dst`, also where they do not fit into its array. -/
theorem skb_transfer_eq (k : Nat) (dst src : Skb) (hdst : dst.wrpos + k < 4294967296)
    (hsrc : src.rdpos + k < 4294967296) :
    skb_transfer k dst src = (skb_put dst (src.data.window src.rdpos k), skb_rd_forward src k) := by
  induction k generalizing dst src with
  | zero =>
    have hw : u32 dst.wrpos = dst.wrpos := u32_of_lt (by omega)
    have hr : u32 src.rdpos = src.rdpos := u32_of_lt (by omega)
    simp [skb_transfer, skb_put, skb_rd_forward, hw, hr]
  | succ k ih =>
    have hw : u32 (dst.wrpos + 1) = dst.wrpos + 1 := u32_of_lt (by omega)
    have hr : u32 (src.rdpos + 1) = src.rdpos + 1 := u32_of_lt (by omega)
    rw [skb_transfer, hw, hr, ih _ _ (by simp only; omega) (by simp only; omega)]
    have hstore := Memory.store_append dst.data dst.wrpos [src.data src.rdpos]
      (src.data.window (src.rdpos + 1) k)
    rw [List.singleton_append, ← Memory.window_succ] at hstore
    have hcount : 1 + k = k + 1 := Nat.add_comm 1 k
    simp only [skb_put, skb_rd_forward, Memory.length_window, hstore, List.length_singleton,
      Nat.add_assoc, hcount]

/-- The copy loop moves the read position past the bytes, whatever the
    destination is. -/
theorem skb_transfer_snd (k : Nat) (dst : Skb) {src : Skb} (h : src.rdpos + k < 4294967296) :
    (skb_transfer k dst src).2 = skb_rd_forward src k := by
  induction k generalizing dst src with
  | zero =>
    have hr : u32 src.rdpos = src.rdpos := u32_of_lt (by omega)
    simp [skb_transfer, skb_rd_forward, hr]
  | succ k ih =>
    have hr : u32 (src.rdpos + 1) = src.rdpos + 1 := u32_of_lt (by omega)
    rw [skb_transfer, ih _ (by simp only [hr]; omega)]
    simp only [skb_rd_forward, hr, Nat.add_assoc, Nat.add_comm 1 k]

theorem Ok.transfer_bytes (h : src.Ok) {k : Nat} (hk : k ≤ skb_rdsz src) :
    src.data.window src.rdpos k = src.readable.take k :=
  h.get_bytes hk

/-- As long as the source has that many bytes left, the copy loop gets them
    from the source and puts them into the destination. -/
theorem Ok.transfer (hdst : dst.Ok) (hsrc : src.Ok) {k : Nat} (hk : k ≤ skb_rdsz src) :
    skb_transfer k dst src = (skb_put dst (src.readable.take k), (skb_get src k).2) := by
  have hbytes := hsrc.transfer_bytes hk
  have hwr := hdst.wrpos_le
  have hrd := hsrc.rdpos_le
  have hsz := hsrc.wrpos_le
  rw [hsrc.rdsz_eq] at hk
  unfold SKB_SIZE at hwr hsz
  rw [skb_transfer_eq k dst src (by omega) (by omega), hbytes]
  rfl

end Skb

end wsd
