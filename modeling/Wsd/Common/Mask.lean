import Wsd.Bytes.Word
import Wsd.Types

namespace wsd

/-- Masks or unmasks the byte at index `i` of a payload. -/
def mask (c : UInt8) (i key : Nat) : UInt8 :=
  let mask := match i % 4 with
    | 0 => UInt8.ofNat (key &&& 0x000000ff)
    | 1 => UInt8.ofNat ((key &&& 0x0000ff00) >>> 8)
    | 2 => UInt8.ofNat ((key &&& 0x00ff0000) >>> 16)
    | _ => UInt8.ofNat ((key &&& 0xff000000) >>> 24)
  c ^^^ mask

/-- Masks a byte string whose first byte has index `j` in its payload. -/
def maskFrom (key : Nat) : Nat → List UInt8 → List UInt8
  | _, [] => []
  | j, c :: cs => mask c j key :: maskFrom key (j + 1) cs

/-- `n` rounds of the loop which unmasks a payload in place. -/
def unmask_loop (masking_key : Nat) : Nat → Nat → Nat → Memory UInt8 → Memory UInt8
  | 0, _, _, data => data
  | n + 1, i, j, data =>
    unmask_loop masking_key n (i + 1) (j + 1) (data.store i [mask (data i) j masking_key])

theorem ofNat_and_shiftRight (key s : Nat) :
    UInt8.ofNat ((key &&& (255 <<< s)) >>> s) = UInt8.ofNat (key >>> s) := by
  have hcancel : 255 <<< s >>> s = 255 := by rw [Nat.shiftLeft_shiftRight]
  have hbyte : key >>> s &&& 255 = key >>> s % 2 ^ 8 := Nat.and_two_pow_sub_one_eq_mod _ 8
  apply UInt8.toNat_inj.mp
  simp only [UInt8.toNat_ofNat', Nat.shiftRight_and_distrib, hcancel, hbyte]
  exact Nat.mod_mod _ _

/-- The four branches select the byte of the key at the index modulo four. -/
theorem mask_eq (c : UInt8) (i key : Nat) : mask c i key = c ^^^ UInt8.ofNat (key >>> (8 * (i % 4))) := by
  have hrem : i % 4 < 4 := Nat.mod_lt i (by decide)
  have h0 := ofNat_and_shiftRight key 0
  have h1 := ofNat_and_shiftRight key 8
  have h2 := ofNat_and_shiftRight key 16
  have h3 := ofNat_and_shiftRight key 24
  unfold mask
  generalize i % 4 = j at hrem
  obtain rfl | rfl | rfl | rfl : j = 0 ∨ j = 1 ∨ j = 2 ∨ j = 3 := by omega
  · simpa using h0
  · simpa using h1
  · simpa using h2
  · simpa using h3

/-- Masking is its own inverse. -/
theorem mask_mask (c : UInt8) (i key : Nat) : mask (mask c i key) i key = c := by
  rw [mask_eq, mask_eq, UInt8.xor_assoc, UInt8.xor_self, UInt8.xor_zero]

@[simp] theorem length_maskFrom (key j : Nat) (cs : List UInt8) : (maskFrom key j cs).length = cs.length := by
  induction cs generalizing j with
  | nil => rfl
  | cons c cs ih => simp [maskFrom, ih]

theorem maskFrom_maskFrom (key j : Nat) (cs : List UInt8) : maskFrom key j (maskFrom key j cs) = cs := by
  induction cs generalizing j with
  | nil => rfl
  | cons c cs ih => rw [maskFrom, maskFrom, mask_mask, ih]

/-- The in-place loop stores the unmasked bytes over the masked ones and
    touches no other cell. -/
theorem unmask_loop_eq (key n i j : Nat) (data : Memory UInt8) :
    unmask_loop key n i j data = data.store i (maskFrom key j (data.window i n)) := by
  induction n generalizing i j data with
  | zero => simp [unmask_loop, maskFrom]
  | succ n ih =>
    have hkeep : (data.store i [mask (data i) j key]).window (i + 1) n = data.window (i + 1) n :=
      Memory.window_store_after _ _ (by simp)
    have hstore := Memory.store_append data i [mask (data i) j key]
      (maskFrom key (j + 1) (data.window (i + 1) n))
    rw [unmask_loop, ih, hkeep, Memory.window_succ, maskFrom]
    exact hstore.symm

end wsd
