import Mathlib.Algebra.Group.Nat.Defs
import Mathlib.Data.List.Basic

namespace Bytes

/-- The low `n` bytes of a natural number, least significant byte first. -/
def le : Nat → Nat → List UInt8
  | 0, _ => []
  | n + 1, v => UInt8.ofNat v :: le n (v / 256)

/-- The number whose little-endian representation is the given byte string. -/
def leVal : List UInt8 → Nat
  | [] => 0
  | b :: bs => b.toNat + 256 * leVal bs

/-- The low `n` bytes of a natural number in network order. -/
def be (n v : Nat) : List UInt8 :=
  (le n v).reverse

/-- The number whose network-order representation is the given byte string. -/
def beVal (bs : List UInt8) : Nat :=
  leVal bs.reverse

@[simp] theorem length_le (n v : Nat) : (le n v).length = n := by
  induction n generalizing v with
  | zero => rfl
  | succ n ih => simp [le, ih]

@[simp] theorem length_be (n v : Nat) : (be n v).length = n := by
  simp [be]

theorem leVal_lt (bs : List UInt8) : leVal bs < 256 ^ bs.length := by
  induction bs with
  | nil => simp [leVal]
  | cons b bs ih =>
    have hb : b.toNat < 256 := b.toNat_lt
    simp only [leVal, List.length_cons, Nat.pow_succ]
    omega

/-- Reading back the low `n` bytes of a number reduces it modulo `256 ^ n`. -/
theorem leVal_le (n v : Nat) : leVal (le n v) = v % 256 ^ n := by
  induction n generalizing v with
  | zero => simp [le, leVal, Nat.mod_one]
  | succ n ih =>
    have hbyte : (UInt8.ofNat v).toNat = v % 256 := by simp
    rw [le, leVal, ih, hbyte, Nat.pow_succ, Nat.mul_comm (256 ^ n), Nat.mod_mul]

theorem leVal_le_of_lt {n v : Nat} (h : v < 256 ^ n) : leVal (le n v) = v := by
  rw [leVal_le, Nat.mod_eq_of_lt h]

/-- A byte string is the representation of the number it denotes. -/
theorem le_leVal (bs : List UInt8) : le bs.length (leVal bs) = bs := by
  induction bs with
  | nil => rfl
  | cons b bs ih =>
    have hb : b.toNat < 256 := b.toNat_lt
    have hdiv : (b.toNat + 256 * leVal bs) / 256 = leVal bs := by omega
    have hbyte : UInt8.ofNat (b.toNat + 256 * leVal bs) = b := by
      apply UInt8.toNat_inj.mp
      simp only [UInt8.toNat_ofNat']
      omega
    rw [List.length_cons, le, leVal, hdiv, ih, hbyte]

theorem le_inj {n v w : Nat} (hv : v < 256 ^ n) (hw : w < 256 ^ n) (h : le n v = le n w) : v = w := by
  have hval := congrArg leVal h
  rwa [leVal_le_of_lt hv, leVal_le_of_lt hw] at hval

theorem beVal_be_of_lt {n v : Nat} (h : v < 256 ^ n) : beVal (be n v) = v := by
  rw [beVal, be, List.reverse_reverse, leVal_le_of_lt h]

theorem beVal_lt (bs : List UInt8) : beVal bs < 256 ^ bs.length := by
  have h := leVal_lt bs.reverse
  rwa [List.length_reverse] at h

theorem be_beVal (bs : List UInt8) : be bs.length (beVal bs) = bs := by
  have h := le_leVal bs.reverse
  rw [List.length_reverse] at h
  rw [be, beVal, h, List.reverse_reverse]

end Bytes
