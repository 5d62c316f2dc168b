import Mathlib

/-!
# 64-bit arithmetic without overflow

An operation on signed 64-bit integers gives the exact result where that result has 64 bits, and a cast from unsigned
to signed keeps the values below 2^63.
-/

namespace Exact

variable {a b : Int64}

private theorem bmod_eq {z : ℤ} (hle : -2 ^ 63 ≤ z) (hlt : z < 2 ^ 63) : z.bmod (2 ^ 64) = z :=
  Int.bmod_eq_of_le (by omega) (by omega)

theorem toInt_add (hle : -2 ^ 63 ≤ a.toInt + b.toInt) (hlt : a.toInt + b.toInt < 2 ^ 63) :
    (a + b).toInt = a.toInt + b.toInt := by
  rw [Int64.toInt_add, bmod_eq hle hlt]

theorem toInt_sub (hle : -2 ^ 63 ≤ a.toInt - b.toInt) (hlt : a.toInt - b.toInt < 2 ^ 63) :
    (a - b).toInt = a.toInt - b.toInt := by
  rw [Int64.toInt_sub, bmod_eq hle hlt]

theorem toInt_mul (hle : -2 ^ 63 ≤ a.toInt * b.toInt) (hlt : a.toInt * b.toInt < 2 ^ 63) :
    (a * b).toInt = a.toInt * b.toInt := by
  rw [Int64.toInt_mul, bmod_eq hle hlt]

theorem toInt_toInt64 {n : UInt64} (h : n.toNat < 2 ^ 63) : n.toInt64.toInt = n.toNat := by
  have hbits : n.toInt64.toInt = n.toBitVec.toInt := rfl
  rw [hbits, BitVec.toInt_eq_toNat_of_lt]
  · rfl
  · change 2 * n.toNat < 2 ^ 64
    omega

end Exact
