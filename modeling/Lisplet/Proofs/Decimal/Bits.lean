import Lisplet.Decimal.Parse
import Mathlib

/-!
# The bits of numbers

The bits of a number are its sign, its exponent field and its fraction. The infinities have the
largest exponent field and no fraction, and the finite numbers lie below them. Numbers with
different bits are equal only if they are the two zeros, so equality goes both ways and can be chained.
-/

open Float.Model (Format)
open Float.Model.UnpackedFloat

namespace Lisplet.Decimal

variable (b : BitVec Format.binary64.numBits)

/-- The fraction is the lowest 52 bits. -/
theorem toNat_unpackMantissa : (unpackMantissa b).toNat = b.toNat % 2 ^ 52 := by
  simp [unpackMantissa]

/-- The exponent field is the eleven bits in front of the fraction. -/
theorem toNat_unpackExponent : (unpackExponent b).toNat = b.toNat / 2 ^ 52 % 2 ^ 11 := by
  simp [unpackExponent, BitVec.extractLsb, Nat.shiftRight_eq_div_pow]

/-- The exponent field of the infinities has all its bits set. -/
theorem unpackExponent_eq_top_iff :
    unpackExponent b = -1#11 ↔ b.toNat / 2 ^ 52 % 2 ^ 11 = 2047 := by
  rw [← toNat_unpackExponent]
  exact ⟨fun h => by rw [h]; rfl, fun h => BitVec.eq_of_toNat_eq h⟩

/-- There is no fraction exactly if the lowest 52 bits are zero. -/
theorem unpackMantissa_eq_zero_iff : unpackMantissa b = 0#52 ↔ b.toNat % 2 ^ 52 = 0 := by
  rw [← toNat_unpackMantissa]
  exact ⟨fun h => by rw [h]; rfl, fun h => BitVec.eq_of_toNat_eq h⟩

/-- Only the infinities and the bits below them are numbers. -/
theorem valid_of_le (hb : b.toNat % 2 ^ 63 ≤ 2047 * 2 ^ 52) : Format.binary64.Valid b := by
  refine ⟨fun htop hfraction => ?_⟩
  rw [unpackExponent_eq_top_iff] at htop
  rw [ne_eq, unpackMantissa_eq_zero_iff] at hfraction
  omega

/-- The bits of the infinities, whichever their sign. -/
theorem isInf_unpack :
    (unpack Format.binary64 b).isInf = true ↔ b.toNat % 2 ^ 63 = 2047 * 2 ^ 52 := by
  have hbits : b.toNat % 2 ^ 63 = 2047 * 2 ^ 52 ↔
      unpackExponent b = -1#11 ∧ unpackMantissa b = 0#52 := by
    rw [unpackExponent_eq_top_iff, unpackMantissa_eq_zero_iff]
    omega
  rw [hbits]
  simp only [unpack]
  split_ifs with htop hzero hnone hzero <;> simp_all [isInf]

/-- The bits of the finite numbers lie below those of the infinities. -/
theorem isFinite_unpack :
    (unpack Format.binary64 b).isFinite = true ↔ b.toNat % 2 ^ 63 < 2047 * 2 ^ 52 := by
  have hbits : b.toNat % 2 ^ 63 < 2047 * 2 ^ 52 ↔ unpackExponent b ≠ -1#11 := by
    rw [ne_eq, unpackExponent_eq_top_iff]
    omega
  rw [hbits]
  simp only [unpack]
  split_ifs with htop hzero hnone hzero <;> simp_all [isFinite]

/-- Bits up to those of the infinities are kept. -/
theorem toBits_ofBits {x : UInt64} (hx : x.toNat % 2 ^ 63 ≤ 2047 * 2 ^ 52) :
    (Float.ofBits x).toBits = x := by
  simp only [Float.ofBits, Float.toBits, Float.Model.ofBits, Float.Model.pack]
  rw [pack_unpack_of_valid (valid_of_le _ hx)]

/-- The infinities have the largest exponent and no fraction. -/
theorem isInf_iff (n : Float) : n.isInf = true ↔ n.toBits.toNat % 2 ^ 63 = 2047 * 2 ^ 52 :=
  isInf_unpack n.toBits.toBitVec

/-- The finite numbers have smaller exponents. -/
theorem isFinite_iff (n : Float) : n.isFinite = true ↔ n.toBits.toNat % 2 ^ 63 < 2047 * 2 ^ 52 :=
  isFinite_unpack n.toBits.toBitVec

/-- A finite number is not infinite. -/
theorem isInf_of_isFinite {n : Float} (h : n.isFinite = true) : n.isInf = false := by
  rw [← Bool.not_eq_true, isInf_iff]
  exact ((isFinite_iff n).mp h).ne

/-! ### Equal numbers -/

/-- Equality of numbers goes both ways. -/
theorem beq_symm {m n : Float} (h : m == n) : n == m := by
  rw [Float.beq_iff_ne_nan_and_eq] at h ⊢
  tauto

/-- The two zeros are equal, and other numbers equal themselves only. -/
theorem beq_trans {k m n : Float} (h : k == m) (h' : m == n) : k == n := by
  have hzero : (0 : Float) ≠ -0 := by decide
  grind [Float.beq_iff_ne_nan_and_eq]

end Lisplet.Decimal
