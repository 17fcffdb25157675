import Mathlib
import PriceTracker.Number.Decimal

/-!
# Amounts

The bits of a number that was read off a label are a rank, at most that of infinity (`IsAmount`).
What is not a number and the negative numbers come after infinity, so an amount is neither
(`IsAmount.isNaN`, `IsAmount.ne_neg_zero`).
-/

namespace PriceTracker

open Float.Model.UnpackedFloat

/-- Up to the rank of infinity, only infinity has the greatest exponent. -/
theorem isNaNBits_of_le {b : BitVec 64} (h : b.toNat ≤ Decimal.infinityRank) :
    @isNaNBits .binary64 b = false := by
  have hle : b.toNat ≤ 2047 * 2 ^ 52 := h
  simp only [isNaNBits, decide_eq_false_iff_not, not_and, not_not]
  intro hexponent
  have hrank : b.toNat / 2 ^ 52 % 2 ^ 11 = 2047 := by
    rw [unpackExponent_def] at hexponent
    have htoNat := congrArg BitVec.toNat hexponent
    rw [BitVec.extractLsb'_toNat, Nat.shiftRight_eq_div_pow] at htoNat
    exact htoNat
  have hmantissa : b.toNat / 2 ^ 0 % 2 ^ 52 = 0 := by omega
  rw [unpackMantissa_def]
  apply BitVec.eq_of_toNat_eq
  rw [BitVec.extractLsb'_toNat, Nat.shiftRight_eq_div_pow]
  exact hmantissa

/-- These bits are not changed when they are read. -/
theorem toBits_ofBits_of_le {bits : UInt64} (h : bits.toNat ≤ Decimal.infinityRank) :
    (Float.ofBits bits).toBits = bits := by
  have hbits := isNaNBits_of_le (b := bits.toBitVec) h
  refine UInt64.toBitVec_inj.1 ((@pack_unpack .binary64 bits.toBitVec (by decide)).trans ?_)
  rw [if_neg (by simp [hbits])]

/-- A number that can be on a label: not negative, and infinity at most. -/
def IsAmount (x : Float) : Prop :=
  ∃ bits : UInt64, bits.toNat ≤ Decimal.infinityRank ∧ x = Float.ofBits bits

namespace IsAmount

variable {x : Float}

protected theorem isNaN (h : IsAmount x) : x.isNaN = false := by
  obtain ⟨bits, hle, rfl⟩ := h
  have hbits := isNaNBits_of_le (b := bits.toBitVec) hle
  rw [Float.isNaN_eq_decide_eq_nan, decide_eq_false_iff_not]
  intro hnan
  -- The bits would be those of what is no number.
  have hsame : bits.toBitVec = packedNaN .binary64 := by
    rw [← toBits_ofBits_of_le hle, hnan]
    rfl
  rw [hsame, isNaNBits_packedNaN] at hbits
  exact absurd hbits (by decide)

/-- The negative zero comes after infinity. -/
theorem ne_neg_zero (h : IsAmount x) : x ≠ -0 := by
  obtain ⟨bits, hle, rfl⟩ := h
  intro hzero
  have hbits : bits = (-0 : Float).toBits := by
    rw [← hzero, toBits_ofBits_of_le hle]
  rw [hbits] at hle
  exact absurd hle (by decide)

end IsAmount

end PriceTracker
