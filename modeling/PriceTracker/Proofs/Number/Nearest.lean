import PriceTracker.Proofs.Number.Amounts
import PriceTracker.Proofs.Number.Ranks

/-!
# The float nearest to an amount

`valueOf?` says which rational number a float stands for, and `IsNearest` that a float is the one to
which an amount is rounded: nearest among all floats, the even one of two, and infinity from half a
step beyond the greatest finite number on. There is one such float at most (`IsNearest.unique`), and
`Decimal.toFloat` finds it (`Decimal.isNearest_toFloat`).

The bridge between both is that bits below those of infinity stand for as many units as their rank
says (`valueOf?_ofBits`), and that all finite floats do so up to their sign
(`exists_rank_of_valueOf?`).
-/

namespace PriceTracker

open Decimal
open Float.Model Float.Model.UnpackedFloat

/-! ## Values -/

/-- The number that an unpacked float stands for, if it is finite. -/
def unpackedValue? : UnpackedFloat → Option ℚ
  | .zero _ => some 0
  | .finite sign mantissa exponent _ => some (sign.apply mantissa * 2 ^ exponent)
  | .infinity _ => none
  | .notANumber => none

/-- The number that a float stands for, if it is finite. -/
def valueOf? (x : Float) : Option ℚ :=
  unpackedValue? x.toModel.unpack

/-- The sign of a float, by its first bit. -/
def signOf (b : BitVec 64) : ℚ := if b.toNat < 2 ^ 63 then 1 else -1

theorem toNat_unpackExponent (b : BitVec 64) :
    (@unpackExponent .binary64 b).toNat = b.toNat / 2 ^ 52 % 2 ^ 11 := by
  rw [unpackExponent_def, BitVec.extractLsb'_toNat, Nat.shiftRight_eq_div_pow]

theorem toNat_unpackMantissa (b : BitVec 64) :
    (@unpackMantissa .binary64 b).toNat = b.toNat % 2 ^ 52 := by
  rw [unpackMantissa_def, BitVec.extractLsb'_toNat, Nat.shiftRight_zero]

theorem toNat_unpackSign (b : BitVec 64) :
    (@unpackSign .binary64 b).toNat = b.toNat / 2 ^ 63 := by
  have hlt := b.isLt
  rw [unpackSign_def, BitVec.extractLsb'_toNat, Nat.shiftRight_eq_div_pow]
  change b.toNat / 2 ^ 63 % 2 ^ 1 = _
  omega

theorem toNat_one_append (m : BitVec 52) : (1#1 ++ m).toNat = 2 ^ 52 + m.toNat := by
  rw [BitVec.toNat_append, ← Nat.shiftLeft_add_eq_or_of_lt m.isLt, Nat.shiftLeft_eq]
  rfl

theorem cast_apply_ofBitVec (b : BitVec 64) (n : ℕ) :
    (((Sign.ofBitVec (@unpackSign .binary64 b)).apply n : ℤ) : ℚ) = signOf b * n := by
  have hsign := toNat_unpackSign b
  have hlt := b.isLt
  rw [Sign.ofBitVec, signOf]
  split
  · next hzero =>
    have hnat : (@unpackSign .binary64 b).toNat = 0 := congrArg BitVec.toNat hzero
    rw [if_pos (by omega)]
    simp [Sign.apply]
  · next hone =>
    have hnat : (@unpackSign .binary64 b).toNat ≠ 0 := fun h => hone (BitVec.eq_of_toNat_eq h)
    rw [if_neg (by omega)]
    simp [Sign.apply]

theorem cast_unitsPerOne : (unitsPerOne : ℚ) = 2 ^ 1074 := by
  unfold unitsPerOne
  rw [Nat.cast_pow, Nat.cast_ofNat]

/-- A point of a grid, with its binary exponent. -/
theorem mul_zpow_eq (q k : ℕ) :
    (q : ℚ) * 2 ^ ((k : ℤ) - 1074) = (q * 2 ^ k : ℕ) / unitsPerOne := by
  rw [zpow_sub₀ two_ne_zero, zpow_natCast, Nat.cast_mul, Nat.cast_pow, Nat.cast_ofNat,
    cast_unitsPerOne, mul_div_assoc]
  norm_cast

/-- **The value of some bits.** Without the sign they are a rank, which says how many units they
stand for, unless they have the greatest exponent. -/
theorem unpackedValue?_unpack (b : BitVec 64) :
    unpackedValue? (UnpackedFloat.unpack .binary64 b) =
      if b.toNat / 2 ^ 52 % 2 ^ 11 = 2047 then none
      else some (signOf b * (unitsOf (b.toNat % 2 ^ 63) / unitsPerOne)) := by
  have hexp := toNat_unpackExponent b
  have hman := toNat_unpackMantissa b
  have hrank : b.toNat % 2 ^ 63 = b.toNat / 2 ^ 52 % 2 ^ 11 * 2 ^ 52 + b.toNat % 2 ^ 52 := by omega
  rw [hrank, ← hexp, ← hman]
  have hlt : (@unpackMantissa .binary64 b).toNat < 2 ^ 52 := (@unpackMantissa .binary64 b).isLt
  -- The cases of the format: infinity, no number, zero, numbers without the leading bit, the rest.
  fun_cases UnpackedFloat.unpack with
  | case1 mantissa exponent sign s hmax =>
    have he : (@unpackExponent .binary64 b).toNat = 2047 := congrArg BitVec.toNat hmax
    rw [if_pos he]
    rfl
  | case2 mantissa exponent hmax =>
    have he : (@unpackExponent .binary64 b).toNat = 2047 := congrArg BitVec.toNat hmax
    rw [if_pos he]
    rfl
  | case3 mantissa exponent sign s hmax hmin hzero =>
    have he : (@unpackExponent .binary64 b).toNat = 0 := congrArg BitVec.toNat hmin
    have hm : (@unpackMantissa .binary64 b).toNat = 0 := congrArg BitVec.toNat hzero
    rw [he, hm, if_neg (by decide), unpackedValue?]
    simp [unitsOf]
  | case4 mantissa exponent e sign s hmax hmin hzero =>
    have he : (@unpackExponent .binary64 b).toNat = 0 := congrArg BitVec.toNat hmin
    have hexponent : e + 1 = ((0 : ℕ) : ℤ) - 1074 := by
      change ((@unpackExponent .binary64 b).toNat : ℤ) - 1075 + 1 = _
      rw [he]
      rfl
    rw [he, if_neg (by decide), unpackedValue?, hexponent, cast_apply_ofBitVec, mul_assoc,
      mul_zpow_eq, unitsOf_grid (by omega) (Or.inl rfl)]
  | case5 mantissa exponent e sign s hmax hmin =>
    obtain ⟨k, hk⟩ := Nat.exists_eq_succ_of_ne_zero
      fun hzero : (@unpackExponent .binary64 b).toNat = 0 => hmin (BitVec.eq_of_toNat_eq hzero)
    have hexponent : e = (k : ℤ) - 1074 := by
      change ((@unpackExponent .binary64 b).toNat : ℤ) - 1075 = _
      omega
    have hmantissa : (1#1 ++ mantissa).toNat = 2 ^ 52 + (@unpackMantissa .binary64 b).toNat :=
      toNat_one_append _
    have hgrid :
        (@unpackExponent .binary64 b).toNat * 2 ^ 52 + (@unpackMantissa .binary64 b).toNat =
          k * 2 ^ 52 + (2 ^ 52 + (@unpackMantissa .binary64 b).toNat) := by omega
    have hne : (@unpackExponent .binary64 b).toNat ≠ 2047 := fun h => hmax (BitVec.eq_of_toNat_eq h)
    rw [if_neg hne, unpackedValue?, hexponent, cast_apply_ofBitVec, mul_assoc, hmantissa,
      mul_zpow_eq, hgrid, unitsOf_grid (by omega) (Or.inr (by omega))]

/-- Bits below those of infinity stand for as many units as their rank says. -/
theorem valueOf?_ofBits {bits : UInt64} (h : bits.toNat < infinityRank) :
    valueOf? (Float.ofBits bits) = some (unitsOf bits.toNat / unitsPerOne : ℚ) := by
  have hlt : bits.toNat < 2047 * 2 ^ 52 := h
  have hbits : (Float.ofBits bits).toModel.toBits = bits := toBits_ofBits_of_le h.le
  have hexp : ¬bits.toBitVec.toNat / 2 ^ 52 % 2 ^ 11 = 2047 := by
    rw [UInt64.toNat_toBitVec]
    omega
  rw [valueOf?, Float.Model.unpack, hbits, unpackedValue?_unpack, if_neg hexp, signOf,
    UInt64.toNat_toBitVec, Nat.mod_eq_of_lt (by omega), if_pos (by omega), one_mul]

/-- A finite float stands for as many units as some rank says, or for the opposite. -/
theorem exists_rank_of_valueOf? {x : Float} {v : ℚ} (h : valueOf? x = some v) :
    ∃ rank, v = unitsOf rank / unitsPerOne ∨ v = -(unitsOf rank / unitsPerOne) := by
  rw [valueOf?, Float.Model.unpack, unpackedValue?_unpack] at h
  split at h
  · simp at h
  · obtain rfl := Option.some.inj h
    refine ⟨x.toModel.toBits.toBitVec.toNat % 2 ^ 63, ?_⟩
    rw [signOf]
    split
    · exact Or.inl (one_mul _)
    · exact Or.inr (neg_one_mul _)

theorem valueOf?_of_isInf {x : Float} (h : x.isInf = true) : valueOf? x = none := by
  change x.toModel.unpack.isInf = true at h
  rw [valueOf?]
  cases hx : x.toModel.unpack with
  | infinity => rfl
  | _ => simp [hx, UnpackedFloat.isInf] at h

/-- Only infinity has the rank of infinity. -/
theorem isInf_ofBits_iff {bits : UInt64} (h : bits.toNat ≤ infinityRank) :
    (Float.ofBits bits).isInf = true ↔ bits.toNat = infinityRank := by
  constructor
  · intro hinf
    by_contra hne
    have hvalue := valueOf?_ofBits (h.lt_of_ne hne)
    rw [valueOf?_of_isInf hinf] at hvalue
    cases hvalue
  · intro hrank
    obtain rfl : bits = UInt64.ofNat infinityRank := UInt64.toNat_inj.1 hrank
    rfl

theorem isFinite_iff_exists_value {x : Float} : x.isFinite = true ↔ ∃ v, valueOf? x = some v := by
  change x.toModel.unpack.isFinite = true ↔ ∃ v, unpackedValue? x.toModel.unpack = some v
  cases x.toModel.unpack <;> simp [unpackedValue?, UnpackedFloat.isFinite]

/-- The order of floats is that of their values. -/
theorem nonneg_of_valueOf? {x : Float} {v : ℚ} (h : valueOf? x = some v) (hv : 0 ≤ v) : 0 ≤ x := by
  change decide ((0 : Float).toModel.unpack.le x.toModel.unpack = true) = true
  have hzero : (0 : Float).toModel.unpack = .zero .positive := rfl
  rw [hzero, decide_eq_true_eq]
  rw [valueOf?] at h
  cases hx : x.toModel.unpack with
  | notANumber => simp [hx, unpackedValue?] at h
  | infinity => simp [hx, unpackedValue?] at h
  | zero => rfl
  | finite sign mantissa exponent mantissa_pos =>
    cases sign with
    | positive => rfl
    | negative =>
      rw [hx, unpackedValue?, Option.some.injEq] at h
      have hmantissa : (0 : ℚ) < mantissa := by exact_mod_cast mantissa_pos
      have hpos : (0 : ℚ) < mantissa * 2 ^ exponent := mul_pos hmantissa (by positivity)
      simp only [Sign.apply, Int.cast_neg, Int.cast_natCast] at h
      linarith

/-- An amount is not below zero. -/
theorem IsAmount.nonneg {x : Float} (h : IsAmount x) : 0 ≤ x := by
  obtain ⟨bits, hle, rfl⟩ := h
  rcases hle.lt_or_eq with hlt | hinf
  · exact nonneg_of_valueOf? (valueOf?_ofBits hlt) (by positivity)
  · obtain rfl : bits = UInt64.ofNat infinityRank := UInt64.toNat_inj.1 hinf
    decide

/-! ## Nearest floats -/

/-- Half way between the greatest finite float and the next power of two. -/
def overflow : ℚ := 2 ^ 1024 - 2 ^ 970

/-- The float is the one to which the amount is rounded. It has no negative sign. No finite float is
nearer, and if another one is as near, it is the one whose last bit is zero. From half a step beyond
the greatest finite float on, it is infinity. -/
structure IsNearest (x : Float) (amount : ℚ) : Prop where
  isAmount : IsAmount x
  finite (h : amount < overflow) : ∃ v, valueOf? x = some v ∧
    ∀ y w, valueOf? y = some w → |v - amount| ≤ |w - amount| ∧
      (|v - amount| = |w - amount| → w = v ∨ x.toBits.toNat % 2 = 0)
  infinite (h : overflow ≤ amount) : x.isInf = true

/-- Between two numbers that are equally near, all are nearer. -/
theorem abs_sub_lt_of_between {v u w a : ℚ} (hv : v < u) (hw : u < w)
    (tie : |v - a| = |w - a|) : |u - a| < |v - a| := by
  obtain hsame | hopposite := abs_eq_abs.1 tie
  · linarith
  · have hbelow : v - a < 0 := by linarith
    rw [abs_of_neg hbelow, abs_lt]
    constructor <;> linarith

namespace IsNearest

variable {x y : Float} {bits : UInt64} {amount : ℚ}

theorem isInf_iff (h : IsNearest x amount) : x.isInf = true ↔ overflow ≤ amount := by
  refine ⟨fun hinf => ?_, h.infinite⟩
  by_contra hamount
  obtain ⟨v, hv, -⟩ := h.finite (not_le.1 hamount)
  rw [valueOf?_of_isInf hinf] at hv
  cases hv

theorem isFinite_iff (h : IsNearest x amount) : x.isFinite = true ↔ amount < overflow := by
  rw [isFinite_iff_exists_value]
  refine ⟨fun ⟨v, hv⟩ => ?_, fun hamount => (h.finite hamount).imp fun _ => And.left⟩
  by_contra hamount
  rw [valueOf?_of_isInf (h.infinite (not_lt.1 hamount))] at hv
  cases hv

/-- What is nearest to an amount that is not beyond all numbers has a rank below infinity. -/
theorem lt_infinityRank (h : IsNearest (Float.ofBits bits) amount) (hle : bits.toNat ≤ infinityRank)
    (hamount : amount < overflow) : bits.toNat < infinityRank := by
  refine hle.lt_of_ne fun hrank => ?_
  obtain ⟨v, hv, -⟩ := h.finite hamount
  rw [valueOf?_of_isInf ((isInf_ofBits_iff hle).2 hrank)] at hv
  cases hv

/-- **A nearest float is not below another one.** Both would be even, and so there would be a rank
between them, whose number is nearer. -/
theorem le_of_isNearest {other : UInt64} (h : IsNearest (Float.ofBits bits) amount)
    (h' : IsNearest (Float.ofBits other) amount) (hlt : bits.toNat < infinityRank)
    (hlt' : other.toNat < infinityRank) (hamount : amount < overflow) :
    other.toNat ≤ bits.toNat := by
  by_contra hless
  obtain ⟨v, hv, hnear⟩ := h.finite hamount
  obtain ⟨w, hw, hnear'⟩ := h'.finite hamount
  have hbits := valueOf?_ofBits hlt
  have hother := valueOf?_ofBits hlt'
  obtain rfl := Option.some.inj (hv.symm.trans hbits)
  obtain rfl := Option.some.inj (hw.symm.trans hother)
  have hone : (0 : ℚ) < unitsPerOne := by exact_mod_cast unitsPerOne_pos
  have hmono {a b : ℕ} (hab : a < b) : (unitsOf a / unitsPerOne : ℚ) < unitsOf b / unitsPerOne := by
    rw [div_lt_div_iff_of_pos_right hone]
    exact_mod_cast strictMono_unitsOf hab
  have htie := (hnear _ _ hw).1.antisymm (hnear' _ _ hv).1
  have hneq := (hmono (not_le.1 hless)).ne
  have heven := ((hnear _ _ hw).2 htie).resolve_left hneq.symm
  have heven' := ((hnear' _ _ hv).2 htie.symm).resolve_left hneq
  rw [toBits_ofBits_of_le hlt.le] at heven
  rw [toBits_ofBits_of_le hlt'.le] at heven'
  have hnext : (UInt64.ofNat (bits.toNat + 1)).toNat = bits.toNat + 1 := by
    rw [UInt64.toNat_ofNat']
    exact Nat.mod_eq_of_lt (lt_trans (by omega) (by decide : infinityRank < 2 ^ 64))
  have hbetween := valueOf?_ofBits (hnext.trans_lt (show bits.toNat + 1 < infinityRank by omega))
  rw [hnext] at hbetween
  have hnearer := abs_sub_lt_of_between (hmono (Nat.lt_succ_self _))
    (hmono (show bits.toNat + 1 < other.toNat by omega)) htie
  exact hnearer.not_ge (hnear _ _ hbetween).1

/-- **There is one nearest float.** -/
protected theorem unique (h : IsNearest x amount) (h' : IsNearest y amount) : x = y := by
  obtain ⟨bits, hle, rfl⟩ := h.isAmount
  obtain ⟨other, hle', rfl⟩ := h'.isAmount
  suffices hrank : bits.toNat = other.toNat by rw [UInt64.toNat_inj.1 hrank]
  rcases lt_or_ge amount overflow with hamount | hbeyond
  · have hlt := h.lt_infinityRank hle hamount
    have hlt' := h'.lt_infinityRank hle' hamount
    exact (h'.le_of_isNearest h hlt' hlt hamount).antisymm (h.le_of_isNearest h' hlt hlt' hamount)
  · rw [(isInf_ofBits_iff hle).1 (h.infinite hbeyond),
      (isInf_ofBits_iff hle').1 (h'.infinite hbeyond)]

end IsNearest

namespace Decimal

theorem cast_dist (a b : ℕ) : (Nat.dist a b : ℚ) = |(a : ℚ) - b| := by
  rcases le_total a b with h | h
  · rw [Nat.dist_eq_sub_of_le h, Nat.cast_sub h, abs_sub_comm, abs_of_nonneg]
    exact sub_nonneg.2 (by exact_mod_cast h)
  · rw [Nat.dist_eq_sub_of_le_right h, Nat.cast_sub h, abs_of_nonneg]
    exact sub_nonneg.2 (by exact_mod_cast h)

section

variable {num den rank : ℕ}

theorem abs_units_sub_eq (hden : 0 < den) (rank : ℕ) :
    |(unitsOf rank / unitsPerOne : ℚ) - num / den| =
      Nat.dist (unitsOf rank * den) (num * unitsPerOne) / (unitsPerOne * den) := by
  have hone : (0 : ℚ) < unitsPerOne := by exact_mod_cast unitsPerOne_pos
  have hden' : (0 : ℚ) < den := by exact_mod_cast hden
  rw [div_sub_div _ _ hone.ne' hden'.ne', abs_div, abs_of_pos (mul_pos hone hden'), cast_dist,
    Nat.cast_mul, Nat.cast_mul, mul_comm (unitsPerOne : ℚ) num]

theorem lt_overflow_iff (hden : 0 < den) :
    (num / den : ℚ) < overflow ↔ num * unitsPerOne < (2 ^ 54 - 1) * (halfStep * den) := by
  have hone := unitsPerOne_pos
  have hden' : (0 : ℚ) < den := by exact_mod_cast hden
  have hoverflow : overflow = ((2 ^ 54 - 1) * 2 ^ 970 : ℕ) := by
    rw [overflow, show 1024 = 54 + 970 from rfl, pow_add, Nat.cast_mul, Nat.cast_pow,
      Nat.cast_ofNat]
    generalize (2 : ℚ) ^ 970 = half
    norm_num
    ring
  have hstep : (2 ^ 54 - 1) * (halfStep * den) = (2 ^ 54 - 1) * 2 ^ 970 * den * unitsPerOne := by
    unfold halfStep
    generalize (2 : ℕ) ^ 970 = half
    ring
  rw [hoverflow, div_lt_iff₀ hden', hstep, Nat.mul_lt_mul_right hone]
  exact_mod_cast Iff.rfl

/-- A nearest rank, among the numbers that are not negative. -/
theorem Nearest.abs_sub_le (h : Nearest (num * unitsPerOne) den rank) (hden : 0 < den)
    (other : ℕ) :
    |(unitsOf rank / unitsPerOne : ℚ) - num / den| ≤
        |(unitsOf other / unitsPerOne : ℚ) - num / den| ∧
      (|(unitsOf rank / unitsPerOne : ℚ) - num / den| =
          |(unitsOf other / unitsPerOne : ℚ) - num / den| → other = rank ∨ rank % 2 = 0) := by
  have hscale : (0 : ℚ) < unitsPerOne * den := by
    exact_mod_cast Nat.mul_pos unitsPerOne_pos hden
  rw [abs_units_sub_eq hden, abs_units_sub_eq hden]
  refine ⟨?_, fun tie => h.even other ?_⟩
  · rw [div_le_div_iff_of_pos_right hscale]
    exact_mod_cast h.le other
  · rw [div_left_inj' hscale.ne'] at tie
    exact_mod_cast tie

/-- The same among all numbers. A negative one is farther away than zero. -/
theorem Nearest.abs_sub_le_of_value (h : Nearest (num * unitsPerOne) den rank) (hden : 0 < den)
    {y : Float} {w : ℚ} (hw : valueOf? y = some w) :
    |(unitsOf rank / unitsPerOne : ℚ) - num / den| ≤ |w - num / den| ∧
      (|(unitsOf rank / unitsPerOne : ℚ) - num / den| = |w - num / den| →
        w = unitsOf rank / unitsPerOne ∨ rank % 2 = 0) := by
  obtain ⟨other, rfl | rfl⟩ := exists_rank_of_valueOf? hw
  · obtain ⟨hle, htie⟩ := h.abs_sub_le hden other
    exact ⟨hle, fun tie => (htie tie).imp_left fun hother => by rw [hother]⟩
  · obtain ⟨hle, htie⟩ := h.abs_sub_le hden 0
    have hother : (0 : ℚ) ≤ unitsOf other / unitsPerOne := by positivity
    have hamount : (0 : ℚ) ≤ num / den := by positivity
    have hzero : |(unitsOf 0 / unitsPerOne : ℚ) - num / den| = num / den := by
      simp [unitsOf, abs_of_nonneg hamount]
    have hfar : |-(unitsOf other / unitsPerOne : ℚ) - num / den| =
        unitsOf other / unitsPerOne + num / den := by
      rw [abs_of_nonpos (by linarith)]
      ring
    rw [hzero] at hle htie
    rw [hfar]
    refine ⟨by linarith, fun tie => ?_⟩
    have hnone : (unitsOf other / unitsPerOne : ℚ) = 0 := by linarith
    rw [hnone, zero_add] at tie
    exact (htie tie).imp_left fun hrank => by rw [← hrank, hnone]; simp [unitsOf]

/-- **The rank that is found gives the nearest float.** -/
theorem isNearest_ofBits (num : ℕ) (hden : 0 < den) :
    IsNearest (Float.ofBits (UInt64.ofNat (nearestRank num den))) (num / den) := by
  have hle : nearestRank num den ≤ infinityRank := Nat.min_le_left _ _
  have hbits : (UInt64.ofNat (nearestRank num den)).toNat = nearestRank num den := by
    rw [UInt64.toNat_ofNat']
    exact Nat.mod_eq_of_lt (hle.trans_lt (by decide))
  refine ⟨⟨_, hbits.trans_le hle, rfl⟩, fun h => ?_, fun h => ?_⟩
  · rw [lt_overflow_iff hden] at h
    obtain ⟨-, hlt, hnear⟩ | ⟨hge, -⟩ := nearestRank_cases num hden
    · refine ⟨_, valueOf?_ofBits (hbits.trans_lt hlt), fun y w hw => ?_⟩
      rw [toBits_ofBits_of_le (hbits.trans_le hle), hbits]
      exact hnear.abs_sub_le_of_value hden hw
    · exact absurd h hge.not_gt
  · obtain ⟨hlt, -, -⟩ | ⟨-, hinf⟩ := nearestRank_cases num hden
    · exact absurd ((lt_overflow_iff hden).2 hlt) h.not_gt
    · rw [hinf]
      rfl

end

/-- The amount that a decimal stands for. -/
def value (d : Decimal) : ℚ :=
  d.units / 10 ^ d.places

/-- **A decimal is rounded to the nearest float.** -/
theorem isNearest_toFloat (d : Decimal) : IsNearest d.toFloat d.value := by
  have hnear := @isNearest_ofBits (Nat.pow 10 d.places) d.units (pow_pos (by decide) _)
  have hcast : ((Nat.pow 10 d.places : ℕ) : ℚ) = 10 ^ d.places := by
    rw [Nat.pow_eq, Nat.cast_pow, Nat.cast_ofNat]
  rwa [hcast] at hnear

end Decimal

end PriceTracker
