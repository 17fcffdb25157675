import Mathlib
import PriceTracker.Number.Decimal

/-!
# Ranks of binary numbers

The non-negative binary64 numbers are counted off by their ranks, and `Decimal.nearestRank` finds
the rank that is nearest to a quotient. All of these numbers are multiples of the least positive
one, so they are compared here as integers: `unitsOf rank` says how many units the number of a rank
is.

* `unitsOf_grid`: the ranks from `k * 2 ^ 52 + 2 ^ 52` on are a grid with step `2 ^ k`, also where
  the next binade begins; `strictMono_unitsOf`: a greater rank is a greater number;
* `roundDiv_nearest`: `roundDiv` finds the nearest multiple, and the even one of two;
* `nearest_grid`: so the point of the grid is nearest among all ranks;
* `nearestRank_cases`: the rank is that point, or infinity from half a step below `2 ^ 1024` on.
-/

namespace PriceTracker.Decimal

/-! ## Units -/

/-- How many units make one: the least positive number is `2 ^ -1074`. -/
@[irreducible] def unitsPerOne : ℕ := 2 ^ 1074

theorem unitsPerOne_pos : 0 < unitsPerOne := by
  unfold unitsPerOne
  exact pow_pos two_pos _

/-- The number of a rank, in units. Beyond the finite numbers it goes on as if there were more
exponents, so that the rank of infinity has the next power of two. -/
def unitsOf (rank : ℕ) : ℕ :=
  if rank < 2 ^ 52 then rank else (2 ^ 52 + rank % 2 ^ 52) * 2 ^ (rank / 2 ^ 52 - 1)

theorem unitsOf_grid {k q : ℕ} (hq : q ≤ 2 ^ 53) (hk : k = 0 ∨ 2 ^ 52 ≤ q) :
    unitsOf (k * 2 ^ 52 + q) = q * 2 ^ k := by
  rw [unitsOf]
  rcases lt_or_ge q (2 ^ 52) with hsmall | hlarge
  · obtain rfl : k = 0 := hk.resolve_right (by omega)
    rw [if_pos (by omega)]
    omega
  · rw [if_neg (by omega)]
    rcases hq.lt_or_eq with hlt | rfl
    · rw [show (k * 2 ^ 52 + q) / 2 ^ 52 - 1 = k by omega,
        show 2 ^ 52 + (k * 2 ^ 52 + q) % 2 ^ 52 = q by omega]
    · rw [show (k * 2 ^ 52 + 2 ^ 53) / 2 ^ 52 - 1 = k + 1 by omega,
        show (k * 2 ^ 52 + 2 ^ 53) % 2 ^ 52 = 0 by omega, pow_succ]
      ring

theorem exists_grid (rank : ℕ) :
    ∃ k q, rank = k * 2 ^ 52 + q ∧ q < 2 ^ 53 ∧ (k = 0 ∨ 2 ^ 52 ≤ q) := by
  rcases lt_or_ge rank (2 ^ 53) with hsmall | hlarge
  · exact ⟨0, rank, by omega, hsmall, Or.inl rfl⟩
  · exact ⟨rank / 2 ^ 52 - 1, 2 ^ 52 + rank % 2 ^ 52, by omega, by omega, Or.inr (by omega)⟩

/-- **A greater rank is a greater number.** -/
theorem strictMono_unitsOf : StrictMono unitsOf := by
  refine strictMono_nat_of_lt_succ fun rank => ?_
  obtain ⟨k, q, rfl, hq, hk⟩ := exists_grid rank
  rw [unitsOf_grid hq.le hk, add_assoc, unitsOf_grid hq (hk.imp_right (by omega))]
  exact Nat.mul_lt_mul_of_pos_right (Nat.lt_succ_self q) (by positivity)

/-- A number is on the grid with step `2 ^ k`, or below its binade. -/
theorem exists_mul_or_lt (rank k : ℕ) :
    (∃ n, unitsOf rank = n * 2 ^ k) ∨ 0 < k ∧ unitsOf rank < 2 ^ 52 * 2 ^ k := by
  obtain ⟨j, q, rfl, hq, hj⟩ := exists_grid rank
  rw [unitsOf_grid hq.le hj]
  rcases le_or_gt k j with hle | hlt
  · refine Or.inl ⟨q * 2 ^ (j - k), ?_⟩
    rw [mul_assoc, ← pow_add, Nat.sub_add_cancel hle]
  · refine Or.inr ⟨by omega, ?_⟩
    calc q * 2 ^ j < 2 ^ 53 * 2 ^ j := Nat.mul_lt_mul_of_pos_right hq (by positivity)
      _ = 2 ^ 52 * 2 ^ (j + 1) := by ring
      _ ≤ 2 ^ 52 * 2 ^ k := Nat.mul_le_mul_left _ (Nat.pow_le_pow_right (by decide) hlt)

/-! ## Nearest multiples -/

/-- A multiple is one of two neighbours, or beyond them. -/
theorem mul_cases (n q b : ℕ) :
    n * b + b ≤ q * b ∨ n = q ∨ n = q + 1 ∨ q * b + 2 * b ≤ n * b := by
  rcases lt_or_ge n q with hlt | hge
  · left
    calc n * b + b = (n + 1) * b := by ring
      _ ≤ q * b := Nat.mul_le_mul_right b hlt
  · rcases lt_or_ge n (q + 2) with hlt | hge
    · omega
    · right; right; right
      calc q * b + 2 * b = (q + 2) * b := by ring
        _ ≤ n * b := Nat.mul_le_mul_right b hge

/-- **No multiple of `b` is nearer to `a`**, and only if the one that was found is even, another is
as near. -/
theorem roundDiv_nearest (a : ℕ) {b : ℕ} (hb : 0 < b) (n : ℕ) :
    Nat.dist (roundDiv a b * b) a ≤ Nat.dist (n * b) a ∧
      (Nat.dist (roundDiv a b * b) a = Nat.dist (n * b) a →
        n = roundDiv a b ∨ roundDiv a b % 2 = 0) := by
  have hdiv : a / b * b + a % b = a := Nat.div_add_mod' a b
  have hmod : a % b < b := Nat.mod_lt a hb
  have hcases := mul_cases n (a / b) b
  rw [roundDiv]
  generalize a / b = q at hdiv hcases ⊢
  generalize a % b = r at hdiv hmod ⊢
  simp only [Bool.or_eq_true, decide_eq_true_eq, Bool.and_eq_true, beq_iff_eq]
  refine ⟨?_, fun tie => ?_⟩
  · rcases hcases with hcase | rfl | rfl | hcase <;> split <;>
      simp only [add_mul, one_mul, Nat.dist] <;> omega
  · rcases hcases with hcase | rfl | rfl | hcase <;> split at tie <;> split <;>
      simp only [add_mul, one_mul, Nat.dist] at tie <;> omega

/-- The nearest multiple is not beyond a multiple. -/
theorem roundDiv_le {a b c : ℕ} (hb : 0 < b) (h : a ≤ c * b) : roundDiv a b ≤ c := by
  by_contra hlarge
  have hbeyond := Nat.mul_le_mul_right b (show c + 1 ≤ roundDiv a b by omega)
  have hnear := (roundDiv_nearest a hb c).1
  simp only [Nat.dist, add_mul, one_mul] at hnear hbeyond
  omega

theorem le_roundDiv {a b c : ℕ} (hb : 0 < b) (h : c * b ≤ a) : c ≤ roundDiv a b := by
  by_contra hsmall
  have hbelow := Nat.mul_le_mul_right b (show roundDiv a b + 1 ≤ c by omega)
  have hnear := (roundDiv_nearest a hb c).1
  simp only [Nat.dist, add_mul, one_mul] at hnear hbelow
  omega

/-- The rank is nearest to `num / den` units, and even if another one is as near. -/
structure Nearest (num den rank : ℕ) : Prop where
  le (other : ℕ) : Nat.dist (unitsOf rank * den) num ≤ Nat.dist (unitsOf other * den) num
  even (other : ℕ) (tie : Nat.dist (unitsOf rank * den) num = Nat.dist (unitsOf other * den) num) :
    other = rank ∨ rank % 2 = 0

/-- The binade of a quotient. -/
theorem log2_bounds {num den : ℕ} (hden : 0 < den) :
    let k := (num / den).log2 - 52
    num < 2 ^ 53 * (den * 2 ^ k) ∧ (k = 0 ∨ 2 ^ 52 * (den * 2 ^ k) ≤ num) := by
  intro k
  constructor
  · have hupper : num / den < 2 ^ 53 * 2 ^ k := by
      calc num / den < 2 ^ ((num / den).log2 + 1) := Nat.lt_log2_self
        _ ≤ 2 ^ (53 + k) := Nat.pow_le_pow_right (by decide) (by omega)
        _ = 2 ^ 53 * 2 ^ k := pow_add _ _ _
    rw [Nat.div_lt_iff_lt_mul hden] at hupper
    linarith
  · rcases Nat.eq_zero_or_pos k with hk | hk
    · exact Or.inl hk
    · right
      have hne : num / den ≠ 0 := by
        intro hzero
        simp [k, hzero] at hk
      have hlower : 2 ^ 52 * 2 ^ k ≤ num / den := by
        rw [← pow_add, show 52 + k = (num / den).log2 by omega]
        exact Nat.log2_self_le hne
      rw [Nat.le_div_iff_mul_le hden] at hlower
      linarith

/-- **The nearest point of the grid is nearest among all numbers.** The quotient lies in the binade
of the grid, and the numbers which are not on the grid are below that binade. -/
theorem nearest_grid (num : ℕ) {den : ℕ} (hden : 0 < den) :
    let k := (num / den).log2 - 52
    Nearest num den (k * 2 ^ 52 + roundDiv num (den * 2 ^ k)) := by
  intro k
  obtain ⟨hupper, hlower⟩ := @log2_bounds num den hden
  change num < 2 ^ 53 * (den * 2 ^ k) at hupper
  change k = 0 ∨ 2 ^ 52 * (den * 2 ^ k) ≤ num at hlower
  have hstep : 0 < den * 2 ^ k := by positivity
  have hround := roundDiv_nearest num hstep
  have hq : roundDiv num (den * 2 ^ k) ≤ 2 ^ 53 := roundDiv_le hstep hupper.le
  have hk : k = 0 ∨ 2 ^ 52 ≤ roundDiv num (den * 2 ^ k) := hlower.imp_right (le_roundDiv hstep)
  generalize roundDiv num (den * 2 ^ k) = q at hround hq hk ⊢
  have hvalue : unitsOf (k * 2 ^ 52 + q) * den = q * (den * 2 ^ k) := by
    rw [unitsOf_grid hq hk]
    ring
  have hother (other : ℕ) : (∃ n, unitsOf other * den = n * (den * 2 ^ k)) ∨
      2 ^ 52 * (den * 2 ^ k) ≤ num ∧ unitsOf other * den < 2 ^ 52 * (den * 2 ^ k) := by
    rcases exists_mul_or_lt other k with ⟨n, hn⟩ | ⟨hpos, hlt⟩
    · refine Or.inl ⟨n, ?_⟩
      rw [hn]
      ring
    · refine Or.inr ⟨hlower.resolve_left hpos.ne', ?_⟩
      calc unitsOf other * den < 2 ^ 52 * 2 ^ k * den := Nat.mul_lt_mul_of_pos_right hlt hden
        _ = 2 ^ 52 * (den * 2 ^ k) := by ring
  have hbound := (hround (2 ^ 52)).1
  constructor
  · intro other
    rw [hvalue]
    rcases hother other with ⟨n, hn⟩ | ⟨hle, hlt⟩
    · rw [hn]
      exact (hround n).1
    · simp only [Nat.dist] at hbound ⊢
      omega
  · intro other tie
    rw [hvalue] at tie
    rcases hother other with ⟨n, hn⟩ | ⟨hle, hlt⟩
    · rw [hn] at tie
      rcases (hround n).2 tie with rfl | heven
      · left
        apply strictMono_unitsOf.injective
        exact Nat.eq_of_mul_eq_mul_right hden (hn.trans hvalue.symm)
      · right
        omega
    · simp only [Nat.dist] at hbound tie
      omega

/-! ## Infinity -/

/-- Half a step of the greatest finite numbers, in units. -/
@[irreducible] def halfStep : ℕ := 2 ^ 970 * unitsPerOne

theorem two_mul_halfStep : 2 * halfStep = 2 ^ 2045 := by
  unfold halfStep unitsPerOne
  rw [← pow_add, ← pow_succ']

theorem unitsOf_infinityRank : unitsOf infinityRank = 2 ^ 54 * halfStep := by
  have hrank : infinityRank = 2045 * 2 ^ 52 + 2 ^ 53 := rfl
  rw [hrank, unitsOf_grid le_rfl (Or.inr (by omega)), ← two_mul_halfStep]
  omega

theorem unitsOf_infinityRank_sub_one : unitsOf (infinityRank - 1) = (2 ^ 54 - 2) * halfStep := by
  have hrank : infinityRank - 1 = 2045 * 2 ^ 52 + (2 ^ 53 - 1) := rfl
  rw [hrank, unitsOf_grid (by omega) (Or.inr (by omega)), ← two_mul_halfStep]
  omega

/-- The nearest rank is that of a finite number up to half a step beyond the greatest one. At half a
step the two ranks are equally near, and that of infinity is the even one. -/
theorem Nearest.lt_infinityRank_iff {num den rank : ℕ} (h : Nearest num den rank) (hden : 0 < den) :
    rank < infinityRank ↔ num < (2 ^ 54 - 1) * (halfStep * den) := by
  have hinf : unitsOf infinityRank * den = 2 ^ 54 * (halfStep * den) := by
    rw [unitsOf_infinityRank, mul_assoc]
  have hlast : unitsOf (infinityRank - 1) * den = (2 ^ 54 - 2) * (halfStep * den) := by
    rw [unitsOf_infinityRank_sub_one, mul_assoc]
  generalize halfStep * den = half at hinf hlast ⊢
  constructor
  · intro hlt
    by_contra hnum
    have hle : unitsOf rank * den ≤ unitsOf (infinityRank - 1) * den :=
      Nat.mul_le_mul_right den (strictMono_unitsOf.monotone (by omega))
    have hnear := h.le infinityRank
    have htie := h.even infinityRank
    rw [hinf] at hnear htie
    rw [hlast] at hle
    have hgreatest : unitsOf rank * den = (2 ^ 54 - 2) * half := by
      simp only [Nat.dist] at hnear
      omega
    have hrank : rank = infinityRank - 1 :=
      strictMono_unitsOf.injective (Nat.eq_of_mul_eq_mul_right hden (hgreatest.trans hlast.symm))
    have hodd : (infinityRank - 1) % 2 = 1 := rfl
    simp only [Nat.dist] at hnear htie
    omega
  · intro hnum
    by_contra hge
    have hle : unitsOf infinityRank * den ≤ unitsOf rank * den :=
      Nat.mul_le_mul_right den (strictMono_unitsOf.monotone (by omega))
    have hnear := h.le (infinityRank - 1)
    rw [hinf] at hle
    rw [hlast] at hnear
    simp only [Nat.dist] at hnear
    omega

theorem nearestRank_eq (num den : ℕ) :
    nearestRank num den =
      let k := (num * unitsPerOne / den).log2 - 52
      min infinityRank (k * 2 ^ 52 + roundDiv (num * unitsPerOne) (den * 2 ^ k)) := by
  -- The exponent is a variable, since no tactic should compute the power.
  unfold nearestRank unitsPerOne
  generalize 1074 = exponent
  rfl

/-- **What is found is the nearest rank**, if it is that of a finite number, and otherwise the rank
of infinity. -/
theorem nearestRank_cases (num : ℕ) {den : ℕ} (hden : 0 < den) :
    (num * unitsPerOne < (2 ^ 54 - 1) * (halfStep * den) ∧ nearestRank num den < infinityRank ∧
      Nearest (num * unitsPerOne) den (nearestRank num den)) ∨
    ((2 ^ 54 - 1) * (halfStep * den) ≤ num * unitsPerOne ∧
      nearestRank num den = infinityRank) := by
  have hnear := nearest_grid (num * unitsPerOne) hden
  have hiff := hnear.lt_infinityRank_iff hden
  have heq := nearestRank_eq num den
  dsimp only at hnear hiff heq
  generalize ((num * unitsPerOne / den).log2 - 52) * 2 ^ 52 + roundDiv (num * unitsPerOne)
    (den * 2 ^ ((num * unitsPerOne / den).log2 - 52)) = rank at hnear hiff heq
  rw [heq]
  rcases lt_or_ge rank infinityRank with hlt | hge
  · left
    rw [min_eq_right hlt.le]
    exact ⟨hiff.1 hlt, hlt, hnear⟩
  · right
    rw [min_eq_left hge]
    exact ⟨not_lt.1 fun hnum => hge.not_gt (hiff.2 hnum), rfl⟩

end PriceTracker.Decimal
