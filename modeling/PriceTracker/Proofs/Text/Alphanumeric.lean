import PriceTracker.Proofs.Text.Words
import PriceTracker.Text.Alphanumeric

/-!
# Letters and digits of ASCII

The letters and numbers of Unicode are kept as a long table of the code points at which membership
flips. Up to the end of ASCII the table says what `Char.isAlphanum` says
(`isAlphanumeric_of_lt`), so no control character of ASCII is a letter or number.

The search in the table is binary. `rankIn_bounds` says where it ends, and as the starts that a text
writes only grow (`le_of_mem_startsFrom`), the first few of them settle it for small characters.
-/

namespace PriceTracker.Text

/-! ## Searching a table -/

/-- The search ends behind an entry that is at most `n`, or at the lower end, and in front of one
that is greater, or at the upper end. -/
theorem rankIn_bounds (xs : Array Nat) (n : Nat) {lo hi : Nat} (h : lo ≤ hi) :
    rankIn xs n lo hi ≤ hi ∧
      (rankIn xs n lo hi = lo ∨ xs.getD (rankIn xs n lo hi - 1) 0 ≤ n) ∧
      (rankIn xs n lo hi = hi ∨ n < xs.getD (rankIn xs n lo hi) 0) := by
  fun_induction rankIn xs n lo hi with
  | case1 lo hi hlt mid hle ih =>
    obtain ⟨hhi, hlow, hhigh⟩ := ih (by omega)
    refine ⟨hhi, Or.inr ?_, hhigh⟩
    rcases hlow with hlow | hlow
    · rwa [hlow, Nat.add_sub_cancel]
    · exact hlow
  | case2 lo hi hlt mid hgt ih =>
    obtain ⟨hhi, hlow, hhigh⟩ := ih (by omega)
    refine ⟨by omega, hlow, Or.inr ?_⟩
    rcases hhigh with hhigh | hhigh
    · rw [hhigh]
      omega
    · exact hhigh
  | case3 lo hi hge => exact ⟨h, Or.inl rfl, Or.inl (by omega)⟩

/-! ## Reading a table -/

/-- The starts of runs, each with its distance to the one before it. -/
def startsFrom (start : Nat) : List (List Char) → List Nat
  | [] => []
  | entry :: entries =>
    let start := start + ofLowerHex (entry.takeWhile fun c => (lowerHexDigit? c).isSome)
    start :: startsFrom start entries

theorem le_of_mem_startsFrom {start n : Nat} {entries : List (List Char)}
    (h : n ∈ startsFrom start entries) : start ≤ n := by
  induction entries generalizing start with
  | nil => simp [startsFrom] at h
  | cons entry entries ih =>
    rw [startsFrom, List.mem_cons] at h
    rcases h with rfl | h
    · exact Nat.le_add_right _ _
    · exact Nat.le_trans (Nat.le_add_right _ _) (ih h)

theorem le_getD_startsFrom {start k : Nat} {entries : List (List Char)}
    (h : k < (startsFrom start entries).length) : start ≤ (startsFrom start entries).getD k 0 := by
  rw [List.getD_eq_getElem?_getD, List.getElem?_eq_getElem h]
  exact le_of_mem_startsFrom (List.getElem_mem h)

theorem flips_read (text : String) :
    (CharSet.read text).flips = (startsFrom 0 (words text.toList)).toArray := by
  have hfold : ∀ (entries : List (List Char)) (start : Nat) (done : List (Nat × List Char)),
      ((entries.foldl (fun acc entry =>
        let start := acc.1 + ofLowerHex (entry.takeWhile fun c => (lowerHexDigit? c).isSome)
        (start, (start, entry.dropWhile fun c => (lowerHexDigit? c).isSome) :: acc.2))
        (start, done)).2.reverse).map Prod.fst =
      done.reverse.map Prod.fst ++ startsFrom start entries := by
    intro entries
    induction entries with
    | nil => simp [startsFrom]
    | cons entry entries ih =>
      intro start done
      rw [List.foldl_cons, ih, startsFrom]
      simp
  rw [CharSet.read, readEntries, hfold]
  rfl

/-! ## The table of letters and numbers -/

set_option maxRecDepth 20000 in
theorem exists_read_alphanumerics : ∃ rest, alphanumerics = .read (String.ofList
    (['3', '0'] ++ ' ' :: (['a'] ++ ' ' :: (['7'] ++ ' ' :: (['1', 'a'] ++ ' ' ::
      (['6'] ++ ' ' :: (['1', 'a'] ++ ' ' :: (['2', 'f'] ++ ' ' :: rest)))))))) :=
  ⟨_, rfl⟩

/-- Up to the feminine ordinal indicator, membership flips around the digits, the capital letters
and the small letters. -/
theorem exists_flips_alphanumerics : ∃ entries, alphanumerics.flips =
    (0x30 :: 0x3A :: 0x41 :: 0x5B :: 0x61 :: 0x7B :: 0xAA :: startsFrom 0xAA entries).toArray := by
  obtain ⟨rest, hread⟩ := exists_read_alphanumerics
  refine ⟨words rest, ?_⟩
  rw [hread, flips_read, String.toList_ofList]
  iterate 7 rw [words_append_blank (by simp) (by decide)]
  rfl

theorem getD_toArray (l : List Nat) (i : Nat) : l.toArray.getD i 0 = l.getD i 0 := by
  simp

/-- The other flips lie beyond ASCII. -/
theorem le_getD_flips_alphanumerics {i : Nat} (h : 6 ≤ i) (lt : i < alphanumerics.flips.size) :
    0xAA ≤ alphanumerics.flips.getD i 0 := by
  obtain ⟨entries, hflips⟩ := exists_flips_alphanumerics
  obtain ⟨k, rfl⟩ := Nat.exists_eq_add_of_le' h
  rw [hflips] at lt ⊢
  rw [List.size_toArray] at lt
  rw [getD_toArray]
  cases k with
  | zero => exact Nat.le_refl _
  | succ k =>
    have hk : k < (startsFrom 0xAA entries).length := by
      simp only [List.length_cons] at lt
      omega
    exact le_getD_startsFrom hk

theorem isAlphanum_iff (c : Char) : c.isAlphanum = true ↔ 0x30 ≤ c.toNat ∧ c.toNat < 0x3A ∨
    0x41 ≤ c.toNat ∧ c.toNat < 0x5B ∨ 0x61 ≤ c.toNat ∧ c.toNat < 0x7B := by
  unfold Char.isAlphanum Char.isAlpha Char.isUpper Char.isLower Char.isDigit
  simp only [Bool.or_eq_true, Bool.and_eq_true, decide_eq_true_eq, ge_iff_le,
    UInt32.le_iff_toNat_le, Char.toNat, Char.reduceVal, UInt32.reduceToNat]
  omega

/-- **In ASCII the letters and numbers are the usual ones.** -/
theorem isAlphanumeric_of_lt {c : Char} (h : c.toNat < 0x80) : isAlphanumeric c = c.isAlphanum := by
  obtain ⟨entries, hflips⟩ := exists_flips_alphanumerics
  have hsize : 7 ≤ alphanumerics.flips.size := by
    rw [hflips, List.size_toArray]
    simp only [List.length_cons]
    omega
  obtain ⟨hle, hlow, hhigh⟩ := rankIn_bounds alphanumerics.flips c.toNat
    (Nat.zero_le alphanumerics.flips.size)
  rw [isAlphanumeric, CharSet.contains, Bool.eq_iff_iff, isAlphanum_iff]
  generalize rankIn alphanumerics.flips c.toNat 0 alphanumerics.flips.size = r at hle hlow hhigh ⊢
  -- The entry in front of the place that was found is at most `c`, so it is one of the first six.
  have hr : r ≤ 6 := by
    refine Nat.le_of_not_lt fun hr => ?_
    have hentry := le_getD_flips_alphanumerics (i := r - 1) (by omega) (by omega)
    omega
  have hcases : r = 0 ∨ r = 1 ∨ r = 2 ∨ r = 3 ∨ r = 4 ∨ r = 5 ∨ r = 6 := by omega
  rw [hflips, getD_toArray] at hlow hhigh
  rcases hcases with rfl | rfl | rfl | rfl | rfl | rfl | rfl <;> simp at hlow hhigh ⊢ <;> omega

end PriceTracker.Text
