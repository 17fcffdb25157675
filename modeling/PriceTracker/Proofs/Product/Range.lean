import PriceTracker.Proofs.Product.Blocks

/-!
# The range of recorded prices

A label may be of any length, and all of its digits count, so it can spell an amount beyond all
finite floats. Such a label is not refused: its price is recorded as infinity
(`isInf_of_overflow_le`). All other recorded prices are finite (`recorded_prices_finite_iff`), among
them those of labels with at most 308 digits (`Spells.lt_overflow`). No recorded price is negative.
-/

namespace PriceTracker

open Decimal

namespace Price

variable {cs : List Char} {label : String} {amount : ℚ} {x : Float}

/-! ## What is recorded of a label -/

/-- The digits and separators of the label spell the amount. -/
def Spells (label : String) (amount : ℚ) : Prop :=
  Denotes ((label.toList.filter isKept).rdropWhile isSeparator) amount

/-- What a price is like that was read off a label. -/
structure RecordedFrom (label : String) (x : Float) : Prop where
  isNaN : x.isNaN = false
  nonneg : 0 ≤ x
  /-- The price is a finite number or infinity, as the size of the amount has it. -/
  spelled : ∃ amount, Spells label amount ∧ (x.isFinite = true ↔ amount < overflow) ∧
    (x.isInf = true ↔ overflow ≤ amount)
  /-- There are not enough digits for infinity. -/
  short : label.toList.countP Char.isDigit ≤ 308 → x.isFinite = true

/-- An amount has no more places before the point than there are digits. -/
theorem Denotes.lt_pow (h : Denotes cs amount) : amount < 10 ^ cs.countP Char.isDigit := by
  have hdigits (l : List Char) : (ofDigits (l.filter Char.isDigit) : ℚ) + 1 ≤
      10 ^ l.countP Char.isDigit := by
    rw [List.countP_eq_length_filter]
    exact_mod_cast ofDigits_lt fun c hc => (List.mem_filter.1 hc).2
  cases h with
  | @decimal before fraction hsplit =>
    obtain ⟨c, -, rfl⟩ := hsplit.point
    have hfraction : (ofDigits fraction : ℚ) / 10 ^ fraction.length < 1 := by
      rw [div_lt_one (by positivity)]
      exact_mod_cast ofDigits_lt hsplit.digits
    have hcount : before.countP Char.isDigit ≤ (before ++ c :: fraction).countP Char.isDigit :=
      (List.sublist_append_left _ _).countP_le
    calc (ofDigits (before.filter Char.isDigit) + ofDigits fraction / 10 ^ fraction.length : ℚ)
        < ofDigits (before.filter Char.isDigit) + 1 := by linarith
      _ ≤ 10 ^ before.countP Char.isDigit := hdigits before
      _ ≤ 10 ^ (before ++ c :: fraction).countP Char.isDigit :=
        pow_le_pow_right₀ (by norm_num) hcount
  | whole => exact (lt_add_one _).trans_le (hdigits cs)

theorem pow_lt_overflow : (10 : ℚ) ^ 308 < overflow := by
  have hnat : 10 ^ 308 + 2 ^ 970 < 2 ^ 1024 := by decide +kernel
  have hcast : (10 : ℚ) ^ 308 + 2 ^ 970 < 2 ^ 1024 := by exact_mod_cast hnat
  exact lt_sub_iff_add_lt.2 hcast

theorem Spells.lt_overflow (h : Spells label amount)
    (hshort : label.toList.countP Char.isDigit ≤ 308) : amount < overflow := by
  have hcount :
      ((label.toList.filter isKept).rdropWhile isSeparator).countP Char.isDigit ≤ 308 := by
    have hfilter := filter_isDigit_significant label.toList
    rw [List.countP_eq_length_filter] at hshort ⊢
    exact (congrArg List.length hfilter).trans_le hshort
  calc amount < 10 ^ ((label.toList.filter isKept).rdropWhile isSeparator).countP Char.isDigit :=
        Denotes.lt_pow h
    _ ≤ 10 ^ 308 := pow_le_pow_right₀ (by norm_num) hcount
    _ < overflow := pow_lt_overflow

/-- **What is read off a label is recorded**, rounded, and as infinity if need be. -/
theorem recordedFrom_of_ofLabel (h : ofLabel label = .ok (some x)) : RecordedFrom label x := by
  obtain ⟨v, hv, hnear⟩ := ofLabel_of_digit (any_isDigit_of_ok h)
  obtain rfl : v = x := by simpa [hv] using h
  have hspells : Spells label (amountOf (splitPoint (significant label.toList))) :=
    (denotes_iff fun c => isKept_of_mem_significant).2 rfl
  exact ⟨hnear.isAmount.isNaN, hnear.isAmount.nonneg,
    ⟨_, hspells, hnear.isFinite_iff, hnear.isInf_iff⟩,
    fun hshort => hnear.isFinite_iff.2 (hspells.lt_overflow hshort)⟩

theorem Spells.unique {other : ℚ} (h : Spells label amount) (h' : Spells label other) :
    amount = other := by
  have hkept : ∀ c ∈ (label.toList.filter isKept).rdropWhile isSeparator, isKept c = true :=
    fun c => isKept_of_mem_significant
  rw [(denotes_iff hkept).1 h, (denotes_iff hkept).1 h']

theorem RecordedFrom.isInf_iff (h : RecordedFrom label x) (hspells : Spells label amount) :
    x.isInf = true ↔ overflow ≤ amount := by
  obtain ⟨other, hother, -, hinf⟩ := h.spelled
  rwa [hspells.unique hother]

/-! ## Labels with a number and nothing else -/

theorem spells_toDigits (w : ℕ) : Spells (String.ofList (Nat.toDigits 10 w)) w := by
  have hdigit (c) (hc : c ∈ Nat.toDigits 10 w) : c.isDigit = true := isDigit_of_mem_toDigits hc
  have hkept : (Nat.toDigits 10 w).filter isKept = Nat.toDigits 10 w :=
    List.filter_eq_self.2 fun c hc => by rw [isKept, hdigit c hc, Bool.true_or]
  have hdrop : (Nat.toDigits 10 w).rdropWhile isSeparator = Nat.toDigits 10 w :=
    List.rdropWhile_eq_self_iff.2 fun hne => by
      simp [isSeparator_of_isDigit (hdigit _ (List.getLast_mem hne))]
  have hnone (before fraction) : ¬IsSplit (Nat.toDigits 10 w) before fraction := by
    rintro ⟨⟨c, hc, hcs⟩, -⟩
    have hsep := isDigit_of_isSeparator hc
    rw [hdigit c (by simp [hcs])] at hsep
    cases hsep
  have hvalue : ofDigits ((Nat.toDigits 10 w).filter Char.isDigit) = w := by
    rw [List.filter_eq_self.2 hdigit, ofDigits_toDigits]
  have hdenotes : Denotes (Nat.toDigits 10 w)
      (ofDigits ((Nat.toDigits 10 w).filter Char.isDigit) : ℕ) := .whole hnone
  rwa [hvalue, ← hdrop, ← hkept, ← String.toList_ofList (l := Nat.toDigits 10 w)] at hdenotes

theorem any_isDigit_toDigits (w : ℕ) :
    (String.ofList (Nat.toDigits 10 w)).toList.any Char.isDigit = true := by
  rw [String.toList_ofList]
  obtain ⟨c, hc⟩ := List.exists_mem_of_ne_nil _ (Nat.toDigits_ne_nil (b := 10) (n := w))
  exact List.any_eq_true.2 ⟨c, hc, isDigit_of_mem_toDigits hc⟩

/-- The least power of ten beyond all numbers. -/
theorem overflow_le_pow : overflow ≤ ((10 ^ 309 : ℕ) : ℚ) := by
  have hnat : 2 ^ 1024 ≤ 10 ^ 309 + 2 ^ 970 := by decide +kernel
  have hcast : (2 : ℚ) ^ 1024 ≤ (10 ^ 309 : ℕ) + 2 ^ 970 := by exact_mod_cast hnat
  exact sub_le_iff_le_add.2 hcast

end Price

/-! ## Records -/

namespace ProductRecord

open Price

variable {raw : RawProduct} {r : ProductRecord}

/-- **No block is refused for the length of a label.** If the amount is beyond all numbers, the
price is recorded as infinity. -/
theorem isInf_of_overflow_le {label : String} {amount : ℚ} (complete : raw.IsComplete)
    (hlabel : raw.currentPrice = some label) (hspells : Spells label amount)
    (h : overflow ≤ amount) :
    ∃ r, ofRaw raw = .ok r ∧ r.currentPrice.isInf = true ∧ r.currentPrice.isFinite = false := by
  obtain ⟨r, hr, hdescribes⟩ := RawProduct.ofRaw_of_isComplete complete
  obtain ⟨written, hwritten, hprice⟩ := hdescribes.currentPrice
  obtain rfl : label = written := Option.some.inj (hlabel.symm.trans hwritten)
  have hinf := ((recordedFrom_of_ofLabel hprice).isInf_iff hspells).2 h
  refine ⟨r, hr, hinf, ?_⟩
  rw [← Bool.not_eq_true, isFinite_iff_exists_value, valueOf?_of_isInf hinf]
  simp

/-- **Which recorded prices are finite.** The prices of a record were read off the labels of its
block. They are numbers and not negative. A price is finite if what its label spells is nearer to a
finite float than to the power of two beyond all of them, and infinity otherwise. -/
theorem recorded_prices_finite_iff (h : ofRaw raw = .ok r) :
    (∃ label, raw.currentPrice = some label ∧ RecordedFrom label r.currentPrice) ∧
      ∀ x, r.originalPrice = some x →
        ∃ label, raw.originalPrice = some label ∧ RecordedFrom label x := by
  have hdescribes := RawProduct.ofRaw_eq_ok_iff.1 h
  obtain ⟨label, hlabel, hprice⟩ := hdescribes.currentPrice
  refine ⟨⟨label, hlabel, recordedFrom_of_ofLabel hprice⟩, fun x hx => ?_⟩
  obtain ⟨other, hother, hread⟩ := hdescribes.exists_label_of_original hx
  exact ⟨other, hother, recordedFrom_of_ofLabel hread⟩

/-- A usual price beside one that is beyond all numbers. -/
theorem finite_beside_infinite_price :
    let digits := String.ofList (Nat.toDigits 10 (10 ^ 309))
    let raw : RawProduct :=
      { pid := "1", name := "Bell", url := "http://a/p", currentPrice := "1 234,50 Kč",
        originalPrice := digits }
    ∃ r x, ofRaw raw = .ok r ∧ r.currentPrice.isFinite = true ∧ r.originalPrice = some x ∧
      x.isInf = true := by
  intro digits raw
  have hdigit : digits.toList.any Char.isDigit = true := any_isDigit_toDigits _
  have hspells : Spells digits (10 ^ 309 : ℕ) := spells_toDigits _
  -- No digit of the label is computed from here on.
  clear_value digits
  have complete : raw.IsComplete := by
    refine ⟨⟨_, rfl, rfl⟩, ⟨_, rfl, rfl⟩, ⟨_, rfl, rfl⟩, ⟨_, rfl, rfl⟩, ?_⟩
    rintro _ ⟨⟩
    exact Or.inr hdigit
  obtain ⟨r, hr, hdescribes⟩ := RawProduct.ofRaw_of_isComplete complete
  obtain ⟨x, hx, -⟩ := ofLabel_of_digit hdigit
  have hother : r.originalPrice = some x :=
    (Except.ok.inj (hx.symm.trans (hdescribes.originalPrice digits rfl))).symm
  obtain ⟨⟨_, ⟨⟩, hcurrent⟩, horiginal⟩ := recorded_prices_finite_iff hr
  obtain ⟨_, ⟨⟩, hrecorded⟩ := horiginal x hother
  exact ⟨r, x, hr, hcurrent.short (by decide), hother,
    (hrecorded.isInf_iff hspells).2 overflow_le_pow⟩

/-- A label with 310 digits is recorded as infinity. -/
theorem infinite_price_recorded :
    let raw : RawProduct :=
      { pid := "1", name := "Bell", url := "http://a/p",
        currentPrice := String.ofList (Nat.toDigits 10 (10 ^ 309)) }
    ∃ r, ofRaw raw = .ok r ∧ r.currentPrice.isInf = true ∧ r.currentPrice.isFinite = false :=
  isInf_of_overflow_le
    ⟨⟨_, rfl, rfl⟩, ⟨_, rfl, rfl⟩, ⟨_, rfl, rfl⟩, ⟨_, rfl, any_isDigit_toDigits _⟩, nofun⟩ rfl
    (spells_toDigits _) overflow_le_pow

end ProductRecord

end PriceTracker
