import PriceTracker.Price
import PriceTracker.Proofs.Number.Digits
import PriceTracker.Proofs.Text.Trimming

/-!
# Reading labels

A label counts by its digits, commas and dots alone. `Denotes` says which amount they spell, without
any reading: the last separator is the decimal point if one or two digits follow it, and otherwise
there is no decimal point. `denotes_iff` ties this to `splitPoint`.

With it each label is settled (`every_label_is_settled`): it is blank, it has no digit, or its
amount is the float nearest to what is spelled. What `plainSpelling` writes can always be read
(`read?_plainSpelling`), so a label with a digit is never unreadable.
-/

namespace PriceTracker.Price

open Decimal

variable {cs before fraction : List Char} {amount : ℚ}

/-! ## What a label spells -/

/-- A character that counts. -/
def isKept (c : Char) : Bool :=
  c.isDigit || isSeparator c

/-- The decimal point stands between both parts: it is a separator with one or two digits, and no
more, behind it. -/
structure IsSplit (cs before fraction : List Char) : Prop where
  point : ∃ c, isSeparator c = true ∧ cs = before ++ c :: fraction
  digits : ∀ c ∈ fraction, c.isDigit = true
  length : fraction.length = 1 ∨ fraction.length = 2

/-- The amount that digits and separators spell. -/
inductive Denotes (cs : List Char) : ℚ → Prop
  | decimal {before fraction : List Char} (h : IsSplit cs before fraction) :
      Denotes cs (ofDigits (before.filter Char.isDigit) +
        ofDigits fraction / 10 ^ fraction.length)
  | whole (h : ∀ before fraction, ¬IsSplit cs before fraction) :
      Denotes cs (ofDigits (cs.filter Char.isDigit))

theorem isSeparator_of_isDigit {c : Char} (h : c.isDigit = true) : isSeparator c = false := by
  by_contra hsep
  rw [Bool.not_eq_false, isSeparator, Bool.or_eq_true, beq_iff_eq, beq_iff_eq] at hsep
  obtain rfl | rfl := hsep <;> exact absurd h (by decide)

theorem isDigit_of_isSeparator {c : Char} (h : isSeparator c = true) : c.isDigit = false := by
  by_contra hdigit
  rw [isSeparator_of_isDigit (Bool.not_eq_false _ ▸ hdigit)] at h
  cases h

theorem splitPoint_of_isSplit (h : IsSplit cs before fraction) :
    splitPoint cs = (before, fraction) := by
  obtain ⟨c, hc, rfl⟩ := h.point
  have hfraction : ∀ d ∈ fraction.reverse, (!isSeparator d) = true := by
    intro d hd
    rw [isSeparator_of_isDigit (h.digits d (List.mem_reverse.1 hd))]
    rfl
  rw [splitPoint, List.reverse_append, List.reverse_cons, List.append_assoc, List.singleton_append,
    List.dropWhile_append_of_pos hfraction, List.takeWhile_append_of_pos hfraction,
    List.dropWhile_cons_of_neg (by simp [hc]), List.takeWhile_cons_of_neg (by simp [hc])]
  simp [h.length]

/-- The characters behind the last separator are digits, since all others are kept separators. -/
theorem splitPoint_of_not_isSplit (hkept : ∀ c ∈ cs, isKept c = true)
    (h : ∀ before fraction, ¬IsSplit cs before fraction) : splitPoint cs = (cs, []) := by
  have hcs := List.takeWhile_append_dropWhile (p := fun c => !isSeparator c) (l := cs.reverse)
  have hdigits : ∀ d ∈ cs.reverse.takeWhile (fun c => !isSeparator c), d.isDigit = true := by
    intro d hd
    have hkeep := hkept d (List.mem_reverse.1 (List.takeWhile_subset _ hd))
    have hsep : isSeparator d = false := by simpa using List.mem_takeWhile_imp hd
    rwa [isKept, hsep, Bool.or_false] at hkeep
  rw [splitPoint]
  generalize cs.reverse.takeWhile (fun c => !isSeparator c) = tail at hcs hdigits ⊢
  cases hdrop : cs.reverse.dropWhile (fun c => !isSeparator c) with
  | nil => rfl
  | cons c before =>
    have hc : isSeparator c = true := by
      have hhead := List.head_dropWhile_not (fun c => !isSeparator c) (l := cs.reverse)
        (by simp [hdrop])
      simpa [hdrop] using hhead
    refine if_neg fun hlength => h before.reverse tail.reverse ⟨⟨c, hc, ?_⟩, ?_, hlength⟩
    · rw [hdrop] at hcs
      rw [← List.reverse_reverse cs, ← hcs, List.reverse_append, List.reverse_cons,
        List.append_assoc, List.singleton_append]
    · simpa using hdigits

/-- The amount that digits with a decimal point between them spell. -/
def amountOf (parts : List Char × List Char) : ℚ :=
  ofDigits (parts.1.filter Char.isDigit) + ofDigits parts.2 / 10 ^ parts.2.length

/-- **What is spelled is what the parts found by `splitPoint` spell.** -/
theorem denotes_iff (hkept : ∀ c ∈ cs, isKept c = true) :
    Denotes cs amount ↔ amount = amountOf (splitPoint cs) := by
  constructor
  · rintro (hsplit | hnone)
    · rw [splitPoint_of_isSplit hsplit, amountOf]
    · rw [splitPoint_of_not_isSplit hkept hnone, amountOf]
      simp [ofDigits]
  · rintro rfl
    by_cases hsplit : ∃ before fraction, IsSplit cs before fraction
    · obtain ⟨before, fraction, hsplit⟩ := hsplit
      rw [splitPoint_of_isSplit hsplit]
      exact .decimal hsplit
    · simp only [not_exists] at hsplit
      have hwhole : amountOf (cs, []) = ofDigits (cs.filter Char.isDigit) := by
        simp [amountOf, ofDigits]
      rw [splitPoint_of_not_isSplit hkept hsplit, hwhole]
      exact .whole hsplit

/-- **The plain spelling is read.** -/
theorem read?_plainSpelling (hkept : ∀ c ∈ cs, isKept c = true)
    (hdigit : cs.filter Char.isDigit ≠ []) :
    ∃ d, read? (plainSpelling cs) = some d ∧ d.value = amountOf (splitPoint cs) := by
  have hfilter (l : List Char) : ∀ c ∈ l.filter Char.isDigit, c.isDigit = true :=
    fun c hc => (List.mem_filter.1 hc).2
  by_cases hsplit : ∃ before fraction, IsSplit cs before fraction
  · obtain ⟨before, fraction, hsplit⟩ := hsplit
    have hne : fraction ≠ [] := by
      rintro rfl
      simpa using hsplit.length
    rw [plainSpelling, splitPoint_of_isSplit hsplit, amountOf]
    dsimp only
    cases hwhole : before.filter Char.isDigit with
    | nil =>
      -- A digit in front, so that there is one.
      have hzero : ofDigits ['0'] = ofDigits [] := rfl
      refine ⟨_, read?_point (List.cons_ne_nil '0' []) (by simp) hne hsplit.digits, ?_⟩
      rw [value_ofDigits_append, hzero]
    | cons c whole =>
      obtain ⟨d, rest, rfl⟩ := List.exists_cons_of_ne_nil hne
      have hdigits := hfilter before
      rw [hwhole] at hdigits
      exact ⟨_, read?_point (by simp) hdigits hne hsplit.digits, value_ofDigits_append _ _⟩
  · simp only [not_exists] at hsplit
    rw [plainSpelling, splitPoint_of_not_isSplit hkept hsplit, amountOf]
    dsimp only
    obtain ⟨c, whole, hwhole⟩ := List.exists_cons_of_ne_nil hdigit
    have hdigits := hfilter cs
    rw [hwhole] at hdigits ⊢
    refine ⟨_, read?_digits (by simp) hdigits, ?_⟩
    simp [value, ofDigits]

/-! ## Labels -/

theorem isKept_of_mem_significant {label : List Char} {c : Char} (h : c ∈ significant label) :
    isKept c = true :=
  (List.mem_filter.1 ((List.rdropWhile_prefix isSeparator _).subset h)).2

theorem filter_isDigit_filter_isKept (cs : List Char) :
    (cs.filter isKept).filter Char.isDigit = cs.filter Char.isDigit := by
  rw [List.filter_filter]
  congr 1
  funext c
  rw [isKept]
  cases c.isDigit <;> rfl

theorem filter_isDigit_significant (label : List Char) :
    (significant label).filter Char.isDigit = label.filter Char.isDigit :=
  (Text.filter_rdropWhile (fun _ => isDigit_of_isSeparator) _).trans
    (filter_isDigit_filter_isKept label)

theorem isKept_iff {c : Char} : isKept c = true ↔
    c.toNat = 0x2C ∨ c.toNat = 0x2E ∨ 0x30 ≤ c.toNat ∧ c.toNat ≤ 0x39 := by
  have hcomma : c = ',' ↔ c.toNat = 0x2C := Char.toNat_inj.symm
  have hdot : c = '.' ↔ c.toNat = 0x2E := Char.toNat_inj.symm
  unfold isKept isSeparator Char.isDigit
  simp only [Bool.or_eq_true, Bool.and_eq_true, decide_eq_true_eq, beq_iff_eq, hcomma, hdot,
    ge_iff_le, UInt32.le_iff_toNat_le, Char.toNat, Char.reduceVal, UInt32.reduceToNat]
  omega

/-- Blanks do not count. -/
theorem isKept_of_isBlank {c : Char} (h : Text.isBlank c = true) : isKept c = false := by
  rw [← Bool.not_eq_true, isKept_iff]
  simp only [Text.isBlank, Bool.or_eq_true, Bool.and_eq_true, decide_eq_true_eq, beq_iff_eq] at h
  omega

theorem significant_trimBy (label : List Char) :
    significant (Text.trimBy Text.isBlank label) = significant label := by
  have hfilter := Text.filter_trimBy (fun c => isKept_of_isBlank (c := c)) label
  change ((Text.trimBy Text.isBlank label).filter isKept).rdropWhile isSeparator =
    (label.filter isKept).rdropWhile isSeparator
  rw [hfilter]

theorem any_isDigit_significant (label : List Char) :
    (significant label).any Char.isDigit = label.any Char.isDigit := by
  rw [Bool.eq_iff_iff, List.any_eq_true, List.any_eq_true]
  simp only [← List.mem_filter, filter_isDigit_significant]

/-- What happens to a label does not depend on the blanks around it. -/
theorem ofLabel_eq (label : String) : ofLabel label =
    if Text.isBlankText label then .ok none
    else if !label.toList.any Char.isDigit then .error (.noDigits (Text.trim label))
    else
      match Decimal.read? (plainSpelling (significant label.toList)) with
      | some d => .ok (some d.toFloat)
      | none => .error (.unreadable (Text.trim label)) := by
  rw [ofLabel]
  dsimp only
  rw [significant_trimBy, Text.isEmpty_trimBy, any_isDigit_significant]
  rfl

/-- A label with a digit is not blank. -/
theorem isBlankText_of_digit {label : String} (hdigit : label.toList.any Char.isDigit = true) :
    Text.isBlankText label = false := by
  obtain ⟨c, hc, hdigit⟩ := List.any_eq_true.1 hdigit
  by_contra hblank
  rw [Bool.not_eq_false, Text.isBlankText, List.all_eq_true] at hblank
  have hkept := isKept_of_isBlank (hblank c hc)
  rw [isKept, hdigit] at hkept
  cases hkept

/-- **A label with a digit has an amount**, which is rounded. -/
theorem ofLabel_of_digit {label : String} (hdigit : label.toList.any Char.isDigit = true) :
    ∃ v, ofLabel label = .ok (some v) ∧
      IsNearest v (amountOf (splitPoint (significant label.toList))) := by
  have hdigits : (significant label.toList).filter Char.isDigit ≠ [] := by
    rw [filter_isDigit_significant]
    simpa using hdigit
  obtain ⟨d, hread, hvalue⟩ := read?_plainSpelling (fun c => isKept_of_mem_significant) hdigits
  rw [ofLabel_eq, isBlankText_of_digit hdigit, hdigit, hread, ← hvalue]
  exact ⟨d.toFloat, rfl, d.isNearest_toFloat⟩

/-- A label without a digit has no amount. -/
theorem ofLabel_of_no_digit {label : String} (hdigit : label.toList.any Char.isDigit = false) :
    ofLabel label = if Text.isBlankText label then .ok none
      else .error (.noDigits (Text.trim label)) := by
  rw [ofLabel_eq, hdigit]
  rfl

theorem any_isDigit_of_ok {label : String} {v : Float} (h : ofLabel label = .ok (some v)) :
    label.toList.any Char.isDigit = true := by
  by_contra hdigit
  rw [ofLabel_of_no_digit (Bool.not_eq_true _ ▸ hdigit)] at h
  split at h <;> cases h

/-- **Only what is kept of a label matters to its amount.** -/
theorem ofLabel_of_same_kept {label other : String} {v : Float}
    (hkept : other.toList.filter isKept = label.toList.filter isKept)
    (h : ofLabel label = .ok (some v)) : ofLabel other = .ok (some v) := by
  have hsignificant : significant other.toList = significant label.toList :=
    congrArg (List.rdropWhile isSeparator) hkept
  have hdigit := any_isDigit_of_ok h
  have hdigit' : other.toList.any Char.isDigit = true := by
    rw [← any_isDigit_significant, hsignificant, any_isDigit_significant, hdigit]
  obtain ⟨w, hw, hnear⟩ := ofLabel_of_digit hdigit
  obtain ⟨w', hw', hnear'⟩ := ofLabel_of_digit hdigit'
  rw [hsignificant] at hnear'
  obtain rfl : w = v := by simpa [hw] using h
  rw [hw', hnear'.unique hnear]

/-- **Every label is settled.** It is blank and has no amount, or it has no digit and is refused
with its text, or its amount is the float nearest to what its digits and separators spell. Nothing
else about a label changes its amount. -/
theorem every_label_is_settled (label : String) :
    (ofLabel label = .ok none ↔ Text.isBlankText label = true) ∧
    (∀ text, ofLabel label = .error (.noDigits text) ↔ text = Text.trim label ∧
      Text.isBlankText label = false ∧ label.toList.any Char.isDigit = false) ∧
    (∀ text, ofLabel label ≠ .error (.unreadable text)) ∧
    (label.toList.any Char.isDigit = true → ∃ v amount, ofLabel label = .ok (some v) ∧
      Denotes ((label.toList.filter isKept).rdropWhile isSeparator) amount ∧
      IsNearest v amount) ∧
    ∀ other : String, other.toList.filter isKept = label.toList.filter isKept →
      ∀ v, ofLabel other = .ok (some v) ↔ ofLabel label = .ok (some v) := by
  refine and_assoc.1 <| and_assoc.1 <| and_assoc.1 ⟨?_, fun other hother v =>
    ⟨ofLabel_of_same_kept hother.symm, ofLabel_of_same_kept hother⟩⟩
  cases hdigit : label.toList.any Char.isDigit with
  | true =>
    obtain ⟨v, hv, hnear⟩ := ofLabel_of_digit hdigit
    rw [hv, isBlankText_of_digit hdigit]
    refine ⟨⟨⟨by simp, by simp⟩, by simp⟩, fun _ => ⟨v, _, rfl, ?_, hnear⟩⟩
    exact (denotes_iff fun c => isKept_of_mem_significant).2 rfl
  | false =>
    rw [ofLabel_of_no_digit hdigit]
    cases hblank : Text.isBlankText label with
    | true => simp
    | false => simp [eq_comm]

end PriceTracker.Price
