import PriceTracker.Proofs.Price.Reading

/-!
# Writing labels

Shops write an amount in many ways, and all of them are read back (`written_amount_is_read`). A
whole number is written with or without groups of three digits (`SpellsWhole`), hundredths with one
or two digits, and if there are none, with a dash or not at all (`SpellsHundredths`).

A comma or dot may be the mark of a group or the decimal point. What tells them apart is how many
digits follow the last one: three or more behind the mark of a group (`SpellsWhole.not_isSplit`),
and at most two behind the decimal point.
-/

namespace PriceTracker.Price

open Decimal

variable {cs ds before fraction : List Char} {w f : ℕ}

/-! ## Spellings -/

/-- What sets groups of digits apart: blanks that break lines or do not, dots and commas. -/
def groupMarks : List Char :=
  [' ', '\u00A0', '\u202F', '.', ',']

/-- The dashes in place of hundredths. -/
def dashes : List Char :=
  ['-', '‐', '‑', '‒', '–', '—', '−']

/-- A whole number, all of its digits together or with groups of three at the end. -/
inductive SpellsWhole : ℕ → List Char → Prop
  | plain (w : ℕ) : SpellsWhole w (Nat.toDigits 10 w)
  | group {w r : ℕ} {cs : List Char} {mark : Char} (front : SpellsWhole w cs) (pos : 0 < w)
      (mem : mark ∈ groupMarks) (lt : r < 1000) :
      SpellsWhole (1000 * w + r) (cs ++ mark :: lastDigits 3 r)

/-- Hundredths behind a whole number. -/
inductive SpellsHundredths : ℕ → List Char → Prop
  | nothing : SpellsHundredths 0 []
  | dash {point : Char} {cs : List Char} (hpoint : isSeparator point = true)
      (hcs : ∀ c ∈ cs, c ∈ dashes) : SpellsHundredths 0 (point :: cs)
  | tenths {point : Char} {d : ℕ} (hpoint : isSeparator point = true) (lt : d < 10) :
      SpellsHundredths (10 * d) (point :: lastDigits 1 d)
  | hundredths {point : Char} {f : ℕ} (hpoint : isSeparator point = true) (lt : f < 100) :
      SpellsHundredths f (point :: lastDigits 2 f)

/-! ## Points and marks -/

theorem isKept_of_isSeparator {c : Char} (h : isSeparator c = true) : isKept c = true := by
  rw [isKept, h, Bool.or_true]

theorem filter_isKept_of_digits (h : ∀ c ∈ cs, c.isDigit = true) : cs.filter isKept = cs := by
  rw [List.filter_eq_self]
  intro c hc
  rw [isKept, h c hc, Bool.true_or]

/-- Nothing among digits is a decimal point. -/
theorem not_isSplit_of_digits (h : ∀ c ∈ cs, c.isDigit = true) : ¬IsSplit cs before fraction := by
  intro hsplit
  obtain ⟨c, hc, rfl⟩ := hsplit.point
  rw [isSeparator_of_isDigit (h c (by simp))] at hc
  cases hc

/-- In front of three digits or more there is no decimal point. -/
theorem not_isSplit_of_three_digits (h : ∀ c ∈ ds, c.isDigit = true) (hlength : 3 ≤ ds.length) :
    ¬IsSplit (cs ++ ds) before fraction := by
  intro hsplit
  obtain ⟨c, hc, heq⟩ := hsplit.point
  have hnot : c ∉ ds := by
    intro hmem
    rw [isSeparator_of_isDigit (h c hmem)] at hc
    cases hc
  rw [List.append_eq_append_iff] at heq
  obtain ⟨mid, -, hds⟩ | ⟨mid, -, hfraction⟩ := heq
  · exact hnot (by simp [hds])
  · cases mid with
    | nil =>
      rw [List.nil_append] at hfraction
      exact hnot (hfraction ▸ List.mem_cons_self)
    | cons d mid =>
      have hlong : fraction.length = mid.length + ds.length := by
        rw [(List.cons.inj hfraction).2]
        exact List.length_append
      have hshort := hsplit.length
      omega

/-- Separators at the end are dropped down to the last digit. -/
theorem rdropWhile_of_digits {seps : List Char} (h : ∀ c ∈ ds, c.isDigit = true) (ne : ds ≠ [])
    (hseps : ∀ c ∈ seps, isSeparator c = true) :
    (cs ++ ds ++ seps).rdropWhile isSeparator = cs ++ ds := by
  have hdrop : (cs ++ ds ++ seps).rdropWhile isSeparator = (cs ++ ds).rdropWhile isSeparator := by
    rw [List.rdropWhile, List.reverse_append,
      List.dropWhile_append_of_pos (by simpa using hseps), ← List.rdropWhile]
  rw [hdrop, List.rdropWhile_eq_self_iff]
  intro hne
  rw [List.getLast_append_of_ne_nil hne ne, isSeparator_of_isDigit (h _ (List.getLast_mem ne))]
  exact Bool.false_ne_true

namespace SpellsWhole

/-- The amount is in the digits, wherever the marks are. -/
theorem ofDigits_eq (h : SpellsWhole w cs) : ofDigits (cs.filter Char.isDigit) = w := by
  induction h with
  | plain w =>
    rw [List.filter_eq_self.2 fun c => isDigit_of_mem_toDigits, ofDigits_toDigits]
  | @group w r cs mark front pos mem lt ih =>
    have hmark : mark.isDigit = false := by
      simp only [groupMarks, List.mem_cons, List.not_mem_nil, or_false] at mem
      obtain rfl | rfl | rfl | rfl | rfl := mem <;> rfl
    rw [List.filter_append, List.filter_cons_of_neg (by simp [hmark]),
      List.filter_eq_self.2 fun c => isDigit_of_mem_lastDigits, ofDigits_append, ih,
      ofDigits_lastDigits lt, length_lastDigits]
    ring

/-- A number ends with digits, and if anything else is kept of it, with three of them. -/
theorem exists_digits (h : SpellsWhole w cs) : ∃ front ds, cs.filter isKept = front ++ ds ∧
    ds ≠ [] ∧ (∀ c ∈ ds, c.isDigit = true) ∧ (front = [] ∨ 3 ≤ ds.length) := by
  cases h with
  | plain w =>
    exact ⟨[], Nat.toDigits 10 w, filter_isKept_of_digits fun c => isDigit_of_mem_toDigits,
      Nat.toDigits_ne_nil, fun c => isDigit_of_mem_toDigits, Or.inl rfl⟩
  | @group w r cs mark front pos mem lt =>
    have hlength := length_lastDigits 3 r
    refine ⟨(cs ++ [mark]).filter isKept, lastDigits 3 r, ?_, ?_,
      fun c => isDigit_of_mem_lastDigits, Or.inr hlength.ge⟩
    · rw [List.append_cons, List.filter_append,
        filter_isKept_of_digits fun c => isDigit_of_mem_lastDigits]
    · exact List.ne_nil_of_length_pos (by omega)

/-- The marks of groups are no decimal points. -/
theorem not_isSplit (h : SpellsWhole w cs) : ¬IsSplit (cs.filter isKept) before fraction := by
  obtain ⟨front, ds, hcs, -, hdigits, rfl | hlength⟩ := h.exists_digits
  · rw [hcs]
    exact not_isSplit_of_digits hdigits
  · rw [hcs]
    exact not_isSplit_of_three_digits hdigits hlength

/-- A number ends with a digit, which no separator behind it hides. -/
theorem rdropWhile_eq (h : SpellsWhole w cs) {seps : List Char}
    (hseps : ∀ c ∈ seps, isSeparator c = true) :
    (cs.filter isKept ++ seps).rdropWhile isSeparator = cs.filter isKept := by
  obtain ⟨front, ds, hcs, hne, hdigits, -⟩ := h.exists_digits
  rw [hcs]
  exact rdropWhile_of_digits hdigits hne hseps

theorem any_isDigit (h : SpellsWhole w cs) : cs.any Char.isDigit = true := by
  obtain ⟨front, ds, hcs, hne, hdigits, -⟩ := h.exists_digits
  obtain ⟨c, hc⟩ := List.exists_mem_of_ne_nil ds hne
  have hmem : c ∈ cs.filter isKept := hcs ▸ List.mem_append_right front hc
  exact List.any_eq_true.2 ⟨c, (List.mem_filter.1 hmem).1, hdigits c hc⟩

/-- Without hundredths, the digits of the number spell the amount. -/
theorem denotes (h : SpellsWhole w cs) : Denotes (cs.filter isKept) w := by
  have hnone : ∀ before fraction, ¬IsSplit (cs.filter isKept) before fraction :=
    fun _ _ => h.not_isSplit
  have hdenotes := Denotes.whole hnone
  rwa [filter_isDigit_filter_isKept, h.ofDigits_eq] at hdenotes

/-- One or two digits behind a point are a part of the amount. -/
theorem denotes_point (h : SpellsWhole w cs) {point : Char} (hpoint : isSeparator point = true)
    {n x : ℕ} (hn : n = 1 ∨ n = 2) (lt : x < 10 ^ n) {seps : List Char}
    (hseps : ∀ c ∈ seps, isSeparator c = true) :
    Denotes ((cs.filter isKept ++ (point :: lastDigits n x).filter isKept ++ seps).rdropWhile
      isSeparator) (w + x / 10 ^ n) := by
  have hlength := length_lastDigits n x
  have hdigits : ∀ c ∈ lastDigits n x, c.isDigit = true := fun c => isDigit_of_mem_lastDigits
  have hne : lastDigits n x ≠ [] := List.ne_nil_of_length_pos (by omega)
  have hsplit : IsSplit (cs.filter isKept ++ point :: lastDigits n x) (cs.filter isKept)
      (lastDigits n x) := ⟨⟨point, hpoint, rfl⟩, hdigits, by rwa [hlength]⟩
  have hdenotes := Denotes.decimal hsplit
  rw [filter_isDigit_filter_isKept, h.ofDigits_eq, ofDigits_lastDigits lt, hlength] at hdenotes
  rwa [List.filter_cons_of_pos (isKept_of_isSeparator hpoint), filter_isKept_of_digits hdigits,
    List.append_cons, rdropWhile_of_digits hdigits hne hseps, ← List.append_cons]

end SpellsWhole

/-! ## Labels -/

theorem isKept_of_mem_dashes {c : Char} (h : c ∈ dashes) : isKept c = false := by
  simp only [dashes, List.mem_cons, List.not_mem_nil, or_false] at h
  obtain rfl | rfl | rfl | rfl | rfl | rfl | rfl := h <;> rfl

/-- **What is kept of a written amount spells it**, with any separators behind it. -/
theorem denotes_of_spells {number ending seps : List Char} (hnumber : SpellsWhole w number)
    (hending : SpellsHundredths f ending) (hseps : ∀ c ∈ seps, isSeparator c = true) :
    Denotes ((number.filter isKept ++ ending.filter isKept ++ seps).rdropWhile isSeparator)
      (w + f / 100) := by
  cases hending with
  | nothing =>
    rw [List.filter_nil, List.append_nil, hnumber.rdropWhile_eq hseps]
    simpa using hnumber.denotes
  | @dash point cs hpoint hcs =>
    have hdashes : cs.filter isKept = [] := by
      rw [List.filter_eq_nil_iff]
      intro c hc
      simp [isKept_of_mem_dashes (hcs c hc)]
    have hpoints : ∀ c ∈ point :: seps, isSeparator c = true :=
      List.forall_mem_cons.2 ⟨hpoint, hseps⟩
    rw [List.filter_cons_of_pos (isKept_of_isSeparator hpoint), hdashes, List.append_assoc,
      List.singleton_append, hnumber.rdropWhile_eq hpoints]
    simpa using hnumber.denotes
  | @tenths point d hpoint lt =>
    have hdenotes := hnumber.denotes_point hpoint (Or.inl rfl) (show d < 10 ^ 1 from lt) hseps
    have hamount : (w + (10 * d : ℕ) / 100 : ℚ) = w + d / 10 ^ 1 := by
      push_cast
      ring
    rwa [hamount]
  | @hundredths point f hpoint lt =>
    have hdenotes := hnumber.denotes_point hpoint (Or.inr rfl) (show f < 10 ^ 2 from lt) hseps
    have hamount : (w + f / 100 : ℚ) = w + f / 10 ^ 2 := by norm_num
    rwa [hamount]

/-- **A written amount is read**, whatever else is on the label: without digits, commas and dots in
front of it and without digits behind it. -/
theorem written_amount_is_read {number ending front tail : List Char}
    (hnumber : SpellsWhole w number) (hending : SpellsHundredths f ending)
    (hfront : ∀ c ∈ front, isKept c = false) (htail : ∀ c ∈ tail, c.isDigit = false) :
    ∃ v, ofLabel (String.ofList (front ++ number ++ ending ++ tail)) = .ok (some v) ∧
      IsNearest v (w + f / 100) := by
  have hseps : ∀ c ∈ tail.filter isKept, isSeparator c = true := by
    intro c hc
    obtain ⟨hmem, hkept⟩ := List.mem_filter.1 hc
    rwa [isKept, htail c hmem, Bool.false_or] at hkept
  have hfilter : (front ++ number ++ ending ++ tail).filter isKept =
      number.filter isKept ++ ending.filter isKept ++ tail.filter isKept := by
    rw [List.filter_append, List.filter_append, List.filter_append,
      List.filter_eq_nil_iff.2 fun c hc => Bool.eq_false_iff.1 (hfront c hc), List.nil_append]
  have hdenotes : Denotes (significant (front ++ number ++ ending ++ tail)) (w + f / 100) := by
    change Denotes (((front ++ number ++ ending ++ tail).filter isKept).rdropWhile isSeparator) _
    rw [hfilter]
    exact denotes_of_spells hnumber hending hseps
  have hdigit :
      (String.ofList (front ++ number ++ ending ++ tail)).toList.any Char.isDigit = true := by
    simp [hnumber.any_isDigit]
  obtain ⟨v, hv, hnear⟩ := ofLabel_of_digit hdigit
  rw [String.toList_ofList, ← (denotes_iff fun c => isKept_of_mem_significant).1 hdenotes] at hnear
  exact ⟨v, hv, hnear⟩

/-- A label with a word, a group of three digits, hundredths and a currency. -/
theorem crowns_and_hellers_are_read : ∃ v,
    ofLabel "od 1 234,50 Kč" = .ok (some v) ∧ IsNearest v ((1234 : ℕ) + (50 : ℕ) / 100) := by
  have hnumber : SpellsWhole (1000 * 1 + 234) (['1'] ++ ' ' :: lastDigits 3 234) :=
    .group (.plain 1) (by decide) (by decide) (by decide)
  have hending : SpellsHundredths 50 (',' :: lastDigits 2 50) := .hundredths rfl (by decide)
  have hfront : ∀ c ∈ ['o', 'd', ' '], isKept c = false := by simp [isKept, isSeparator]
  have htail : ∀ c ∈ [' ', 'K', 'č'], c.isDigit = false := by simp
  have htext : String.ofList (['o', 'd', ' '] ++ (['1'] ++ ' ' :: lastDigits 3 234) ++
      (',' :: lastDigits 2 50) ++ [' ', 'K', 'č']) = "od 1 234,50 Kč" := rfl
  have hread := written_amount_is_read hnumber hending hfront htail
  rw [htext] at hread
  exact hread

end PriceTracker.Price
