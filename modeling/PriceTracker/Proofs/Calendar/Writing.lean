import Mathlib.Data.Nat.Digits.Defs
import PriceTracker.Calendar.Reading
import PriceTracker.Proofs.Number.Digits

/-!
# Written dates

A written date consists of three numbers with hyphens between them. The month and the day have two
digits and the year at least four, with a sign in front if it is negative or has more than four.

* `read_text`: a date reads back as it was written, whatever its year is, so that two dates are not
  written alike (`text_injective`);
* `text_lt_text_iff`: written dates are in the order of the calendar, as long as their years have
  four digits and no sign.
-/

namespace PriceTracker.Date

/-! ## Numbers of a width -/

/-- Digits of dates and digits of prices are read alike. -/
theorem ofDigits_eq (cs : List Char) : ofDigits cs = Decimal.ofDigits cs := rfl

variable {width n : ℕ}

theorem isDigit_of_mem_padded {c : Char} (h : c ∈ padded width n) : c.isDigit = true := by
  obtain h | h := List.mem_append.1 h
  · rw [List.eq_of_mem_replicate h]
    rfl
  · exact Decimal.isDigit_of_mem_toDigits h

theorem padded_ne_nil (width n : ℕ) : padded width n ≠ [] :=
  List.append_ne_nil_of_right_ne_nil _ (Nat.toDigits_ne_nil)

/-- The zeros in front do not count. -/
theorem ofDigits_padded (width n : ℕ) : Decimal.ofDigits (padded width n) = n := by
  have hzeros : ∀ k, Decimal.ofDigits (List.replicate k '0') = 0 := by
    intro k
    induction k with
    | zero => rfl
    | succ k ih => rw [List.replicate_succ', Decimal.ofDigits_concat, ih]; rfl
  rw [padded, Decimal.ofDigits_append, hzeros, Decimal.ofDigits_toDigits, Nat.zero_mul,
    Nat.zero_add]

theorem length_padded (pos : 0 < width) (h : n < 10 ^ width) : (padded width n).length = width := by
  have hle := Nat.toDigits_length 10 n width pos h
  simp only [padded, List.length_append, List.length_replicate]
  omega

/-! ## Reading back -/

theorem isBlank_of_isDigit {c : Char} (h : c.isDigit = true) : Text.isBlank c = false := by
  obtain ⟨hcode, hvalue⟩ := Decimal.toNat_of_isDigit h
  simp only [Text.isBlank, Bool.or_eq_false_iff, Bool.and_eq_false_iff, decide_eq_false_iff_not,
    beq_eq_false_iff_ne]
  omega

/-- A number has a digit in front. -/
theorem isDigit_of_padded_eq {c : Char} {rest cs : List Char}
    (h : padded width n ++ rest = c :: cs) : c.isDigit = true := by
  cases hdigits : padded width n with
  | nil => exact absurd hdigits (padded_ne_nil width n)
  | cons d digits =>
    rw [hdigits] at h
    obtain rfl := (List.cons.inj h).1
    exact isDigit_of_mem_padded (hdigits ▸ List.mem_cons_self)

/-- So there are no blanks to be left out. -/
theorem dropWhile_isBlank_padded (width n : ℕ) (rest : List Char) :
    (padded width n ++ rest).dropWhile Text.isBlank = padded width n ++ rest := by
  cases h : padded width n ++ rest with
  | nil => rfl
  | cons c cs =>
    exact List.dropWhile_cons_of_neg (by simp [isBlank_of_isDigit (isDigit_of_padded_eq h)])

/-- In digits with something else behind them, all of the digits come first. -/
theorem takeWhile_digits {digits rest : List Char} (all : ∀ c ∈ digits, c.isDigit = true)
    (stop : ∀ c ∈ rest.head?, c.isDigit = false) :
    (digits ++ rest).takeWhile Char.isDigit = digits := by
  rw [List.takeWhile_append_of_pos all]
  cases rest with
  | nil => exact List.append_nil _
  | cons c rest =>
    rw [List.takeWhile_cons_of_neg (by simp [stop c rfl]), List.append_nil]

section

variable {rest : List Char} (stop : ∀ c ∈ rest.head?, c.isDigit = false)
include stop

/-- Digits are read up to a character that is none. -/
theorem readNumber_append {width : Option ℕ} {digits : List Char} (ne : digits ≠ [])
    (all : ∀ c ∈ digits, c.isDigit = true) (fits : ∀ k ∈ width, digits.length ≤ k) :
    readNumber width (digits ++ rest) = .ok (Decimal.ofDigits digits, rest) := by
  cases width with
  | none =>
    simp only [readNumber, takeWhile_digits all stop]
    simp [ne, ofDigits_eq]
  | some k =>
    have hstop : ∀ j, ∀ c ∈ (rest.take j).head?, c.isDigit = false := by
      intro j c hc
      cases j with
      | zero => cases hc
      | succ j => exact stop c (by rwa [List.head?_take, if_neg (Nat.succ_ne_zero j)] at hc)
    simp only [readNumber, List.take_append, List.take_of_length_le (fits k rfl),
      takeWhile_digits all (hstop _)]
    simp [ne, ofDigits_eq]

/-- A padded number is read if it is not too long and within the bounds. -/
theorem readBounded_padded {least greatest : ℤ} (negative : Bool) {limit : Option ℕ} (width n : ℕ)
    (fits : ∀ k ∈ limit, (padded width n).length ≤ k)
    (within : least ≤ (if negative then -n else n : ℤ) ∧
      (if negative then -n else n : ℤ) ≤ greatest) :
    readBounded least greatest negative limit (padded width n ++ rest) =
      .ok (if negative then -n else n, rest) := by
  rw [readBounded, readNumber_append stop (padded_ne_nil width n)
    (fun _ => isDigit_of_mem_padded) fits, ofDigits_padded]
  simp [bind, Except.bind, pure, Except.pure, within]

theorem readPart_padded {greatest : ℤ} {n : ℕ} (pos : 1 ≤ n) (le : n ≤ greatest) (two : n < 100) :
    readPart greatest (padded 2 n ++ rest) = .ok ((n : ℤ), rest) := by
  rw [readPart, dropWhile_isBlank_padded]
  refine readBounded_padded stop false 2 n ?_ ?_
  · rintro k ⟨⟩
    exact (length_padded (by decide) two).le
  · simp [pos, le]

theorem readBounded_year {year : ℤ} (least : leastYear ≤ year) (greatest : year ≤ greatestYear)
    {negative : Bool} (sign : (if negative then -year.natAbs else year.natAbs : ℤ) = year)
    {limit : Option ℕ} (fits : ∀ k ∈ limit, (padded 4 year.natAbs).length ≤ k) :
    readBounded (-0x80000000) 0x7FFFFFFF negative limit (padded 4 year.natAbs ++ rest) =
      .ok (year, rest) := by
  rw [leastYear] at least
  rw [greatestYear] at greatest
  have within : -0x80000000 ≤ year ∧ year ≤ 0x7FFFFFFF := ⟨by omega, by omega⟩
  rw [← sign] at within
  have hread := readBounded_padded stop negative 4 year.natAbs fits within
  rwa [sign] at hread

/-- The year is read whatever its sign is. -/
theorem readYear_yearText {year : ℤ} (least : leastYear ≤ year) (greatest : year ≤ greatestYear) :
    readYear (yearText year ++ rest) = .ok (year, rest) := by
  have unlimited : ∀ k ∈ (none : Option ℕ), (padded 4 year.natAbs).length ≤ k := nofun
  rw [yearText]
  split
  · next negative =>
    have sign : (if true then -year.natAbs else year.natAbs : ℤ) = year := by
      rw [if_pos rfl]
      omega
    exact readBounded_year stop least greatest sign unlimited
  · next positive =>
    have sign : (if false then -year.natAbs else year.natAbs : ℤ) = year := by
      rw [if_neg Bool.false_ne_true]
      omega
    split
    · exact readBounded_year stop least greatest sign unlimited
    · next four =>
      rw [readYear, dropWhile_isBlank_padded]
      split
      · next h => exact absurd (isDigit_of_padded_eq h) (by decide)
      · next h => exact absurd (isDigit_of_padded_eq h) (by decide)
      · refine readBounded_year stop least greatest sign ?_
        rintro k ⟨⟩
        exact (length_padded (by decide) (by omega)).le

end

/-- The numbers of a date are within their bounds. -/
theorem bounds (d : Date) : (leastYear ≤ d.year ∧ d.year ≤ greatestYear) ∧
    (1 ≤ d.month ∧ d.month ≤ 12) ∧ 1 ≤ d.day ∧ d.day ≤ 31 := by
  have hvalid := d.valid
  simp only [isDate, Bool.and_eq_true, decide_eq_true_eq] at hvalid
  have hmonth : daysInMonth d.year d.month ≤ 31 := by
    unfold daysInMonth
    split_ifs <;> omega
  omega

theorem chars_eq (d : Date) :
    d.chars = yearText d.year ++ '-' :: (padded 2 d.month ++ '-' :: padded 2 d.day) := by
  rw [chars, List.append_assoc, List.cons_append]

/-- **A date reads back as it was written.** -/
theorem read_text (d : Date) : read d.text = .ok d := by
  obtain ⟨⟨least, greatest⟩, ⟨hmonth, hmonth'⟩, hday, hday'⟩ := d.bounds
  have stop : ∀ cs : List Char, ∀ c ∈ ('-' :: cs).head?, c.isDigit = false := by
    intro cs c hc
    obtain rfl : '-' = c := Option.some.inj hc
    rfl
  have hreadYear := readYear_yearText (stop (padded 2 d.month ++ '-' :: padded 2 d.day)) least
    greatest
  have hreadMonth : readPart 12 (padded 2 d.month ++ '-' :: padded 2 d.day) =
      .ok ((d.month : ℤ), '-' :: padded 2 d.day) :=
    readPart_padded (stop _) hmonth (by omega) (by omega)
  have hreadDay : readPart 31 (padded 2 d.day) = .ok ((d.day : ℤ), []) := by
    have stopNil : ∀ c ∈ ([] : List Char).head?, c.isDigit = false := nofun
    have hread := readPart_padded stopNil hday (by omega : (d.day : ℤ) ≤ 31) (by omega)
    rwa [List.append_nil] at hread
  rw [read, text, String.toList_ofList, chars_eq, readChars, hreadYear]
  simp [bind, Except.bind, pure, Except.pure, readHyphen, hreadMonth, hreadDay]

theorem text_injective : Function.Injective text := by
  intro a b h
  have hread := b.read_text
  rw [← h, a.read_text] at hread
  exact Except.ok.inj hread

/-! ## The order of the calendar -/

/-- In texts whose first parts have the same length, these are compared first. -/
theorem append_lt_append_iff {l m x y : List Char} (h : l.length = m.length) :
    l ++ x < m ++ y ↔ l < m ∨ l = m ∧ x < y := by
  induction l generalizing m with
  | nil =>
    obtain rfl := List.eq_nil_of_length_eq_zero h.symm
    simp
  | cons c l ih =>
    cases m with
    | nil => cases h
    | cons d m =>
      rw [List.cons_append, List.cons_append, List.cons_lt_cons_iff, List.cons_lt_cons_iff,
        ih (Nat.succ.inj h), List.cons.injEq]
      tauto

theorem padded_lt_padded_iff {a b : ℕ} (ha : a < 10 ^ width) (hb : b < 10 ^ width)
    (pos : 0 < width) : padded width a < padded width b ↔ a < b := by
  rw [Decimal.lt_iff_ofDigits_lt, ofDigits_padded, ofDigits_padded]
  · rw [length_padded pos ha, length_padded pos hb]
  · exact fun _ => isDigit_of_mem_padded
  · exact fun _ => isDigit_of_mem_padded

theorem padded_injective (width : ℕ) : Function.Injective (padded width) := by
  intro a b h
  rw [← ofDigits_padded width a, h, ofDigits_padded]

theorem yearText_of_four {year : ℤ} (h : 0 ≤ year ∧ year ≤ 9999) :
    yearText year = padded 4 year.toNat := by
  rw [yearText, if_neg (by omega), if_neg (by omega)]
  congr 1
  omega

/-- **Written dates are in the order of the calendar**, as long as the years have four digits. -/
theorem text_lt_text_iff {a b : Date} (ha : 0 ≤ a.year ∧ a.year ≤ 9999)
    (hb : 0 ≤ b.year ∧ b.year ≤ 9999) : a.text < b.text ↔ a.isBefore b = true := by
  obtain ⟨-, ⟨-, hmonth⟩, -, hday⟩ := a.bounds
  obtain ⟨-, ⟨-, hmonth'⟩, -, hday'⟩ := b.bounds
  have hlength {w m n : ℕ} (pos : 0 < w) (hm : m < 10 ^ w) (hn : n < 10 ^ w) :
      (padded w m).length = (padded w n).length := by
    rw [length_padded pos hm, length_padded pos hn]
  have hyear : a.year.toNat < 10 ^ 4 ∧ b.year.toNat < 10 ^ 4 := by omega
  rw [text, text, String.lt_iff, String.toList_ofList, String.toList_ofList, chars_eq, chars_eq,
    yearText_of_four ha, yearText_of_four hb,
    append_lt_append_iff (hlength (by decide) hyear.1 hyear.2), List.cons_lt_cons_iff,
    append_lt_append_iff (hlength (by decide) (by omega) (by omega)), List.cons_lt_cons_iff,
    padded_lt_padded_iff hyear.1 hyear.2 (by decide),
    padded_lt_padded_iff (by omega) (by omega) (by decide),
    padded_lt_padded_iff (by omega) (by omega) (by decide), (padded_injective 4).eq_iff,
    (padded_injective 2).eq_iff]
  simp only [isBefore, lt_self_iff_false, false_or, true_and, Bool.or_eq_true, Bool.and_eq_true,
    decide_eq_true_eq, beq_iff_eq]
  omega

/-- A sign comes before all digits, so a year of five digits does not come last. -/
example : (⟨10000, 1, 1, by decide⟩ : Date).text < (⟨2026, 10, 16, by decide⟩ : Date).text := by
  decide +kernel

end PriceTracker.Date
