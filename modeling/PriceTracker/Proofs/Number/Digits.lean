import PriceTracker.Proofs.Number.Nearest

/-!
# Digits

Digits in front of others count for more (`ofDigits_append`), so a point among digits divides by a
power of ten (`read?_point`, `value_ofDigits_append`). The digits of a number have it as their
value: all of them (`ofDigits_toDigits`), or as many as are asked for, with zeros in front
(`ofDigits_lastDigits`).

Characters are in the order of their code points, and so are digits: of texts with as many digits
the one with the lesser value comes first (`lt_iff_ofDigits_lt`).
-/

namespace PriceTracker.Decimal

variable {whole fraction : List Char}

/-! ## Values of digits -/

theorem ofDigits_concat (cs : List Char) (c : Char) :
    ofDigits (cs ++ [c]) = 10 * ofDigits cs + digitValue c := by
  rw [ofDigits, List.foldl_append]
  rfl

theorem ofDigits_append (cs ds : List Char) :
    ofDigits (cs ++ ds) = ofDigits cs * 10 ^ ds.length + ofDigits ds := by
  induction ds using List.reverseRecOn with
  | nil => simp [ofDigits]
  | append_singleton ds d ih =>
    rw [← List.append_assoc, ofDigits_concat, ofDigits_concat, ih, List.length_append,
      List.length_singleton, pow_succ]
    ring

theorem ofDigits_cons (c : Char) (cs : List Char) :
    ofDigits (c :: cs) = digitValue c * 10 ^ cs.length + ofDigits cs := by
  have hsingle : ofDigits [c] = digitValue c := Nat.zero_add _
  rw [← List.singleton_append, ofDigits_append, hsingle]

theorem read?_digits (ne : whole ≠ []) (digits : ∀ c ∈ whole, c.isDigit = true) :
    read? whole = some ⟨ofDigits whole, 0⟩ := by
  rw [read?, List.dropWhile_eq_nil_iff.2 digits, List.takeWhile_eq_self_iff.2 digits]
  simp [ne]

theorem read?_point (ne : whole ≠ []) (digits : ∀ c ∈ whole, c.isDigit = true)
    (ne' : fraction ≠ []) (digits' : ∀ c ∈ fraction, c.isDigit = true) :
    read? (whole ++ '.' :: fraction) = some ⟨ofDigits (whole ++ fraction), fraction.length⟩ := by
  have hpoint : '.'.isDigit = false := rfl
  rw [read?, List.dropWhile_append_of_pos digits, List.takeWhile_append_of_pos digits,
    List.dropWhile_cons_of_neg (by simp [hpoint]), List.takeWhile_cons_of_neg (by simp [hpoint]),
    List.append_nil]
  simp [ne, ne', List.all_eq_true.2 digits']

/-- The amount of digits with some of them after the point. -/
theorem value_ofDigits_append (whole fraction : List Char) :
    value ⟨ofDigits (whole ++ fraction), fraction.length⟩ =
      ofDigits whole + ofDigits fraction / 10 ^ fraction.length := by
  rw [value, ofDigits_append, Nat.cast_add, Nat.cast_mul, Nat.cast_pow, Nat.cast_ofNat, add_div,
    mul_div_cancel_right₀ _ (by positivity)]

/-! ## The digits of a number -/

/-- The last digits of a number, with zeros in front where it has fewer. -/
def lastDigits : ℕ → ℕ → List Char
  | 0, _ => []
  | n + 1, w => lastDigits n (w / 10) ++ [Nat.digitChar (w % 10)]

theorem length_lastDigits (n w : ℕ) : (lastDigits n w).length = n := by
  induction n generalizing w with
  | zero => rfl
  | succ n ih => rw [lastDigits, List.length_append, ih, List.length_singleton]

theorem isDigit_digitChar : ∀ d < 10, (Nat.digitChar d).isDigit = true := by
  decide

theorem digitValue_digitChar : ∀ d < 10, digitValue (Nat.digitChar d) = d := by
  decide

theorem isDigit_of_mem_lastDigits {n w : ℕ} {c : Char} (h : c ∈ lastDigits n w) :
    c.isDigit = true := by
  induction n generalizing w with
  | zero => simp [lastDigits] at h
  | succ n ih =>
    rw [lastDigits, List.mem_append, List.mem_singleton] at h
    obtain h | rfl := h
    · exact ih h
    · exact isDigit_digitChar _ (Nat.mod_lt _ (by decide))

theorem ofDigits_lastDigits {n w : ℕ} (h : w < 10 ^ n) : ofDigits (lastDigits n w) = w := by
  induction n generalizing w with
  | zero =>
    obtain rfl : w = 0 := by simpa using h
    rfl
  | succ n ih =>
    rw [pow_succ] at h
    rw [lastDigits, ofDigits_concat, ih (Nat.div_lt_of_lt_mul (by linarith)),
      digitValue_digitChar _ (Nat.mod_lt _ (by decide))]
    exact Nat.div_add_mod w 10

theorem ofDigits_toDigits (w : ℕ) : ofDigits (Nat.toDigits 10 w) = w :=
  Nat.ofDigitChars_ten_toDigits

theorem isDigit_of_mem_toDigits {w : ℕ} {c : Char} (h : c ∈ Nat.toDigits 10 w) : c.isDigit = true :=
  Nat.isDigit_of_mem_toDigits (by decide) (by decide) h

/-! ## The order of digits -/

theorem toNat_of_isDigit {c : Char} (h : c.isDigit = true) :
    c.toNat = 48 + digitValue c ∧ digitValue c < 10 := by
  have hbounds : 48 ≤ c.toNat ∧ c.toNat ≤ 57 := by
    simpa [Char.isDigit, UInt32.le_iff_toNat_le] using h
  have hvalue : digitValue c = c.toNat - 48 := rfl
  omega

theorem lt_iff_digitValue_lt {c d : Char} (hc : c.isDigit = true) (hd : d.isDigit = true) :
    c < d ↔ digitValue c < digitValue d := by
  have hc := (toNat_of_isDigit hc).1
  have hd := (toNat_of_isDigit hd).1
  rw [Char.lt_def, UInt32.lt_iff_toNat_lt]
  change c.toNat < d.toNat ↔ _
  omega

theorem eq_iff_digitValue_eq {c d : Char} (hc : c.isDigit = true) (hd : d.isDigit = true) :
    c = d ↔ digitValue c = digitValue d := by
  have hc := (toNat_of_isDigit hc).1
  have hd := (toNat_of_isDigit hd).1
  rw [← Char.toNat_inj]
  omega

theorem ofDigits_lt {cs : List Char} (h : ∀ c ∈ cs, c.isDigit = true) :
    ofDigits cs < 10 ^ cs.length := by
  induction cs with
  | nil => exact Nat.one_pos
  | cons c cs ih =>
    obtain ⟨hc, hcs⟩ := List.forall_mem_cons.1 h
    have hrest := ih hcs
    calc ofDigits (c :: cs) = digitValue c * 10 ^ cs.length + ofDigits cs := ofDigits_cons c cs
      _ < digitValue c * 10 ^ cs.length + 10 ^ cs.length := by omega
      _ = (digitValue c + 1) * 10 ^ cs.length := by ring
      _ ≤ 10 * 10 ^ cs.length := Nat.mul_le_mul_right _ (toNat_of_isDigit hc).2
      _ = 10 ^ (c :: cs).length := by rw [List.length_cons, pow_succ']

/-- Of two numbers the parts that count for more are compared first. -/
theorem mul_add_lt_mul_add_iff {u v x y t : ℕ} (hx : x < t) (hy : y < t) :
    u * t + x < v * t + y ↔ u < v ∨ u = v ∧ x < y := by
  obtain hlt | rfl | hgt := lt_trichotomy u v
  · have hstep : (u + 1) * t ≤ v * t := Nat.mul_le_mul_right t hlt
    rw [Nat.succ_mul] at hstep
    exact iff_of_true (by omega) (Or.inl hlt)
  · simp
  · have hstep : (v + 1) * t ≤ u * t := Nat.mul_le_mul_right t hgt
    rw [Nat.succ_mul] at hstep
    exact iff_of_false (by omega) (by omega)

/-- **Texts of as many digits are in the order of the numbers that they spell.** -/
theorem lt_iff_ofDigits_lt {l m : List Char} (hlength : l.length = m.length)
    (hl : ∀ c ∈ l, c.isDigit = true) (hm : ∀ c ∈ m, c.isDigit = true) :
    l < m ↔ ofDigits l < ofDigits m := by
  induction l generalizing m with
  | nil =>
    obtain rfl := List.eq_nil_of_length_eq_zero hlength.symm
    simp
  | cons c l ih =>
    cases m with
    | nil => cases hlength
    | cons d m =>
      obtain ⟨hc, hl⟩ := List.forall_mem_cons.1 hl
      obtain ⟨hd, hm⟩ := List.forall_mem_cons.1 hm
      have hrest : l.length = m.length := Nat.succ.inj hlength
      have hless := hrest ▸ ofDigits_lt hl
      rw [List.cons_lt_cons_iff, ofDigits_cons, ofDigits_cons, hrest,
        mul_add_lt_mul_add_iff hless (ofDigits_lt hm), ih hrest hl hm, lt_iff_digitValue_lt hc hd,
        eq_iff_digitValue_eq hc hd]

end PriceTracker.Decimal
