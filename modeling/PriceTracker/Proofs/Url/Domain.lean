import Mathlib.Data.List.InsertIdx
import PriceTracker.Url.Domain.Ascii

/-!
# The characters of a domain name

The ASCII form of a domain name holds ASCII characters that are not forbidden in one, although
labels in Punycode are decoded and encoded on the way (`isPlain_of_mem_toAscii?`): decoding adds
characters beyond ASCII only (`mem_of_mem_decode?`), and encoding adds digits, letters and a hyphen
(`forall_mem_encode`).
-/

namespace PriceTracker.Url

/-! ## Pieces of a list -/

/-- The pieces of a list hold elements of the list that do not separate. -/
theorem mem_of_mem_splitOnP {α : Type} {p : α → Bool} {xs piece : List α}
    (h : piece ∈ xs.splitOnP p) : ∀ x ∈ piece, x ∈ xs ∧ p x = false := by
  induction xs generalizing piece with
  | nil =>
    obtain rfl : piece = [] := by simpa using h
    simp
  | cons y ys ih =>
    have hys : ∀ piece ∈ ys.splitOnP p, ∀ x ∈ piece, x ∈ y :: ys ∧ p x = false :=
      fun piece hpiece x hx => ⟨List.mem_cons_of_mem y (ih hpiece x hx).1, (ih hpiece x hx).2⟩
    rw [List.splitOnP_cons_eq_if_modifyHead] at h
    split at h
    · obtain rfl | h := List.mem_cons.1 h
      · simp
      · exact hys piece h
    · next hy =>
      cases hsplit : ys.splitOnP p with
      | nil => simp [hsplit] at h
      | cons first others =>
        rw [hsplit, List.modifyHead_cons] at h
        rw [hsplit] at hys
        obtain rfl | h := List.mem_cons.1 h
        · intro x hx
          obtain rfl | hx := List.mem_cons.1 hx
          · exact ⟨List.mem_cons_self, by simpa using hy⟩
          · exact hys first List.mem_cons_self x hx
        · exact hys piece (List.mem_cons_of_mem first h)

theorem mem_intercalate {α : Type} {sep : List α} {ls : List (List α)} {c : α}
    (h : c ∈ sep.intercalate ls) : c ∈ sep ∨ ∃ l ∈ ls, c ∈ l := by
  induction ls with
  | nil => simp at h
  | cons l ls ih =>
    cases ls with
    | nil => exact Or.inr ⟨l, List.mem_cons_self, by simpa using h⟩
    | cons l' ls =>
      rw [List.intercalate_cons_cons, List.mem_append, List.mem_append] at h
      obtain (h | h) | h := h
      · exact Or.inr ⟨l, List.mem_cons_self, h⟩
      · exact Or.inl h
      · exact (ih h).imp_right fun ⟨m, hm, hc⟩ => ⟨m, List.mem_cons_of_mem l hm, hc⟩

/-! ## Punycode -/

namespace Punycode

theorem toNat_ofNat_of_isValidChar {n : Nat} (h : n.isValidChar) : (Char.ofNat n).toNat = n := by
  rw [Char.ofNat, dif_pos h]
  rfl

/-- The characters that are placed are beyond ASCII. -/
theorem mem_of_mem_place {bias n i : Nat} {out cs placed : List Char} (hn : 0x80 ≤ n)
    (h : place bias n i out cs = some placed) :
    ∀ c ∈ placed, c ∈ out ∨ 0x80 ≤ c.toNat := by
  fun_induction place bias n i out cs with
  | case1 bias n i out cs hempty =>
    obtain rfl := Option.some.inj h
    exact fun c hc => Or.inl hc
  | case2 => simp at h
  | case3 bias n i out cs _ j rest hdelta count m hvalid ih =>
    have hm : 0x80 ≤ m := Nat.le_add_right_of_le hn
    intro c hc
    obtain hc | hc := ih hm h c hc
    · obtain rfl | hc := List.eq_or_mem_of_mem_insertIdx hc
      · right
        rwa [toNat_ofNat_of_isValidChar hvalid]
      · exact Or.inl hc
    · exact Or.inr hc
  | case4 => simp at h

/-- A label has the ASCII characters of its Punycode text only. -/
theorem mem_of_mem_decode? {cs label : List Char} (h : decode? cs = some label) :
    ∀ c ∈ label, c ∈ cs ∨ 0x80 ≤ c.toNat := by
  simp only [decode?] at h
  split at h
  · intro c hc
    obtain hc | hc := mem_of_mem_place (Nat.le_refl 0x80) h c hc
    · left
      rw [List.mem_reverse] at hc
      exact List.mem_reverse.1 ((List.dropWhile_sublist _).subset (List.mem_of_mem_tail hc))
    · exact Or.inr hc
  · simp at h

section

variable {P : Char → Prop}

theorem threshold_le (k bias : Nat) : threshold k bias ≤ 26 := by
  unfold threshold
  split
  · omega
  · split <;> omega

theorem forall_mem_encodeDelta (digit : ∀ d < 36, P (digitChar d)) (bias k q : Nat) :
    ∀ c ∈ encodeDelta bias k q, P c := by
  fun_induction encodeDelta bias k q with
  | case1 k q t hq =>
    have ht := threshold_le k bias
    intro c hc
    rw [List.mem_singleton] at hc
    exact hc ▸ digit q (by omega)
  | case2 k q t hq ih =>
    have ht := threshold_le k bias
    have hmod := Nat.mod_lt (q - t) (show 0 < 36 - t by omega)
    intro c hc
    obtain rfl | hc := List.mem_cons.1 hc
    · exact digit _ (by omega)
    · exact ih c hc

theorem forall_mem_pass (digit : ∀ d < 36, P (digitChar d)) (basic n : Nat) {s : Writing}
    (h : ∀ c ∈ s.out, P c) (d : Char) : ∀ c ∈ (s.pass basic n d).out, P c := by
  intro c hc
  unfold Writing.pass at hc
  split at hc
  · exact h c hc
  · split at hc
    · obtain hc | hc := List.mem_append.1 hc
      · exact h c hc
      · exact forall_mem_encodeDelta digit _ _ _ c hc
    · exact h c hc

theorem forall_mem_run (digit : ∀ d < 36, P (digitChar d)) (label : List Char) (basic n : Nat)
    (others : List Nat) {s : Writing} (h : ∀ c ∈ s.out, P c) :
    ∀ c ∈ (Writing.run label basic n others s).out, P c := by
  induction others generalizing n s with
  | nil => exact h
  | cons m ms ih =>
    rw [Writing.run]
    refine ih _ ?_
    have hpass : ∀ (cs : List Char) (s : Writing), (∀ c ∈ s.out, P c) →
        ∀ c ∈ (cs.foldl (Writing.pass basic m) s).out, P c := by
      intro cs
      induction cs with
      | nil => exact fun s h => h
      | cons d cs ih => exact fun s h => ih _ (forall_mem_pass digit basic m h d)
    exact hpass label _ h

/-- Punycode has the ASCII characters of the label, digits and a hyphen. -/
theorem forall_mem_encode (digit : ∀ d < 36, P (digitChar d)) (hyphen : P '-') {label : List Char}
    (basic : ∀ c ∈ label, c.toNat < 0x80 → P c) : ∀ c ∈ encode label, P c := by
  refine forall_mem_run digit _ _ _ _ ?_
  intro c hc
  have hbasic : ∀ c ∈ label.filter (·.toNat < 0x80), P c := by
    intro c hc
    rw [List.mem_filter, decide_eq_true_eq] at hc
    exact basic c hc.1 hc.2
  dsimp only at hc
  split at hc
  · simp at hc
  · obtain hc | hc := List.mem_append.1 hc
    · exact hbasic c hc
    · rw [List.mem_singleton] at hc
      exact hc ▸ hyphen

end

end Punycode

/-! ## Labels and names -/

namespace Domain

/-- An ASCII character that a domain name may hold. -/
def IsPlain (c : Char) : Prop :=
  c.toNat < 0x80 ∧ isForbidden c = false

instance (c : Char) : Decidable (IsPlain c) :=
  inferInstanceAs (Decidable (_ ∧ _))

theorem isPlain_digitChar : ∀ d < 36, IsPlain (Punycode.digitChar d) := by
  decide

/-- The ASCII characters of a label are those of the text it is read from. -/
theorem mem_of_mem_unicodeLabel? {text label : List Char} (h : unicodeLabel? text = some label) :
    ∀ c ∈ label, c.toNat < 0x80 → c ∈ text := by
  unfold unicodeLabel? at h
  split at h
  · split at h
    · next decoded hdecode =>
      split at h
      · simp at h
      · obtain rfl := Option.some.inj h
        intro c hc hascii
        obtain hc | hc := Punycode.mem_of_mem_decode? hdecode c hc
        · exact List.mem_of_mem_drop hc
        · omega
    · simp at h
  · split at h
    · obtain rfl := Option.some.inj h
      exact fun c hc _ => hc
    · split at h
      · obtain rfl := Option.some.inj h
        exact fun c hc _ => hc
      · simp at h

theorem isPlain_of_mem_asciiLabel {label : List Char}
    (h : ∀ c ∈ label, c.toNat < 0x80 → isForbidden c = false) :
    ∀ c ∈ asciiLabel label, IsPlain c := by
  unfold asciiLabel
  split
  · next hall =>
    intro c hc
    have hascii : c.toNat < 0x80 := by simpa using List.all_eq_true.1 hall c hc
    exact ⟨hascii, h c hc hascii⟩
  · intro c hc
    obtain hc | hc := List.mem_append.1 hc
    · have hmark : punycodeMark.all (decide <| IsPlain ·) = true := by decide
      exact of_decide_eq_true (List.all_eq_true.1 hmark c hc)
    · exact Punycode.forall_mem_encode isPlain_digitChar (by decide)
        (fun c hc hascii => ⟨hascii, h c hc hascii⟩) c hc

theorem mem_of_mapM_eq_some {α β : Type} {f : α → Option β} {xs : List α} {ys : List β}
    (h : xs.mapM f = some ys) : ∀ y ∈ ys, ∃ x ∈ xs, f x = some y := by
  induction xs generalizing ys with
  | nil =>
    obtain rfl : [] = ys := by simpa using h
    simp
  | cons x xs ih =>
    rw [List.mapM_cons] at h
    simp only [Option.bind_eq_bind, Option.pure_def, Option.bind_eq_some_iff,
      Option.some.injEq] at h
    obtain ⟨y, hy, zs, hzs, rfl⟩ := h
    intro z hz
    obtain rfl | hz := List.mem_cons.1 hz
    · exact ⟨x, List.mem_cons_self, hy⟩
    · obtain ⟨w, hw, hfw⟩ := ih hzs z hz
      exact ⟨w, List.mem_cons_of_mem x hw, hfw⟩

/-- **A domain name is ASCII and holds no forbidden character.** -/
theorem isPlain_of_mem_toAscii? {name domain : List Char} (h : toAscii? name = some domain) :
    ∀ c ∈ domain, IsPlain c := by
  simp only [toAscii?, Option.bind_eq_bind, Option.bind_eq_some_iff] at h
  obtain ⟨mapped, -, h⟩ := h
  split at h
  · simp at h
  · next hnormal =>
    rw [Option.bind_eq_some_iff] at h
    obtain ⟨labels, hlabels, h⟩ := h
    split at h
    · simp at h
    · obtain rfl := Option.some.inj h
      -- The ASCII characters of all labels stand in the mapped name, which was checked.
      have hlabel : ∀ label ∈ labels, ∀ c ∈ label, c.toNat < 0x80 → isForbidden c = false := by
        intro label hlabel c hc hascii
        obtain ⟨text, htext, hunicode⟩ := mem_of_mapM_eq_some hlabels label hlabel
        have hmem := (mem_of_mem_splitOnP htext c (mem_of_mem_unicodeLabel? hunicode c hc hascii)).1
        have hall := List.any_eq_false.1 (Bool.eq_false_iff.2 hnormal) c hmem
        simpa [hascii] using hall
      intro c hc
      obtain hc | ⟨l, hl, hc⟩ := mem_intercalate hc
      · rw [List.mem_singleton] at hc
        subst hc
        decide
      · obtain ⟨label, hmem, rfl⟩ := List.mem_map.1 hl
        exact isPlain_of_mem_asciiLabel (hlabel label hmem) c hc

end Domain

end PriceTracker.Url
