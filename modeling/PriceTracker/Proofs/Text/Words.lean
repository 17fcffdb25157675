import Mathlib.Data.List.Chain
import PriceTracker.Text.Blank

/-!
# Words and the blanks between them

`squeeze` writes the words of a text with one space between neighbours. The texts that look like
that already are the tidy ones (`IsTidy`): no blank at the ends, no two blanks next to each other,
and no blank but the space.

* `isTidy_squeeze`: what is squeezed is tidy;
* `squeeze_eq_self_iff`: a text stays as it is exactly if it is tidy.
-/

namespace PriceTracker.Text

/-- A text of words with one space between neighbours. -/
structure IsTidy (cs : List Char) : Prop where
  head : ∀ c ∈ cs.head?, isBlank c = false
  last : ∀ c ∈ cs.getLast?, isBlank c = false
  apart : cs.IsChain fun a b => isBlank a = true → isBlank b = false
  space : ∀ c ∈ cs, isBlank c = true → c = ' '

variable {cs word : List Char}

/-! ## Words -/

/-- The first word of a text with a blank behind it. -/
theorem words_append_blank (ne : word ≠ []) (h : word.all (fun c => !isBlank c) = true)
    (rest : List Char) : words (word ++ ' ' :: rest) = word :: words rest := by
  have hword : ∀ c ∈ word, isBlank c = false := by simpa using h
  rw [words, List.splitOnP_append_cons_of_forall_mem hword ' ' rfl, List.filter_cons_of_pos, words]
  simpa using ne

/-- Splitting leaves no separator in the pieces. -/
theorem not_of_mem_splitOnP {p : Char → Bool} {piece : List Char} (h : piece ∈ cs.splitOnP p) :
    ∀ c ∈ piece, p c = false := by
  induction cs generalizing piece with
  | nil =>
    obtain rfl : piece = [] := by simpa using h
    exact List.forall_mem_nil _
  | cons x cs ih =>
    obtain ⟨first, pieces, hpieces⟩ := List.exists_cons_of_ne_nil (List.splitOnP_ne_nil p cs)
    rw [List.splitOnP_cons_eq_if_modifyHead, hpieces] at h
    rw [hpieces] at ih
    split at h
    · obtain rfl | h := List.mem_cons.1 h
      · exact List.forall_mem_nil _
      · exact ih h
    · next hx =>
      obtain rfl | h := List.mem_cons.1 h
      · exact List.forall_mem_cons.2 ⟨by simpa using hx, ih List.mem_cons_self⟩
      · exact ih (List.mem_cons_of_mem _ h)

/-- A word is not empty and holds no blank. -/
theorem of_mem_words (h : word ∈ words cs) : word ≠ [] ∧ ∀ c ∈ word, isBlank c = false := by
  obtain ⟨hpiece, hne⟩ := List.mem_filter.1 h
  exact ⟨by simpa using hne, not_of_mem_splitOnP hpiece⟩

/-! ## What is squeezed is tidy -/

theorem isTidy_of_forall (h : ∀ c ∈ cs, isBlank c = false) : IsTidy cs where
  head c hc := h c (List.mem_of_mem_head? hc)
  last c hc := h c (List.mem_of_mem_getLast? hc)
  apart := by
    rw [List.isChain_iff_getElem]
    intro i hi _
    exact h _ (List.getElem_mem _)
  space c hc hblank := by simp [h c hc] at hblank

theorem IsTidy.append {rest : List Char} (ne : word ≠ []) (h : ∀ c ∈ word, isBlank c = false)
    (hne : rest ≠ []) (hrest : IsTidy rest) : IsTidy (word ++ ' ' :: rest) where
  head c hc := by
    rw [List.head?_append_of_ne_nil _ ne] at hc
    exact h c (List.mem_of_mem_head? hc)
  last c hc := by
    rw [List.getLast?_append_of_ne_nil _ (List.cons_ne_nil _ _), List.getLast?_cons_of_ne_nil hne]
      at hc
    exact hrest.last c hc
  apart := by
    obtain ⟨x, rest, rfl⟩ := List.exists_cons_of_ne_nil hne
    refine List.isChain_append.2 ⟨(isTidy_of_forall h).apart, ?_, fun a ha _ _ hblank => ?_⟩
    · exact List.isChain_cons_cons.2 ⟨fun _ => hrest.head x rfl, hrest.apart⟩
    · simp [h a (List.mem_of_mem_getLast? ha)] at hblank
  space c hc hblank := by
    obtain hc | hc := List.mem_append.1 hc
    · simp [h c hc] at hblank
    · obtain rfl | hc := List.mem_cons.1 hc
      · rfl
      · exact hrest.space c hc hblank

theorem isTidy_intercalate {pieces : List (List Char)}
    (h : ∀ word ∈ pieces, word ≠ [] ∧ ∀ c ∈ word, isBlank c = false) :
    IsTidy ([' '].intercalate pieces) := by
  induction pieces with
  | nil => exact isTidy_of_forall (List.forall_mem_nil _)
  | cons word pieces ih =>
    obtain ⟨⟨ne, hword⟩, hpieces⟩ := List.forall_mem_cons.1 h
    cases pieces with
    | nil =>
      rw [List.intercalate_singleton]
      exact isTidy_of_forall hword
    | cons next pieces =>
      have hrest : [' '].intercalate (next :: pieces) ≠ [] := by
        have hnext := (hpieces next List.mem_cons_self).1
        cases pieces with
        | nil => rwa [List.intercalate_singleton]
        | cons => simp [List.intercalate_cons_cons]
      rw [List.intercalate_cons_cons, List.append_assoc]
      exact (ih hpieces).append ne hword hrest

theorem isTidy_squeeze (cs : List Char) : IsTidy (squeeze cs) :=
  isTidy_intercalate fun _ hword => of_mem_words hword

/-! ## What is tidy stays as it is -/

/-- Where every blank is a space, splitting at blanks is splitting at spaces. -/
theorem splitOnP_eq_splitOn (h : ∀ c ∈ cs, isBlank c = true → c = ' ') :
    cs.splitOnP isBlank = cs.splitOn ' ' := by
  induction cs with
  | nil => rfl
  | cons x cs ih =>
    obtain ⟨hx, hcs⟩ := List.forall_mem_cons.1 h
    have hsame : isBlank x = (x == ' ') := by
      cases hblank : isBlank x with
      | true => rw [hx hblank]; rfl
      | false =>
        symm
        rw [beq_eq_false_iff_ne]
        rintro rfl
        exact absurd hblank (by decide)
    rw [List.splitOnP_cons_eq_if_modifyHead, List.splitOn_cons_eq_if_modifyHead, ih hcs, hsame]

/-- Two blanks that are not neighbours have something between them, and so has the last blank
behind it. Only the piece before the first blank may be empty. -/
theorem nil_notMem_tail_splitOnP (last : ∀ c ∈ cs.getLast?, isBlank c = false)
    (apart : cs.IsChain fun a b => isBlank a = true → isBlank b = false) :
    [] ∉ (cs.splitOnP isBlank).tail := by
  induction cs with
  | nil => simp
  | cons x cs ih =>
    cases cs with
    | nil =>
      have hx : isBlank x = false := last x rfl
      simp [List.splitOnP_cons_eq_if_modifyHead, hx]
    | cons y cs =>
      obtain ⟨hxy, happart⟩ := List.isChain_cons_cons.1 apart
      have htail := ih (by simpa using last) happart
      obtain ⟨first, pieces, hpieces⟩ :=
        List.exists_cons_of_ne_nil (List.splitOnP_ne_nil isBlank (y :: cs))
      rw [List.splitOnP_cons_eq_if_modifyHead, hpieces]
      rw [hpieces] at htail
      split
      · next hx =>
        have hy : isBlank y = false := hxy hx
        have hfirst : first ≠ [] := by
          rw [List.splitOnP_cons_eq_if_modifyHead, if_neg (by simp [hy])] at hpieces
          cases hrest : cs.splitOnP isBlank with
          | nil => exact absurd hrest (List.splitOnP_ne_nil _ _)
          | cons head rest =>
            rw [hrest, List.modifyHead_cons] at hpieces
            rw [← (List.cons.inj hpieces).1]
            exact List.cons_ne_nil _ _
        exact fun hnil => (List.mem_cons.1 hnil).elim (hfirst ·.symm) htail
      · exact htail

theorem words_of_isTidy (h : IsTidy cs) (ne : cs ≠ []) : words cs = cs.splitOn ' ' := by
  rw [words, ← splitOnP_eq_splitOn h.space, List.filter_eq_self]
  obtain ⟨x, rest, rfl⟩ := List.exists_cons_of_ne_nil ne
  have hx : isBlank x = false := h.head x rfl
  have htail := nil_notMem_tail_splitOnP h.last h.apart
  rw [List.splitOnP_cons_eq_if_modifyHead, if_neg (by simp [hx])] at htail ⊢
  obtain ⟨first, pieces, hpieces⟩ :=
    List.exists_cons_of_ne_nil (List.splitOnP_ne_nil isBlank rest)
  rw [hpieces] at htail ⊢
  intro piece hpiece
  obtain rfl | hpiece := List.mem_cons.1 hpiece
  · rfl
  · cases piece with
    | nil => exact absurd hpiece htail
    | cons => rfl

/-- **A text looks on a page as it is written exactly if it is tidy.** -/
theorem squeeze_eq_self_iff : squeeze cs = cs ↔ IsTidy cs := by
  refine ⟨fun h => h ▸ isTidy_squeeze cs, fun h => ?_⟩
  by_cases hcs : cs = []
  · rw [hcs]
    rfl
  · rw [squeeze, words_of_isTidy h hcs, List.intercalate_splitOn]

end PriceTracker.Text
