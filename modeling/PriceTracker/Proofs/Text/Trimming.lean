import Mathlib.Data.List.DropRight
import PriceTracker.Text.Blank

/-!
# Trimming

What `Text.trimBy` leaves of a text: all of it if there is nothing to drop (`trimBy_of_forall`), and
nothing if there is nothing else (`trimBy_eq_nil_iff`). A front without characters to drop stays in
front (`prefix_trimBy`). What is dropped does not matter to a filter that leaves it out
(`filter_trimBy`). `Trims` says what it means that a text is another one without the blanks around
it; `trims_iff`: that is what `trim` finds.
-/

namespace PriceTracker.Text

variable {keep drop : Char → Bool} {cs front : List Char}

/-! ## Nothing to drop -/

theorem dropWhile_of_forall (h : ∀ c ∈ cs, drop c = false) : cs.dropWhile drop = cs := by
  cases cs with
  | nil => rfl
  | cons c cs => exact List.dropWhile_cons_of_neg (by simp [h c List.mem_cons_self])

/-- Nothing is cut off a text with no character to drop. -/
theorem trimBy_of_forall (h : ∀ c ∈ cs, drop c = false) : trimBy drop cs = cs := by
  have hreverse : ∀ c ∈ cs.reverse, drop c = false := fun c hc => h c (List.mem_reverse.1 hc)
  rw [trimBy, dropWhile_of_forall h, dropWhile_of_forall hreverse, List.reverse_reverse]

/-- Nothing is cut off a front with no character to drop, whatever is behind it. -/
theorem prefix_trimBy (h : ∀ c ∈ front, drop c = false) (cs : List Char) :
    front <+: trimBy drop (front ++ cs) := by
  cases front with
  | nil => exact List.nil_prefix
  | cons c rest =>
    have hreverse : ∀ d ∈ (c :: rest).reverse, drop d = false :=
      fun d hd => h d (List.mem_reverse.1 hd)
    rw [trimBy, List.cons_append, List.dropWhile_cons_of_neg (by simp [h c List.mem_cons_self]),
      ← List.cons_append, List.reverse_append, List.dropWhile_append,
      dropWhile_of_forall hreverse]
    split
    · simp
    · rw [List.reverse_append, List.reverse_reverse]
      exact List.prefix_append _ _

/-! ## What is dropped -/

theorem trimBy_eq_nil_iff : trimBy drop cs = [] ↔ ∀ c ∈ cs, drop c = true := by
  have hnil : trimBy drop cs = [] ↔ cs.dropWhile drop = [] := by
    rw [trimBy, ← List.rdropWhile, List.rdropWhile_eq_nil_iff]
    constructor
    · intro h
      by_contra hne
      have hhead := List.head_dropWhile_not drop hne
      rw [h _ (List.head_mem hne)] at hhead
      cases hhead
    · intro h c hc
      simp [h] at hc
  rw [hnil, List.dropWhile_eq_nil_iff]

theorem filter_dropWhile (h : ∀ c, drop c = true → keep c = false) (cs : List Char) :
    (cs.dropWhile drop).filter keep = cs.filter keep := by
  induction cs with
  | nil => rfl
  | cons c cs ih =>
    rw [List.dropWhile_cons]
    split
    · next hdrop => rw [ih, List.filter_cons_of_neg (by simp [h c hdrop])]
    · rfl

theorem filter_rdropWhile (h : ∀ c, drop c = true → keep c = false) (cs : List Char) :
    (cs.rdropWhile drop).filter keep = cs.filter keep := by
  rw [List.rdropWhile, List.filter_reverse, filter_dropWhile h, List.filter_reverse,
    List.reverse_reverse]

/-- What is trimmed off does not matter to a filter that leaves it out. -/
theorem filter_trimBy (h : ∀ c, drop c = true → keep c = false) (cs : List Char) :
    (trimBy drop cs).filter keep = cs.filter keep :=
  (filter_rdropWhile h _).trans (filter_dropWhile h cs)

/-! ## What is left -/

section

variable {ls rs : List Char} {text result : String}

/-- All characters to drop are cut off both ends if the rest begins and ends with others. -/
theorem trimBy_append (hls : ∀ c ∈ ls, drop c = true) (hrs : ∀ c ∈ rs, drop c = true)
    (hhead : ∀ c ∈ cs.head?, drop c = false) (hlast : ∀ c ∈ cs.getLast?, drop c = false) :
    trimBy drop (ls ++ cs ++ rs) = cs := by
  cases cs with
  | nil =>
    rw [List.append_nil, trimBy_eq_nil_iff]
    intro c hc
    exact (List.mem_append.1 hc).elim (hls c) (hrs c)
  | cons c cs =>
    have hc : ¬drop c = true := by simp [hhead c rfl]
    have hdrop : (ls ++ (c :: cs ++ rs)).dropWhile drop = c :: cs ++ rs := by
      rw [List.dropWhile_append_of_pos hls]
      exact List.dropWhile_cons_of_neg hc
    have hcut : (rs.reverse ++ (c :: cs).reverse).dropWhile drop = (c :: cs).reverse := by
      rw [List.dropWhile_append_of_pos fun d hd => hrs d (List.mem_reverse.1 hd)]
      cases hreverse : (c :: cs).reverse with
      | nil => rfl
      | cons d ds =>
        refine List.dropWhile_cons_of_neg ?_
        have hd : (c :: cs).getLast? = some d := by
          rw [← List.head?_reverse, hreverse, List.head?_cons]
        simp [hlast d hd]
    rw [trimBy, List.append_assoc, hdrop, List.reverse_append, hcut, List.reverse_reverse]

/-- The second text is the first one without the blanks around it. -/
structure Trims (text result : String) : Prop where
  around : ∃ ls rs, text.toList = ls ++ result.toList ++ rs ∧
    (∀ c ∈ ls, isBlank c = true) ∧ ∀ c ∈ rs, isBlank c = true
  head : ∀ c ∈ result.toList.head?, isBlank c = false
  last : ∀ c ∈ result.toList.getLast?, isBlank c = false

theorem toList_trim (text : String) : (trim text).toList = trimBy isBlank text.toList :=
  String.toList_ofList

/-- A text is blank if nothing is left of it. -/
theorem isEmpty_trimBy (text : String) :
    (trimBy isBlank text.toList).isEmpty = isBlankText text := by
  rw [Bool.eq_iff_iff, List.isEmpty_iff, trimBy_eq_nil_iff, isBlankText, List.all_eq_true]

theorem isEmpty_trim (text : String) : (trim text).isEmpty = isBlankText text := by
  rw [← isEmpty_trimBy, ← toList_trim, Bool.eq_iff_iff, String.isEmpty_iff, List.isEmpty_iff,
    String.toList_eq_nil_iff]

theorem head?_trimBy (cs : List Char) : ∀ c ∈ (trimBy drop cs).head?, drop c = false := by
  intro c hc
  have hprefix : trimBy drop cs <+: cs.dropWhile drop :=
    List.rdropWhile_prefix drop (cs.dropWhile drop)
  obtain ⟨rest, hrest⟩ := List.head?_eq_some_iff.1 hc
  rw [hrest] at hprefix
  obtain ⟨more, hmore⟩ := hprefix
  have hne : cs.dropWhile drop ≠ [] := by simp [← hmore]
  have hhead := List.head_dropWhile_not drop hne
  simpa [← hmore] using hhead

theorem getLast?_trimBy (cs : List Char) : ∀ c ∈ (trimBy drop cs).getLast?, drop c = false := by
  intro c hc
  have hne : trimBy drop cs ≠ [] := by
    rintro hnil
    simp [hnil] at hc
  have hlast := List.rdropWhile_last_not drop (cs.dropWhile drop) hne
  obtain rfl : (trimBy drop cs).getLast hne = c :=
    Option.some.inj ((List.getLast?_eq_some_getLast hne).symm.trans hc)
  exact Bool.not_eq_true _ ▸ hlast

/-- **`trim` cuts off the blanks around a text**, and nothing else does. -/
theorem trims_iff : Trims text result ↔ result = trim text := by
  constructor
  · rintro ⟨⟨ls, rs, htext, hls, hrs⟩, hhead, hlast⟩
    rw [trim, htext, trimBy_append hls hrs hhead hlast, String.ofList_toList]
  · rintro rfl
    refine ⟨?_, ?_, ?_⟩ <;> rw [toList_trim]
    · refine ⟨text.toList.takeWhile isBlank,
        (text.toList.dropWhile isBlank).rtakeWhile isBlank, ?_, ?_, ?_⟩
      · have hright : trimBy isBlank text.toList ++
            (text.toList.dropWhile isBlank).rtakeWhile isBlank = text.toList.dropWhile isBlank :=
          List.rdropWhile_append_rtakeWhile
        rw [List.append_assoc, hright, List.takeWhile_append_dropWhile]
      · exact fun c hc => List.mem_takeWhile_imp hc
      · exact fun c hc => List.mem_rtakeWhile_imp hc
    · exact head?_trimBy _
    · exact getLast?_trimBy _

/-- What is trimmed stays as it is. -/
theorem trimBy_trimBy (cs : List Char) : trimBy drop (trimBy drop cs) = trimBy drop cs := by
  have hnone : ∀ c ∈ ([] : List Char), drop c = true := List.forall_mem_nil _
  have htrim := trimBy_append hnone hnone (head?_trimBy cs) (getLast?_trimBy cs)
  rwa [List.nil_append, List.append_nil] at htrim

end

end PriceTracker.Text
