import Mathlib.Data.List.Basic
import Mathlib.Data.List.Infix

/-!
# First occurrences

Two parts of the project keep the first of several things that count as the same: a frontier
queues a page once, and a table takes a row once for each key. `firstBy key l` is what is left of a
list then. It is determined by `firstBy_concat`, which says what one more element adds.
-/

namespace PriceTracker

variable {α κ : Type} [DecidableEq κ] {key : α → κ}

/-- The elements whose key no element before them has. -/
def firstBy (key : α → κ) (l : List α) : List α :=
  l.eraseDupsBy fun a b => key a == key b

@[simp] theorem firstBy_nil : firstBy key [] = [] := rfl

theorem firstBy_cons (a : α) (l : List α) :
    firstBy key (a :: l) = a :: firstBy key (l.filter fun b => key b ≠ key a) := by
  simp [firstBy, List.eraseDupsBy_cons]

/-- An element at the end is kept if its key is new. -/
theorem firstBy_concat (l : List α) (a : α) :
    firstBy key (l ++ [a]) =
      if key a ∈ l.map key then firstBy key l else firstBy key l ++ [a] := by
  induction hn : l.length using Nat.strong_induction_on generalizing l with
  | _ n ih =>
    cases l with
    | nil => simp [firstBy_cons]
    | cons b l =>
      have hlt : (l.filter fun c => key c ≠ key b).length < n := by
        have := List.length_filter_le (fun c => decide (key c ≠ key b)) l
        simp only [List.length_cons] at hn
        omega
      rw [List.cons_append, firstBy_cons, firstBy_cons, List.filter_append]
      by_cases hab : key a = key b
      · simp [hab]
      · have hmem : key a ∈ (l.filter fun c => key c ≠ key b).map key ↔
            key a ∈ (b :: l).map key := by
          simp only [List.mem_map, List.mem_filter, List.map_cons, List.mem_cons, hab, false_or]
          constructor
          · rintro ⟨c, ⟨hc, -⟩, hca⟩
            exact ⟨c, hc, hca⟩
          · rintro ⟨c, hc, hca⟩
            exact ⟨c, ⟨hc, by simp [hca, hab]⟩, hca⟩
        rw [show [a].filter (fun c => decide (key c ≠ key b)) = [a] by simp [hab],
          ih _ hlt _ rfl, if_congr hmem rfl rfl]
        split <;> rfl

theorem firstBy_concat_of_mem {l : List α} {a : α} (h : key a ∈ l.map key) :
    firstBy key (l ++ [a]) = firstBy key l := by
  rw [firstBy_concat, if_pos h]

theorem firstBy_concat_of_notMem {l : List α} {a : α} (h : key a ∉ l.map key) :
    firstBy key (l ++ [a]) = firstBy key l ++ [a] := by
  rw [firstBy_concat, if_neg h]

/-- The same keys occur. -/
theorem mem_map_firstBy {k : κ} {l : List α} : k ∈ (firstBy key l).map key ↔ k ∈ l.map key := by
  induction l using List.reverseRecOn with
  | nil => simp
  | append_singleton l a ih =>
    by_cases h : key a ∈ l.map key
    · rw [firstBy_concat_of_mem h, ih, List.map_append, List.mem_append]
      refine ⟨Or.inl, fun hk => hk.elim id fun hk => ?_⟩
      rw [List.map_singleton, List.mem_singleton] at hk
      exact hk ▸ h
    · rw [firstBy_concat_of_notMem h, List.map_append, List.map_append, List.mem_append,
        List.mem_append, ih]

/-- No key occurs twice. -/
theorem nodup_map_firstBy (l : List α) : ((firstBy key l).map key).Nodup := by
  induction l using List.reverseRecOn with
  | nil => simp
  | append_singleton l a ih =>
    by_cases h : key a ∈ l.map key
    · rwa [firstBy_concat_of_mem h]
    · rw [firstBy_concat_of_notMem h, List.map_append, List.nodup_append]
      refine ⟨ih, by simp, fun k hk k' hk' hne => ?_⟩
      rw [List.map_singleton, List.mem_singleton] at hk'
      exact h (mem_map_firstBy.1 (by rwa [← hk', ← hne]))

/-- Elements with a key of their own are all kept. -/
theorem firstBy_of_nodup {l : List α} (h : (l.map key).Nodup) : firstBy key l = l := by
  induction l using List.reverseRecOn with
  | nil => rfl
  | append_singleton l a ih =>
    rw [List.map_append, List.map_singleton, List.nodup_append] at h
    obtain ⟨hl, -, hnew⟩ := h
    have hnotMem : key a ∉ l.map key := fun hmem => hnew _ hmem _ (List.mem_singleton_self _) rfl
    rw [firstBy_concat_of_notMem hnotMem, ih hl]

theorem mem_of_mem_firstBy {l : List α} {a : α} (h : a ∈ firstBy key l) : a ∈ l := by
  induction l using List.reverseRecOn with
  | nil => exact absurd h List.not_mem_nil
  | append_singleton l b ih =>
    by_cases hb : key b ∈ l.map key
    · rw [firstBy_concat_of_mem hb] at h
      exact List.mem_append_left _ (ih h)
    · rw [firstBy_concat_of_notMem hb] at h
      exact (List.mem_append.1 h).elim (fun h => List.mem_append_left _ (ih h))
        (List.mem_append_right _)

/-- The element of a key is the first one that has it. -/
theorem find?_firstBy (k : κ) (l : List α) :
    (firstBy key l).find? (fun a => key a = k) = l.find? fun a => key a = k := by
  induction l using List.reverseRecOn with
  | nil => rfl
  | append_singleton l a ih =>
    rw [List.find?_append]
    by_cases h : key a ∈ l.map key
    · rw [firstBy_concat_of_mem h, ih]
      by_cases hk : key a = k
      · obtain ⟨b, hb, hba⟩ := List.mem_map.1 h
        have hfound : (l.find? fun a => key a = k).isSome := by
          rw [List.find?_isSome]
          exact ⟨b, hb, by simpa [hk] using hba⟩
        rw [Option.or_of_isSome hfound]
      · simp [hk]
    · rw [firstBy_concat_of_notMem h, List.find?_append, ih]

end PriceTracker
