import Mathlib.Data.Finset.Card
import PriceTracker.Crawl.Frontier
import PriceTracker.Proofs.FirstOccurrences

/-!
# What a frontier keeps track of

Pages are found in some order, and some of them again and again. Those that were taken from a
frontier, followed by those that still wait, are the pages that were found, each once and in the
order in which they were found first: `Tracks` says so, and `Tracks.push`, `Tracks.pushAll` and
`Tracks.rest` keep it.

`potential keys` counts the waiting pages together with those of the pages `keys` that were never
found. Finding pages among these does not raise it (`potential_pushAll_le`), as a page is queued
only once, and taking a page lowers it (`potential_rest`).
-/

namespace PriceTracker.Frontier

variable {f : Frontier} {task : CrawlTask}

theorem isNew_iff : f.isNew task = true ↔ task.key ∉ f.seen := by
  simp [isNew]

theorem isNew_eq_false_iff : f.isNew task = false ↔ task.key ∈ f.seen := by
  simp [isNew]

theorem seen_push_of_isNew (h : f.isNew task = true) : (f.push task).seen = task.key :: f.seen := by
  simp [push, h]

@[simp] theorem queue_rest (f : Frontier) : f.rest.queue = f.queue.tail := rfl

@[simp] theorem pushAll_nil (f : Frontier) : f.pushAll [] = f := rfl

/-! ## The order of pages -/

theorem mem_queue_push {t : CrawlTask} (h : t ∈ (f.push task).queue) :
    t ∈ f.queue ∨ t = task ∧ t.key ∉ f.seen := by
  cases hnew : f.isNew task with
  | true =>
    rw [queue_push_of_isNew hnew, List.mem_append, List.mem_singleton] at h
    exact h.imp_right fun h => ⟨h, h ▸ isNew_iff.1 hnew⟩
  | false => exact Or.inl (push_of_not_isNew hnew ▸ h)

theorem mem_seen_push {key : String} :
    key ∈ (f.push task).seen ↔ key ∈ f.seen ∨ key = task.key := by
  cases hnew : f.isNew task with
  | true => rw [seen_push_of_isNew hnew, List.mem_cons, or_comm]
  | false =>
    rw [push_of_not_isNew hnew]
    exact ⟨Or.inl, fun h => h.elim id fun h => h ▸ isNew_eq_false_iff.1 hnew⟩

/-- What is pushed counts as seen. -/
theorem mem_seen_pushAll {key : String} {tasks : List CrawlTask} :
    key ∈ (f.pushAll tasks).seen ↔ key ∈ f.seen ∨ key ∈ tasks.map CrawlTask.key := by
  induction tasks generalizing f with
  | nil => simp
  | cons task tasks ih =>
    have hrest : key ∈ (f.pushAll (task :: tasks)).seen ↔
        key ∈ (f.push task).seen ∨ key ∈ tasks.map CrawlTask.key := ih
    rw [hrest, mem_seen_push, List.map_cons, List.mem_cons, or_assoc]

/-- Pages that were all seen change nothing. -/
theorem pushAll_of_mem_seen {tasks : List CrawlTask} (h : ∀ task ∈ tasks, task.key ∈ f.seen) :
    f.pushAll tasks = f := by
  induction tasks with
  | nil => rfl
  | cons task tasks ih =>
    obtain ⟨htask, htasks⟩ := List.forall_mem_cons.1 h
    have hpush : f.push task = f := push_of_not_isNew (isNew_eq_false_iff.2 htask)
    calc f.pushAll (task :: tasks) = (f.push task).pushAll tasks := rfl
      _ = f.pushAll tasks := by rw [hpush]
      _ = f := ih htasks

/-- What is queued is new. -/
theorem mem_queue_pushAll {t : CrawlTask} {tasks : List CrawlTask} :
    t ∈ (f.pushAll tasks).queue → t ∈ f.queue ∨ t ∈ tasks ∧ t.key ∉ f.seen := by
  induction tasks generalizing f with
  | nil => exact Or.inl
  | cons task tasks ih =>
    intro h
    obtain h | ⟨h, hseen⟩ := ih h
    · exact (mem_queue_push h).imp_right fun h => ⟨List.mem_cons.2 (Or.inl h.1), h.2⟩
    · exact Or.inr ⟨List.mem_cons_of_mem _ h, fun hold => hseen (mem_seen_push.2 (Or.inl hold))⟩

/-- The pages taken so far and the waiting ones are the pages found so far, each once and in
order. -/
structure Tracks (taken found : List Url) (f : Frontier) : Prop where
  order : taken ++ f.queue.map CrawlTask.url = firstBy Url.pageKey found
  seen : ∀ key, key ∈ f.seen ↔ key ∈ found.map Url.pageKey

variable {taken found : List Url}

theorem Tracks.push (h : f.Tracks taken found) (task : CrawlTask) :
    (f.push task).Tracks taken (found ++ [task.url]) := by
  have hmem : ∀ key,
      key ∈ (found ++ [task.url]).map Url.pageKey ↔ key ∈ f.seen ∨ key = task.key := by
    intro key
    rw [List.map_append, List.mem_append, List.map_singleton, List.mem_singleton, h.seen]
    rfl
  cases hnew : f.isNew task with
  | true =>
    have hkey : task.url.pageKey ∉ found.map Url.pageKey := fun hk =>
      isNew_iff.1 hnew ((h.seen _).2 hk)
    refine ⟨?_, fun key => ?_⟩
    · rw [queue_push_of_isNew hnew, firstBy_concat_of_notMem hkey, ← h.order, List.map_append,
        List.append_assoc]
      rfl
    · rw [seen_push_of_isNew hnew, List.mem_cons, hmem]
      exact or_comm
  | false =>
    have hkey : task.key ∈ f.seen := isNew_eq_false_iff.1 hnew
    rw [push_of_not_isNew hnew]
    refine ⟨?_, fun key => ?_⟩
    · rw [firstBy_concat_of_mem ((h.seen _).1 hkey), h.order]
    · rw [hmem]
      exact ⟨Or.inl, fun hk => hk.elim id fun hk => hk ▸ hkey⟩

theorem Tracks.pushAll (h : f.Tracks taken found) (tasks : List CrawlTask) :
    (f.pushAll tasks).Tracks taken (found ++ tasks.map CrawlTask.url) := by
  induction tasks generalizing f found with
  | nil =>
    rw [pushAll_nil, List.map_nil, List.append_nil]
    exact h
  | cons task tasks ih =>
    have hrest := ih (h.push task)
    rwa [List.append_assoc, List.singleton_append] at hrest

theorem Tracks.rest {rest : List CrawlTask} (h : f.Tracks taken found)
    (next : f.queue = task :: rest) : f.rest.Tracks (taken ++ [task.url]) found where
  order := by
    rw [← h.order, queue_rest, next, List.append_assoc]
    rfl
  seen := h.seen

theorem Tracks.letThrough (h : f.Tracks taken found) (time : Nat) :
    (f.letThrough time).Tracks taken found :=
  ⟨h.order, h.seen⟩

/-! ## The potential -/

section

variable {keys : Finset String}

/-- How many pages wait, and how many of the given ones were never queued. -/
def potential (keys : Finset String) (f : Frontier) : Nat :=
  f.queue.length + (keys \ f.seen.toFinset).card

/-- A page that is queued was one of those that were not. -/
theorem potential_push_le (h : task.key ∈ keys) :
    (f.push task).potential keys ≤ f.potential keys := by
  cases hnew : f.isNew task with
  | false => rw [push_of_not_isNew hnew]
  | true =>
    have hmem : task.key ∈ keys \ f.seen.toFinset := by simp [h, isNew_iff.1 hnew]
    have herase : keys \ (f.push task).seen.toFinset =
        (keys \ f.seen.toFinset).erase task.key := by
      ext k
      simp only [seen_push_of_isNew hnew, List.toFinset_cons, Finset.mem_sdiff, Finset.mem_insert,
        Finset.mem_erase]
      tauto
    have hcard := Finset.card_erase_add_one hmem
    rw [potential, potential, queue_push_of_isNew hnew, herase, List.length_append,
      List.length_singleton]
    omega

theorem potential_pushAll_le {tasks : List CrawlTask} (h : ∀ task ∈ tasks, task.key ∈ keys) :
    (f.pushAll tasks).potential keys ≤ f.potential keys := by
  induction tasks generalizing f with
  | nil => exact le_rfl
  | cons task tasks ih =>
    calc (f.pushAll (task :: tasks)).potential keys
        ≤ (f.push task).potential keys := ih fun t ht => h t (List.mem_cons_of_mem _ ht)
      _ ≤ f.potential keys := potential_push_le (h task List.mem_cons_self)

theorem potential_rest (keys : Finset String) {rest : List CrawlTask}
    (h : f.queue = task :: rest) : f.rest.potential keys + 1 = f.potential keys := by
  have hseen : f.rest.seen = f.seen := rfl
  rw [potential, potential, queue_rest, hseen, h, List.tail_cons, List.length_cons]
  omega

/-- The waiting pages were queued, so no page counts twice. -/
theorem potential_le (keys : Finset String) (f : Frontier) :
    f.potential keys ≤ ((f.queue.map CrawlTask.key).toFinset ∪ keys).card := by
  have hqueue : f.queue.map CrawlTask.key ⊆ f.seen := fun k hk =>
    f.queue_newest.subset (List.mem_reverse.2 hk)
  have hnodup : (f.queue.map CrawlTask.key).Nodup :=
    List.nodup_reverse.1 (f.seen_nodup.sublist f.queue_newest.sublist)
  have hlength : f.queue.length = (f.queue.map CrawlTask.key).toFinset.card := by
    rw [List.toFinset_card_of_nodup hnodup, List.length_map]
  have hdisjoint : Disjoint (f.queue.map CrawlTask.key).toFinset (keys \ f.seen.toFinset) := by
    rw [Finset.disjoint_left]
    intro k hk hrest
    rw [List.mem_toFinset] at hk
    simp [hqueue hk] at hrest
  rw [potential, hlength, ← Finset.card_union_of_disjoint hdisjoint]
  exact Finset.card_le_card (Finset.union_subset_union_right Finset.sdiff_subset)

end

end PriceTracker.Frontier
