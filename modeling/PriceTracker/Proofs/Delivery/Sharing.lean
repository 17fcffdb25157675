import PriceTracker.Proofs.Crawl.Reliable

/-!
# Threads that share a buffer

Several threads append their records to one buffer. An append takes the lock of the buffer first, so
no other call gets between adding the record, comparing with the threshold and handing the batch
over: a step of `Shared.Step` is one whole append of one thread.

* `Merge` says that a list is put together from several, each in its own order;
* `exists_merge_of_run`: any run of the threads does what one thread does that appends a merge of
  their records, and each merge comes of a run (`exists_run_of_merge`);
* `filled_after`: appends one after the other make batches of exactly the threshold, as long as the
  sink accepts them.
-/

namespace PriceTracker

/-! ## Merges -/

/-- The list has the elements of all the others, those of each in their order. -/
inductive Merge {α : Type} : List (List α) → List α → Prop where
  /-- Nothing is left. -/
  | done {lists : List (List α)} (h : ∀ l ∈ lists, l = []) : Merge lists []
  /-- The first element of one of the lists comes next. -/
  | next {before after : List (List α)} {x : α} {rest merged : List α}
      (more : Merge (before ++ rest :: after) merged) :
      Merge (before ++ (x :: rest) :: after) (x :: merged)

namespace Merge

variable {α : Type} {lists : List (List α)} {merged : List α}

/-- No element is missing, and none is repeated. -/
theorem perm (h : Merge lists merged) : merged.Perm lists.flatten := by
  induction h with
  | done h => rw [List.flatten_eq_nil_iff.2 h]
  | @next before after x rest merged _ ih =>
    rw [List.flatten_append, List.flatten_cons] at ih ⊢
    exact (ih.cons x).trans List.perm_middle.symm

/-- The elements of each list keep their order. -/
theorem sublist (h : Merge lists merged) : ∀ l ∈ lists, l.Sublist merged := by
  induction h with
  | done h =>
    intro l hl
    rw [h l hl]
  | @next before after x rest merged _ ih =>
    intro l hl
    obtain hl | hl := List.mem_append.1 hl
    · exact (ih l (List.mem_append_left _ hl)).cons x
    · obtain rfl | hl := List.mem_cons.1 hl
      · exact (ih rest (List.mem_append_right _ List.mem_cons_self)).cons_cons x
      · exact (ih l (List.mem_append_right _ (List.mem_cons_of_mem _ hl))).cons x

end Merge

/-! ## Appends one after the other -/

theorem length_flatten_of_full {α : Type} {size : Nat} {batches : List (List α)}
    (full : ∀ batch ∈ batches, batch.length = size) :
    batches.flatten.length = size * batches.length := by
  rw [List.length_flatten, List.eq_replicate_of_mem (List.forall_mem_map.2 full),
    List.sum_replicate, List.length_map, smul_eq_mul, Nat.mul_comm]

namespace RecordBuffer

variable {σ : Type} {s : Sink σ} {log : σ → List (List ProductRecord)}
  {kind : ProductRecord → Prop} {P : RecordBuffer σ → Prop} {b : RecordBuffer σ}

/-- What the appends of records answer, one after the other. -/
def answers (s : Sink σ) : List ProductRecord → RecordBuffer σ → List (Except WriteFailure Bool)
  | [], _ => []
  | r :: rs, b => (b.append s r).1 :: answers s rs (b.append s r).2

theorem length_answers (s : Sink σ) (rs : List ProductRecord) (b : RecordBuffer σ) :
    (b.answers s rs).length = rs.length := by
  induction rs generalizing b with
  | nil => rfl
  | cons r rs ih => exact congrArg Nat.succ (ih (b.append s r).2)

/-- The ways in which an append to a buffer with room for the record can go. -/
inductive AppendOutcome (s : Sink σ) (r : ProductRecord) (b : RecordBuffer σ) :
    Except WriteFailure Bool × RecordBuffer σ → Prop where
  /-- The record is kept, and there is room for another one. -/
  | kept (room : (b.add r).pending.length < b.threshold) : AppendOutcome s r b (.ok false, b.add r)
  /-- The record fills the batch, which is accepted. -/
  | filled {sink : σ} (full : (b.add r).pending.length = b.threshold)
      (write : s.write (b.add r).pending b.sink = (.ok (), sink)) :
      AppendOutcome s r b (.ok true, { b.add r with
        sink
        pending := []
        batches := b.batches + 1
        records := b.records + (b.add r).pending.length })

theorem append_outcome (takes : Takes s kind P) (h : P b) (room : b.pending.length < b.threshold)
    {r : ProductRecord} (hr : kind r) : AppendOutcome s r b (b.append s r) := by
  have hlength : (b.add r).pending.length = b.pending.length + 1 := by simp [add]
  rw [append_eq]
  split
  · next due =>
    obtain ⟨n, hn⟩ := takes.accepts (takes.add h hr)
    generalize hf : (b.add r).flush s = result at hn ⊢
    cases flush_outcome hf with
    | idle hnil => simp [add] at hnil
    | refused => simp at hn
    | accepted _ write => exact .filled (by omega) write
  · next due => exact .kept (by omega)

/-- Between two moments of a buffer, full batches went to the sink, one for each append that said
so, and no append failed. -/
structure Filled (log : σ → List (List ProductRecord)) (b : RecordBuffer σ)
    (answers : List (Except WriteFailure Bool)) (new : List (List ProductRecord))
    (d : RecordBuffer σ) : Prop where
  threshold : d.threshold = b.threshold
  room : d.pending.length < d.threshold
  log : log d.sink = log b.sink ++ new
  full : ∀ batch ∈ new, batch.length = b.threshold
  answered : ∀ answer ∈ answers, answer = .ok true ∨ answer = .ok false
  count : answers.count (.ok true) = new.length

/-- **Appends hand over full batches.** -/
theorem filled_after (logs : s.Logs log) (takes : Takes s kind P) (h : P b)
    (room : b.pending.length < b.threshold) {rs : List ProductRecord} (hrs : ∀ r ∈ rs, kind r) :
    ∃ new, Filled log b (b.answers s rs) new (b.after s (rs.map .append)) := by
  induction rs generalizing b with
  | nil =>
    exact ⟨[], rfl, room, (List.append_nil _).symm, List.forall_mem_nil _, List.forall_mem_nil _,
      rfl⟩
  | cons r rs ih =>
    obtain ⟨hr, hrs⟩ := List.forall_mem_cons.1 hrs
    have hnext : P (b.append s r).2 := takes.append h hr
    have houtcome := append_outcome takes h room hr
    rw [answers, List.map_cons, after_cons, perform]
    generalize b.append s r = result at hnext houtcome ⊢
    cases houtcome with
    | kept hroom =>
      obtain ⟨new, hnew⟩ := ih hnext hroom hrs
      refine ⟨new, hnew.threshold, hnew.room, hnew.log, hnew.full,
        List.forall_mem_cons.2 ⟨Or.inr rfl, hnew.answered⟩, ?_⟩
      rw [List.count_cons_of_ne (by simp)]
      exact hnew.count
    | filled hfull write =>
      obtain ⟨new, hnew⟩ := ih hnext b.threshold_pos hrs
      refine ⟨(b.add r).pending :: new, hnew.threshold, hnew.room, ?_,
        List.forall_mem_cons.2 ⟨hfull, hnew.full⟩,
        List.forall_mem_cons.2 ⟨Or.inl rfl, hnew.answered⟩, ?_⟩
      · rw [hnew.log, logs.of_accepted write, List.append_assoc, List.singleton_append]
      · rw [List.count_cons_self, hnew.count, List.length_cons]

/-- So many batches there are, and so many records are left. -/
theorem Filled.lengths {answers : List (Except WriteFailure Bool)}
    {new : List (List ProductRecord)} {d : RecordBuffer σ} {n : Nat}
    (h : Filled log b answers new d) (total : (new.flatten ++ d.pending).length = n) :
    new.length = n / b.threshold ∧ d.pending.length = n % b.threshold := by
  have hroom := h.threshold ▸ h.room
  rw [List.length_append, length_flatten_of_full h.full, Nat.add_comm] at total
  obtain ⟨hdiv, hmod⟩ := (Nat.div_mod_unique b.threshold_pos).2 ⟨total, hroom⟩
  exact ⟨hdiv.symm, hmod.symm⟩

end RecordBuffer

/-! ## Threads -/

/-- A buffer and the threads that append to it. -/
structure Shared (σ : Type) where
  /-- What each thread has yet to append, in order. -/
  waiting : List (List ProductRecord)
  buffer : RecordBuffer σ
  /-- What the appends answered so far, in the order in which they got the lock. -/
  answers : List (Except WriteFailure Bool) := []

namespace Shared

open RecordBuffer Relation

variable {σ : Type} {s : Sink σ} {first last : Shared σ}

/-- One of the threads gets the lock and appends its next record. -/
inductive Step (s : Sink σ) : Shared σ → Shared σ → Prop where
  | append (before after : List (List ProductRecord)) (r : ProductRecord)
      (rest : List ProductRecord) (b : RecordBuffer σ) (answers : List (Except WriteFailure Bool)) :
      Step s ⟨before ++ (r :: rest) :: after, b, answers⟩
        ⟨before ++ rest :: after, (b.append s r).2, answers ++ [(b.append s r).1]⟩

/-- All threads are through. -/
def Finished (h : Shared σ) : Prop :=
  ∀ rs ∈ h.waiting, rs = []

/-- **Any run does what a single thread does** that appends the same records in some order which is
a merge of those of the threads. -/
theorem exists_merge_of_run (run : ReflTransGen (Step s) first last) (finished : last.Finished) :
    ∃ merged, Merge first.waiting merged ∧
      last.buffer = first.buffer.after s (merged.map .append) ∧
      last.answers = first.answers ++ first.buffer.answers s merged := by
  induction run using ReflTransGen.head_induction_on with
  | refl => exact ⟨[], .done finished, rfl, (List.append_nil _).symm⟩
  | head step _ ih =>
    obtain ⟨merged, hmerge, hbuffer, hanswers⟩ := ih
    cases step with
    | append before after r rest b answers =>
      refine ⟨r :: merged, .next hmerge, hbuffer, ?_⟩
      rw [hanswers, List.append_assoc]
      rfl

/-- **Each merge comes of a run.** -/
theorem exists_run_of_merge {threads : List (List ProductRecord)} {merged : List ProductRecord}
    (h : Merge threads merged) (b : RecordBuffer σ) (answers : List (Except WriteFailure Bool)) :
    ∃ last : Shared σ, ReflTransGen (Step s) ⟨threads, b, answers⟩ last ∧ last.Finished ∧
      last.buffer = b.after s (merged.map .append) := by
  induction h generalizing b answers with
  | done h => exact ⟨_, .refl, h, rfl⟩
  | @next before after r rest merged _ ih =>
    obtain ⟨last, hrun, hfinished, hbuffer⟩ :=
      ih (b.append s r).2 (answers ++ [(b.append s r).1])
    exact ⟨last, .head (.append before after r rest b answers) hrun, hfinished, hbuffer⟩

/-- **Threads may share a buffer.** It has fewer records pending than its threshold, where a
threshold of zero counts as one, and its sink accepts all records of the kind of these and of those
that the threads append. However many threads there are and in whatever order they get the lock,
when all are through no append has failed, and as many as there are full batches have handed one
over. Each batch has exactly as many records as the threshold says, and the rest is pending. The
batches and then the pending records are the records that were pending at first and then a merge of
those of the threads. Each merge may come about. -/
theorem shared_appends_fill_batches {sink : Sink σ} {kind : ProductRecord → Prop} {state : σ}
    (accepts : sink.Accepts kind state) (threshold : Nat) {initial : List ProductRecord}
    (few : initial.length < max threshold 1) (hinitial : ∀ r ∈ initial, kind r)
    {threads : List (List ProductRecord)} (hthreads : ∀ rs ∈ threads, ∀ r ∈ rs, kind r) :
    let s := sink.withFaults fun _ => none
    let t := max threshold 1
    let start : Shared (Calls σ) :=
      { waiting := threads, buffer := { empty { state } threshold with pending := initial } }
    let n := initial.length + threads.flatten.length
    (∀ last, ReflTransGen (Step s) start last → last.Finished →
      (∀ answer ∈ last.answers, answer = .ok true ∨ answer = .ok false) ∧
      last.answers.length = threads.flatten.length ∧ last.answers.count (.ok true) = n / t ∧
      (∀ batch ∈ last.buffer.sink.accepted, batch.length = t) ∧
      last.buffer.pending.length = n % t ∧
      ∃ merged, Merge threads merged ∧ merged.Perm threads.flatten ∧
        (∀ rs ∈ threads, rs.Sublist merged) ∧
        last.buffer.sink.accepted.flatten ++ last.buffer.pending = initial ++ merged) ∧
    ∀ merged, Merge threads merged → ∃ last, ReflTransGen (Step s) start last ∧ last.Finished ∧
      last.buffer.sink.accepted.flatten ++ last.buffer.pending = initial ++ merged := by
  intro s t start n
  have logs : s.Logs Calls.accepted := sink.logs_withFaults _
  obtain ⟨P, takes, hP⟩ := accepts.withFaults.exists_takes
  have hstart : P start.buffer := hP start.buffer rfl hinitial
  have hledger (merged : List ProductRecord) :
      (start.buffer.after s (merged.map .append)).ledger Calls.accepted = initial ++ merged := by
    rw [ledger_after logs, appended_map_append]
    rfl
  refine ⟨fun last run finished => ?_, fun merged hmerge => ?_⟩
  · obtain ⟨merged, hmerge, hbuffer, hanswers⟩ := exists_merge_of_run run finished
    have hmem : ∀ r ∈ merged, kind r := by
      intro r hr
      obtain ⟨rs, hrs, hr⟩ := List.mem_flatten.1 (hmerge.perm.mem_iff.1 hr)
      exact hthreads rs hrs r hr
    obtain ⟨new, hfilled⟩ := filled_after logs takes hstart few hmem
    have hlast := hledger merged
    rw [← hbuffer] at hfilled hlast
    replace hanswers : last.answers = start.buffer.answers s merged := hanswers
    rw [← hanswers] at hfilled
    have haccepted : last.buffer.sink.accepted = new := hfilled.log
    rw [ledger, haccepted] at hlast
    have htotal : (new.flatten ++ last.buffer.pending).length = n := by
      rw [hlast, List.length_append, hmerge.perm.length_eq]
    obtain ⟨hbatches, hpending⟩ := hfilled.lengths htotal
    rw [haccepted]
    refine ⟨hfilled.answered, ?_, hfilled.count.trans hbatches, hfilled.full, hpending, merged,
      hmerge, hmerge.perm, hmerge.sublist, hlast⟩
    rw [hanswers, length_answers, hmerge.perm.length_eq]
  · obtain ⟨last, hrun, hfinished, hbuffer⟩ := exists_run_of_merge hmerge start.buffer []
    refine ⟨last, hrun, hfinished, ?_⟩
    have hlast := hledger merged
    rwa [← hbuffer] at hlast

/-- Two threads with two records and one, of which the first gets the lock before and after the
second, and a buffer that has one record pending and room for another. -/
theorem three_appends_fill_two_batches :
    let record (pid : String) : ProductRecord :=
      ⟨"shop", pid, "Bell", "/", none, 99, none, true, "CZK"⟩
    let sink : Sink Unit := ⟨fun _ _ => (.ok (), ())⟩
    let s := sink.withFaults fun _ => none
    let threads := [[record "1", record "3"], [record "2"]]
    let start : Shared (Calls Unit) :=
      { waiting := threads
        buffer := { empty { state := () } 2 with pending := [record "0"] } }
    let last : Shared (Calls Unit) :=
      { waiting := [[], []]
        buffer := start.buffer.after s ([record "1", record "2", record "3"].map .append)
        answers := [.ok true, .ok false, .ok true] }
    sink.Accepts (fun _ => True) () ∧ [record "0"].length < max 2 1 ∧
      ReflTransGen (Step s) start last ∧ last.Finished ∧
      last.answers.count (.ok true) = (1 + 3) / 2 ∧
      (∀ batch ∈ last.buffer.sink.accepted, batch.length = 2) ∧
      last.buffer.pending.length = (1 + 3) % 2 ∧
      ∃ merged, Merge threads merged ∧
        last.buffer.sink.accepted.flatten ++ last.buffer.pending = [record "0"] ++ merged := by
  intro record sink s threads start last
  have accepts : sink.Accepts (fun _ => True) () :=
    ⟨fun _ => True, trivial, fun _ _ _ _ => ⟨rfl, trivial⟩⟩
  have few : [record "0"].length < max 2 1 := by decide
  have hthreads : ∀ rs ∈ threads, ∀ r ∈ rs, True := fun _ _ _ _ => trivial
  have run : ReflTransGen (Step s) start last :=
    .head (.append [] [[record "2"]] (record "1") [record "3"] _ _)
      (.head (.append [[record "3"]] [] (record "2") [] _ _)
        (.single (.append [] [[]] (record "3") [] _ _)))
  have finished : last.Finished := by
    simp [Finished, last]
  obtain ⟨-, -, hcount, hfull, hpending, merged, hmerge, -, -, hmerged⟩ :=
    (shared_appends_fill_batches accepts 2 few (fun _ _ => trivial) hthreads).1 last run finished
  exact ⟨accepts, few, run, finished, hcount, hfull, hpending, merged, hmerge, hmerged⟩

end Shared

end PriceTracker
