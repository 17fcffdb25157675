import Mathlib.Algebra.Order.Floor.Div
import PriceTracker.Proofs.Crawl.PageLimit
import PriceTracker.Proofs.Delivery.Sharing

/-!
# The batches of a run

A buffer hands over a batch whenever it is full, wherever on a page that happens, and the end of a
run hands over what is left. If the sink never fails, this cuts the records of the run into batches
of the same size, of which only the last may be smaller, and no batch is empty.

* `CutEvenly` is said of batches like these, and `CutEvenly.length_eq` counts them;
* `buffer_runFor_of_going`: as long as a run goes on, its buffer has had the records of its visits
  appended one after the other, so that all of its batches are full (`RecordBuffer.filled_after`);
* `exists_flush_of_runFor_ok`: a run that answers with a tally has flushed that buffer in the end;
* `clean_runs_write_full_batches` puts this together.
-/

namespace PriceTracker

/-! ## Lists cut into batches -/

/-- All batches have the size, but the last one may be smaller. None is empty. -/
structure CutEvenly {α : Type} (size : ℕ) (batches : List (List α)) : Prop where
  full : ∀ batch ∈ batches.dropLast, batch.length = size
  last : ∀ batch ∈ batches.getLast?, 1 ≤ batch.length ∧ batch.length ≤ size

namespace CutEvenly

variable {α : Type} {size : ℕ} {batches front : List (List α)} {last : List α}

theorem concat_iff : CutEvenly size (front ++ [last]) ↔
    (∀ batch ∈ front, batch.length = size) ∧ 1 ≤ last.length ∧ last.length ≤ size := by
  constructor
  · rintro ⟨hfull, hlast⟩
    rw [List.dropLast_concat] at hfull
    exact ⟨hfull, hlast last (by rw [List.getLast?_concat]; rfl)⟩
  · rintro ⟨hfull, hlast⟩
    refine ⟨by rwa [List.dropLast_concat], fun batch hbatch => ?_⟩
    rw [List.getLast?_concat] at hbatch
    obtain rfl := Option.some.inj hbatch
    exact hlast

theorem of_full (pos : 0 < size) (full : ∀ batch ∈ batches, batch.length = size) :
    CutEvenly size batches := by
  refine ⟨fun batch h => full batch (List.mem_of_mem_dropLast h), fun batch h => ?_⟩
  have hlength := full batch (List.mem_of_getLast? h)
  omega

theorem ne_nil (pos : 0 < size) (h : CutEvenly size batches) : ∀ batch ∈ batches, batch ≠ [] := by
  intro batch hbatch
  rw [← List.length_pos_iff]
  cases batches using List.reverseRecOn with
  | nil => exact absurd hbatch List.not_mem_nil
  | append_singleton front last =>
    obtain ⟨hfull, hlast, -⟩ := concat_iff.1 h
    obtain hbatch | hbatch := List.mem_append.1 hbatch
    · rwa [hfull batch hbatch]
    · rwa [List.mem_singleton.1 hbatch]

/-- The number of batches follows from the number of elements. -/
theorem length_eq (pos : 0 < size) (h : CutEvenly size batches) :
    batches.length = batches.flatten.length ⌈/⌉ size := by
  cases batches using List.reverseRecOn with
  | nil => exact (zero_ceilDiv size).symm
  | append_singleton front last =>
    obtain ⟨hfull, least, most⟩ := concat_iff.1 h
    have hsum : (front ++ [last]).flatten.length = size * front.length + last.length := by
      rw [List.flatten_concat, List.length_append, length_flatten_of_full hfull]
    have hpred : size * front.length + last.length + size - 1 =
        last.length - 1 + size * (front.length + 1) := by
      rw [Nat.mul_succ]
      omega
    rw [hsum, Nat.ceilDiv_eq_add_pred_div, hpred, Nat.add_mul_div_left _ _ pos,
      Nat.div_eq_of_lt (by omega), Nat.zero_add, List.length_append, List.length_singleton]

end CutEvenly

/-! ## The last batch -/

namespace RecordBuffer

variable {σ : Type} {s : Sink σ} {log : σ → List (List ProductRecord)} {b d e : RecordBuffer σ}

/-- A flush writes what full batches have left. -/
theorem Filled.cutEvenly_flush {answers : List (Except WriteFailure Bool)}
    {new : List (List ProductRecord)} {n : ℕ} (filled : Filled log b answers new d)
    (logs : s.Logs log) (unwritten : log b.sink = []) (h : d.flush s = (.ok n, e)) :
    CutEvenly b.threshold (log e.sink) := by
  have hlog : log d.sink = new := by
    rw [filled.log, unwritten, List.nil_append]
  have hroom := filled.threshold ▸ filled.room
  cases flush_outcome h with
  | idle =>
    rw [hlog]
    exact .of_full b.threshold_pos filled.full
  | accepted hne write =>
    rw [logs.of_accepted write, hlog, CutEvenly.concat_iff]
    exact ⟨filled.full, List.length_pos_iff.2 hne, hroom.le⟩

/-- If no batch is refused, the sink is called once for each batch. -/
theorem Takes.countsCalls {sink : Sink σ} {kind : ProductRecord → Prop}
    {P : RecordBuffer (Calls σ) → Prop} (takes : Takes (sink.withFaults fun _ => none) kind P) :
    Keeps (sink.withFaults fun _ => none) kind fun b =>
      P b ∧ b.sink.count = b.sink.accepted.length where
  add h hr := ⟨takes.add h.1 hr, h.2⟩
  flush := by
    rintro b ⟨hb, hcount⟩
    have hflush := takes.flush hb
    obtain ⟨n, hn⟩ := takes.accepts hb
    generalize hf : b.flush (sink.withFaults fun _ => none) = result at hflush hn ⊢
    refine ⟨hflush, ?_⟩
    cases flush_outcome hf with
    | idle => exact hcount
    | refused => simp at hn
    | accepted _ write =>
      simp only [Sink.withFaults] at write
      split at write
      · obtain ⟨-, rfl⟩ := Prod.mk.inj write
        rw [List.length_append, List.length_singleton, hcount]
      · simp at write

end RecordBuffer

namespace Crawl

open RecordBuffer

variable {σ : Type} {web : Web} {s : Sink σ} {stop : Option ℕ} {c d : Crawl σ} {turns : ℕ}
  {log : σ → List (List ProductRecord)}

/-! ## The buffer of a run -/

theorem buffer_step_of_going (hstep : c.step web s stop = (none, d)) :
    d.buffer = c.buffer.after s
      (((c.visit? web s stop).toList.flatMap Visit.handed).map .append) := by
  generalize hv : c.visit? web s stop = visit
  generalize hresult : c.step web s stop = result at hstep
  cases turn_of_step hv hresult with
  | finished => simp at hstep
  | stopped => simp at hstep
  | skipped =>
    obtain ⟨-, rfl⟩ := Prod.mk.inj hstep
    rfl
  | interrupted => simp at hstep
  | @visited task rest d' next limit stage receive =>
    obtain ⟨-, rfl⟩ := Prod.mk.inj hstep
    have hbuffer := buffer_receive s task (web task.url).body (c.taken.answered web task)
    rw [receive] at hbuffer
    rw [Option.toList_some, List.flatMap_singleton]
    exact hbuffer
  | failed => simp at hstep

/-- **As long as a run goes on, it appends the records of its visits.** -/
theorem buffer_runFor_of_going (hrun : c.runFor web s stop turns = (none, d)) :
    d.buffer = c.buffer.after s
      (((c.visits web s stop turns).flatMap Visit.handed).map .append) := by
  have hall : (c.runFor web s stop turns).1 = none → (c.runFor web s stop turns).2.buffer =
      c.buffer.after s (((c.visits web s stop turns).flatMap Visit.handed).map .append) := by
    rw [visits_eq_trace]
    refine trace_induction
      (R := fun c vs ended => ended.1 = none →
        ended.2.buffer = c.buffer.after s ((vs.flatMap Visit.handed).map .append))
      (fun _ _ => rfl) (fun h₁ h₂ hgoing => ?_)
      (fun c hgoing => buffer_step_of_going (Prod.ext hgoing rfl)) turns c
    rw [h₂ hgoing, h₁ rfl, ← after_append, List.flatMap_append, List.map_append]
  rw [hrun] at hall
  exact hall rfl

/-- **A run that answers with a tally flushes what its appends left.** -/
theorem exists_flush_of_runFor_ok {tally : Tally}
    (hrun : c.runFor web s stop turns = (some (.ok tally), d)) :
    ∃ n, (c.buffer.after s (((c.visits web s stop turns).flatMap Visit.handed).map .append)).flush s
      = (.ok n, d.buffer) := by
  obtain ⟨m, more, e, rfl, he, hlast⟩ := exists_last_turn hrun
  have hend := finished_of_step_eq_ok hlast
  rw [visits_add_of_going he, visits_of_ended more hend, List.append_nil,
    ← buffer_runFor_of_going he]
  rw [step_of_finished hend] at hlast
  generalize hf : e.finish s = result at hlast
  cases finish_outcome hf with
  | refused => simp at hlast
  | @written n b flush =>
    obtain ⟨-, rfl⟩ := Prod.mk.inj hlast
    exact ⟨n, flush⟩

/-- The records of a run were read off product blocks. -/
theorem isRead_of_mem_visits (logs : s.Logs log) {r : ProductRecord}
    (h : r ∈ (c.visits web s stop turns).flatMap Visit.handed) : r.IsRead := by
  obtain ⟨v, hv, hr⟩ := List.mem_flatMap.1 h
  have hblocks := (delivers_runFor logs web stop turns c).blocks v hv
  exact Catalog.yields_isRead.of_mem_blocks r ((hblocks.filterMap Except.toOption).subset hr)

/-- **A run whose sink never fails writes full batches.** Whatever the site, the first pages, the
page limit and the batch size are, where a batch size of zero counts as one: a run that ends answers
with its tally, has read its pages to the end, and its records, in order, are what the sink was
given. It was called once for each batch. All batches have the size but the last one, which has at
least one record; so their number is that of the records divided by the size and rounded up. -/
theorem clean_runs_write_full_batches {sink : Sink σ} {state : σ} (accepts : sink.NeverFails state)
    (label : String) (limit : Option ℕ) (frontier : Frontier) (batchSize : ℕ) (web : Web)
    (turns : ℕ) {result : Except RunFailure Tally} {d : Crawl (Calls σ)} :
    let s := sink.withFaults fun _ => none
    let start : Crawl (Calls σ) := fresh label limit frontier { state } batchSize
    let size := max batchSize 1
    start.run web s none turns = (some result, d) →
      let visits := start.visits web s none turns
      let n := d.tally.recordsExtracted
      let batches := d.buffer.sink.accepted
      result = .ok d.tally ∧ d.Completed visits ∧ n = (visits.flatMap Visit.handed).length ∧
        d.tally.recordsWritten = n ∧ d.tally.batchesWritten = n ⌈/⌉ size ∧
        d.buffer.sink.count = n ⌈/⌉ size ∧ batches.length = n ⌈/⌉ size ∧
        (∀ batch ∈ batches.dropLast, batch.length = size) ∧
        (∀ batch ∈ batches.getLast?, 1 ≤ batch.length ∧ batch.length ≤ size) ∧
        (∀ batch ∈ batches, batch ≠ []) ∧ batches.flatten = visits.flatMap Visit.handed := by
  intro s start size hrun visits n batches
  have going : start.Going := ⟨rfl, rfl, rfl⟩
  rw [going.run_eq] at hrun
  have logs : s.Logs Calls.accepted := sink.logs_withFaults _
  have pos : 0 < size := start.buffer.threshold_pos
  obtain ⟨P, takes, hP⟩ := accepts.withFaults.exists_takes
  have hstart : P start.buffer := hP batchSize
  obtain ⟨rfl, completed⟩ := completed_of_runFor accepts hrun
  obtain ⟨-, settled, -⟩ := settled_of_takes takes Catalog.yields_isRead going hstart hrun
  obtain ⟨hbatches, hrecords⟩ := (keeps_countsLog logs).of_runFor (fun _ _ _ _ _ => trivial)
    (c := start) ⟨rfl, rfl⟩ hrun
  obtain ⟨-, hcalls⟩ :=
    takes.countsCalls.of_runFor Catalog.yields_isRead (c := start) ⟨hstart, rfl⟩ hrun
  -- All batches are full but for the one of the last flush.
  obtain ⟨m, hflush⟩ := exists_flush_of_runFor_ok hrun
  obtain ⟨new, filled⟩ := filled_after logs takes hstart start.buffer.threshold_pos
    fun r hr => isRead_of_mem_visits logs hr
  have even : CutEvenly size batches := filled.cutEvenly_flush logs rfl hflush
  have hlength : batches.length = n ⌈/⌉ size := by
    rw [even.length_eq pos, completed.accepted, ← completed.extracted]
  refine ⟨rfl, completed, completed.extracted, ?_, ?_, hcalls.trans hlength, hlength, even.full,
    even.last, even.ne_nil pos, completed.accepted⟩
  · rw [settled.records, hrecords, completed.accepted, ← completed.extracted]
  · rw [settled.batches, hbatches, hlength]

/-- Three pages with a bell each, and batches of two. -/
theorem three_bells_in_two_batches :
    let a : Url := { scheme := "http", host := some (.name "a"), path := .segments [""] }
    let b : Url := { a with path := .segments ["b"] }
    let c : Url := { a with path := .segments ["c"] }
    let web : Web := fun _ => { body := .ok (shelf [("1", "Bell")]) }
    let sink : Sink Unit := ⟨fun _ _ => (.ok (), ())⟩
    let s := sink.withFaults fun _ => none
    let frontier := Frontier.pushAll {} ([a, b, c].map fun url => ⟨url, .productExtraction⟩)
    let start : Crawl (Calls Unit) := fresh "Skladem" none frontier { state := () } 2
    let tally : Tally :=
      { pagesParsed := 3, recordsExtracted := 3, batchesWritten := 2, recordsWritten := 3 }
    sink.NeverFails () ∧ ∃ d, start.run web s none 4 = (some (.ok tally), d) ∧
      tally.batchesWritten = tally.recordsExtracted ⌈/⌉ 2 ∧ d.buffer.sink.count = 2 ∧
      (∀ batch ∈ d.buffer.sink.accepted.dropLast, batch.length = 2) ∧
      d.buffer.sink.accepted.flatten.length = 3 := by
  intro a b c web sink s frontier start tally
  have accepts : sink.NeverFails () := ⟨fun _ => True, trivial, fun _ _ _ _ => ⟨rfl, trivial⟩⟩
  have hanswer : (start.run web s none 4).1 = some (.ok tally) := by
    decide +kernel
  generalize hrun : start.run web s none 4 = ended at hanswer ⊢
  obtain ⟨answer, d⟩ := ended
  obtain rfl : answer = some (.ok tally) := hanswer
  obtain ⟨htally, -, hextracted, -, hbatches, hcalls, -, hfull, -, -, hflatten⟩ :=
    clean_runs_write_full_batches accepts "Skladem" none frontier 2 web 4 hrun
  have hd : d.tally = tally := (Except.ok.inj htally).symm
  rw [hd] at hextracted hbatches hcalls
  have htwo : tally.recordsExtracted ⌈/⌉ 2 = 2 := Nat.ceilDiv_eq_add_pred_div 3 2
  exact ⟨accepts, d, rfl, hbatches, hcalls.trans htwo, hfull,
    (congrArg List.length hflatten).trans hextracted.symm⟩

end Crawl

end PriceTracker
