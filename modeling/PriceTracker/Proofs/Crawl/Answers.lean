import Mathlib.Data.List.Basic
import PriceTracker.Proofs.Crawl.Handover

/-!
# What the answer of a run says

A run answers with a tally, with a batch that was not accepted, or with a stop. `Leaves` says what
each of them means for the crawl: as long as it is not over, its tally holds nothing of the buffer,
and when it ends it is settled.

* `written_add_abandoned_eq_extracted`: a tally accounts for all records, and those that it lacks
  are the ones that an earlier run left when it was stopped;
* `counters_agree_iff`: after a run the tally agrees with the sink, unless a batch was refused after
  others were accepted.
-/

namespace PriceTracker.Crawl

open RecordBuffer

variable {σ : Type} {web : Web} {s : Sink σ} {stop : Option Nat} {c d : Crawl σ}

/-! ## One run -/

/-- The crawl is not over, and has taken nothing over from its buffer yet. -/
structure Going (c : Crawl σ) : Prop where
  stage : c.stage.isTerminal = false
  batches : c.tally.batchesWritten = 0
  records : c.tally.recordsWritten = 0

/-- The crawl is over, and its counters are those of its buffer. -/
structure Settled (c : Crawl σ) : Prop where
  stage : c.stage.isTerminal = true
  batches : c.tally.batchesWritten = c.buffer.batches
  records : c.tally.recordsWritten = c.buffer.records

/-- What the answer of a run, if there is one already, says of the crawl. -/
inductive Leaves : Option (Except RunFailure Tally) × Crawl σ → Prop where
  | running {c : Crawl σ} (h : c.Going) : Leaves (none, c)
  | refused {c : Crawl σ} (failure : WriteFailure) (h : c.Going) :
      Leaves (some (.error (.write failure)), c)
  | written {c : Crawl σ} (h : c.Settled) (pending : c.buffer.pending = []) :
      Leaves (some (.ok c.tally), c)
  | stopped {c : Crawl σ} (h : c.Settled) :
      Leaves (some (.error (.aborted c.buffer.pending.length)), c)

theorem settled_settle (h : c.stage.isTerminal = true) : c.settle.Settled :=
  ⟨h, rfl, rfl⟩

theorem leaves_finish (h : c.Going) (s : Sink σ) :
    Leaves (some (c.finish s).1, (c.finish s).2) := by
  generalize hf : c.finish s = result
  cases finish_outcome hf with
  | refused => exact .refused _ ⟨h.stage, h.batches, h.records⟩
  | @written n b flush =>
    have hpending : b.pending = [] := pending_flush_of_ok flush
    exact .written (settled_settle (c := { c with buffer := b, stage := .done }) rfl) hpending

theorem leaves_abort (c : Crawl σ) : Leaves (some c.abort.1, c.abort.2) :=
  .stopped (settled_settle (c := { c with stage := .done }) rfl)

theorem isTerminal_of_handlesPages {stage : CrawlStage} (h : stage.handlesPages = true) :
    stage.isTerminal = false := by
  cases stage with
  | done => exact absurd h (by decide)
  | _ => rfl

/-- A page leaves the crawl in the stage that reads it. -/
theorem going_receive (h : c.Going) {task : CrawlTask} (stage : task.stage.handlesPages = true)
    {body : Except FetchError String} {result : Except WriteFailure Unit}
    (receive : (c.taken.answered web task).receive s task body = (result, d)) : d.Going := by
  obtain rfl : _ = d := congrArg Prod.snd receive
  refine ⟨?_, ?_, ?_⟩
  · rw [stage_receive]
    exact isTerminal_of_handlesPages stage
  · rw [tally_receive]
    exact h.batches
  · rw [tally_receive]
    exact h.records

theorem leaves_step (h : c.Going) (web : Web) (s : Sink σ) (stop : Option Nat) :
    Leaves (c.step web s stop) := by
  generalize hv : c.visit? web s stop = visit
  generalize hstep : c.step web s stop = result
  cases turn_of_step hv hstep with
  | finished => exact leaves_finish h s
  | stopped => exact leaves_abort c.taken
  | skipped => exact .running ⟨h.stage, h.batches, h.records⟩
  | @interrupted task rest d => exact leaves_abort d
  | visited _ _ stage receive => exact .running (going_receive h stage receive)
  | failed _ _ stage receive => exact .refused _ (going_receive h stage receive)

theorem leaves_runFor (h : c.Going) (web : Web) (s : Sink σ) (stop : Option Nat) (turns : Nat) :
    Leaves (c.runFor web s stop turns) := by
  induction turns generalizing c with
  | zero => exact .running h
  | succ turns ih =>
    have hstep := leaves_step h web s stop
    rw [runFor]
    generalize c.step web s stop = result at hstep
    cases hstep with
    | running h => exact ih h
    | refused failure h => exact .refused failure h
    | written h pending => exact .written h pending
    | stopped h => exact .stopped h

theorem Going.run_eq (h : c.Going) (web : Web) (s : Sink σ) (stop : Option Nat) (turns : Nat) :
    c.run web s stop turns = c.runFor web s stop turns := by
  rw [run, if_neg (by simp [h.stage])]

theorem leaves_run (h : c.Going) (web : Web) (s : Sink σ) (stop : Option Nat) (turns : Nat) :
    Leaves (c.run web s stop turns) := by
  rw [h.run_eq]
  exact leaves_runFor h web s stop turns

/-- A refused batch does not end the crawl. -/
theorem Going.of_refused (h : c.Going) {turns : Nat} {failure : WriteFailure}
    (hrun : c.run web s stop turns = (some (.error (.write failure)), d)) : d.Going := by
  have hleaves := leaves_run h web s stop turns
  rw [hrun] at hleaves
  cases hleaves with
  | refused _ hgoing => exact hgoing

/-- A crawl that is over is not run again. -/
theorem run_of_isTerminal (h : c.stage.isTerminal = true) (web : Web) (s : Sink σ)
    (stop : Option Nat) (turns : Nat) : c.run web s stop turns = (some (.ok c.tally), c) := by
  rw [run, if_pos h]

theorem going_or_isTerminal_act (h : c.Going ∨ c.stage.isTerminal = true) (s : Sink σ)
    (action : Action) : (c.act s action).Going ∨ (c.act s action).stage.isTerminal = true := by
  cases action with
  | seedRoot url => exact h.imp_left fun h => ⟨h.stage, h.batches, h.records⟩
  | seedCategories urls => exact h.imp_left fun h => ⟨h.stage, h.batches, h.records⟩
  | flush => exact h.imp_left fun h => ⟨h.stage, h.batches, h.records⟩
  | run web stop turns =>
    rw [act]
    obtain h | h := h
    · have hleaves := leaves_run h web s stop turns
      generalize c.run web s stop turns = result at hleaves ⊢
      cases hleaves with
      | running h => exact Or.inl h
      | refused _ h => exact Or.inl h
      | written h => exact Or.inr h.stage
      | stopped h => exact Or.inr h.stage
    · rw [run_of_isTerminal h]
      exact Or.inr h

/-- As long as a crawl is not over, its tally has taken nothing over from its buffer. -/
theorem Going.of_actAll (h : c.Going) {actions : List Action}
    (stage : (c.actAll s actions).stage.isTerminal = false) : (c.actAll s actions).Going := by
  have hall : (c.actAll s actions).Going ∨ (c.actAll s actions).stage.isTerminal = true := by
    replace h : c.Going ∨ c.stage.isTerminal = true := Or.inl h
    clear stage
    induction actions generalizing c with
    | nil => exact h
    | cons action actions ih => exact ih (going_or_isTerminal_act h s action)
  exact hall.resolve_right (by simp [stage])

/-! ## Actions and their answers -/

/-- The answer to an action, if it is a run that ends. -/
def answer? (s : Sink σ) (c : Crawl σ) : Action → Option (Except RunFailure Tally)
  | .run web stop turns => (c.run web s stop turns).1
  | _ => none

/-- The answers of the runs among actions, in order. -/
def answers (s : Sink σ) : Crawl σ → List Action → List (Except RunFailure Tally)
  | _, [] => []
  | c, action :: actions => (c.answer? s action).toList ++ answers s (c.act s action) actions

/-- The records that were not written when a run was stopped. -/
def leftBy : Except RunFailure Tally → Nat
  | .error (.aborted pending) => pending
  | _ => 0

/-- All records that runs left when they were stopped. -/
def abandoned : List (Except RunFailure Tally) → Nat
  | [] => 0
  | answer :: answers => leftBy answer + abandoned answers

@[simp] theorem abandoned_nil : abandoned [] = 0 := rfl

@[simp] theorem abandoned_append (l m : List (Except RunFailure Tally)) :
    abandoned (l ++ m) = abandoned l + abandoned m := by
  induction l with
  | nil => simp
  | cons answer l ih => simp only [List.cons_append, abandoned, ih, Nat.add_assoc]

/-- A crawl whose runs left so many records. -/
inductive Accounts : Nat → Crawl σ → Prop where
  | going {c : Crawl σ} (h : c.Going) : Accounts 0 c
  | ended {c : Crawl σ} {left : Nat} (stage : c.stage.isTerminal = true)
      (written : c.tally.recordsWritten + left = c.tally.recordsExtracted)
      (pending : c.buffer.pending.length ≤ left) : Accounts left c

/-- A run leaves no more records than it says. -/
theorem Accounts.run {left turns : Nat} (h : c.Accounts left)
    (handled : (c.run web s stop turns).2.tally.recordsExtracted =
      (c.run web s stop turns).2.buffer.handled) :
    (c.run web s stop turns).2.Accounts
      (left + abandoned (c.run web s stop turns).1.toList) := by
  cases h with
  | ended stage written pending =>
    rw [run_of_isTerminal stage]
    exact .ended stage written pending
  | going h =>
    have hleaves := leaves_run h web s stop turns
    generalize c.run web s stop turns = result at handled hleaves
    cases hleaves with
    | running h => exact .going h
    | refused failure h => exact .going h
    | @written d h pending =>
      have hall : d.tally.recordsExtracted = d.buffer.records + d.buffer.pending.length := handled
      refine .ended h.stage ?_ ?_
      · simp [abandoned, leftBy, h.records, hall, pending]
      · simp [pending]
    | @stopped d h =>
      have hall : d.tally.recordsExtracted = d.buffer.records + d.buffer.pending.length := handled
      refine .ended h.stage ?_ ?_
      · simp [abandoned, leftBy, h.records, hall]
      · simp [abandoned, leftBy]

theorem Accounts.flush {left : Nat} (h : c.Accounts left) (s : Sink σ) :
    (c.flush s).2.Accounts left := by
  cases h with
  | going h => exact .going ⟨h.stage, h.batches, h.records⟩
  | ended stage written pending =>
    exact .ended stage written (Nat.le_trans (length_pending_flush_le s c.buffer) pending)

theorem Accounts.act {left : Nat} (h : c.Accounts left) (action : Action)
    (handled : (c.act s action).tally.recordsExtracted = (c.act s action).buffer.handled) :
    (c.act s action).Accounts (left + abandoned (c.answer? s action).toList) := by
  cases action with
  | seedRoot url =>
    cases h with
    | going h => exact .going ⟨h.stage, h.batches, h.records⟩
    | ended stage written pending => exact .ended stage written pending
  | seedCategories urls =>
    cases h with
    | going h => exact .going ⟨h.stage, h.batches, h.records⟩
    | ended stage written pending => exact .ended stage written pending
  | flush => exact h.flush s
  | run web stop turns => exact h.run handled

/-- All records that were extracted were given to the buffer, whatever is done. -/
theorem handled_act {log : σ → List (List ProductRecord)} (logs : s.Logs log)
    (h : c.tally.recordsExtracted = c.buffer.handled) (action : Action) :
    (c.act s action).tally.recordsExtracted = (c.act s action).buffer.handled := by
  have hdelivers := (delivers_act logs c action).extracted
  omega

theorem Accounts.actAll {log : σ → List (List ProductRecord)} (logs : s.Logs log) {left : Nat}
    (h : c.Accounts left) (handled : c.tally.recordsExtracted = c.buffer.handled)
    (actions : List Action) :
    (c.actAll s actions).Accounts (left + abandoned (c.answers s actions)) := by
  induction actions generalizing c left with
  | nil => exact h
  | cons action actions ih =>
    have hact := handled_act logs handled action
    have hrest := ih (h.act action hact) hact
    rwa [Nat.add_assoc, ← abandoned_append] at hrest

/-- A crawl whose run answers with a tally is over, and the tally is its own. -/
theorem Accounts.of_run_eq_ok {left turns : Nat} {tally : Tally} (h : c.Accounts left)
    (hrun : c.run web s stop turns = (some (.ok tally), d)) :
    d.stage.isTerminal = true ∧ d.tally = tally := by
  cases h with
  | ended stage =>
    rw [run_of_isTerminal stage] at hrun
    simp only [Prod.mk.injEq, Option.some.injEq, Except.ok.injEq] at hrun
    obtain ⟨rfl, rfl⟩ := hrun
    exact ⟨stage, rfl⟩
  | going h =>
    have hleaves := leaves_run h web s stop turns
    rw [hrun] at hleaves
    cases hleaves with
    | written h => exact ⟨h.stage, rfl⟩

theorem accounts_fresh (label : String) (maxPages : Option Nat) (frontier : Frontier) (sink : σ)
    (batchSize : Nat) : (fresh label maxPages frontier sink batchSize).Accounts 0 :=
  .going ⟨rfl, rfl, rfl⟩

/-! ## What was written -/

/-- **A tally accounts for all records.** Whatever was done to a crawl before, and whatever its sink
accepts, when a run answers with a tally, the records that the tally does not count as written are
those that an earlier run left when it was stopped, and no others are pending. So everything is
written exactly if no run was stopped with records pending. -/
theorem written_add_abandoned_eq_extracted (sink : Sink σ) (fault : Nat → Option WriteFailure)
    (state : σ) (label : String) (maxPages : Option Nat) (frontier : Frontier) (batchSize : Nat)
    (actions : List Action) {web : Web} {stop : Option Nat} {turns : Nat} {tally : Tally}
    {d : Crawl (Calls σ)} :
    let s := sink.withFaults fault
    let start : Crawl (Calls σ) := fresh label maxPages frontier { state } batchSize
    (start.actAll s actions).run web s stop turns = (some (.ok tally), d) →
      let left := abandoned (start.answers s actions)
      tally.recordsWritten + left = tally.recordsExtracted ∧ d.buffer.pending.length ≤ left ∧
        (d.buffer.pending = [] ∧ tally.recordsWritten = tally.recordsExtracted ↔ left = 0) := by
  intro s start hrun left
  have logs : s.Logs Calls.accepted := sink.logs_withFaults fault
  have haccounts : (start.actAll s actions).Accounts left := by
    have hstart : start.Accounts 0 := accounts_fresh _ _ _ _ _
    simpa using hstart.actAll logs rfl actions
  have hhandled : (start.actAll s actions).tally.recordsExtracted =
      (start.actAll s actions).buffer.handled := by
    simpa [start, fresh, RecordBuffer.empty, handled] using
      (delivers_actAll logs start actions).extracted
  obtain ⟨hstage, rfl⟩ := haccounts.of_run_eq_ok hrun
  have hd : d.Accounts left := by
    have hafter := haccounts.run (handled_act logs hhandled (.run web stop turns))
    rw [hrun] at hafter
    exact hafter
  generalize left = n at hd ⊢
  cases hd with
  | going h => simp [h.stage] at hstage
  | ended _ written pending =>
    refine ⟨written, pending, fun h => ?_, fun h => ⟨?_, ?_⟩⟩
    · obtain ⟨-, hall⟩ := h
      omega
    · exact List.eq_nil_of_length_eq_zero (by omega)
    · omega

/-- A listing page with products of some numbers and names. -/
def shelf (products : List (String × String)) : String :=
  let block (product : String × String) : String :=
    "<div class=ProductView data-clipboard=" ++ product.1 ++ "><h2><a href=/p>" ++ product.2 ++
      "</a></h2><div class=\"price vat primary user\"><i class=value>99</i></div></div>"
  "<div id=ProductListDefault>" ++ String.join (products.map block) ++ "</div>"

/-- Two pages with a bell each. The first batch is refused, and the run after that writes both. -/
theorem nothing_abandoned_after_refused_batch :
    let a : Url := { scheme := "http", host := some (.name "a"), path := .segments [""] }
    let b : Url := { a with path := .segments ["b"] }
    let web : Web := fun _ => { body := .ok (shelf [("1", "Bell")]) }
    let sink : Sink Unit := ⟨fun _ _ => (.ok (), ())⟩
    let fault (n : Nat) : Option WriteFailure := [.crashed][n]?
    let s := sink.withFaults fault
    let actions : List Action := [.seedCategories [a, b], .run web none 3]
    let start : Crawl (Calls Unit) := fresh "Skladem" none {} { state := () } 1
    let tally : Tally :=
      { pagesParsed := 2, recordsExtracted := 2, batchesWritten := 1, recordsWritten := 2 }
    ∃ d, (start.actAll s actions).run web s none 3 = (some (.ok tally), d) ∧
      let left := abandoned (start.answers s actions)
      tally.recordsWritten + left = tally.recordsExtracted ∧ d.buffer.pending.length ≤ left ∧
        (d.buffer.pending = [] ∧ tally.recordsWritten = tally.recordsExtracted ↔ left = 0) := by
  intro a b web sink fault s actions start tally
  have hanswer : ((start.actAll s actions).run web s none 3).1 = some (.ok tally) := by
    decide +kernel
  generalize hrun : (start.actAll s actions).run web s none 3 = result at hanswer ⊢
  obtain ⟨answer, d⟩ := result
  obtain rfl : answer = some (.ok tally) := hanswer
  exact ⟨d, rfl, written_add_abandoned_eq_extracted sink fault () "Skladem" none {} 1 actions hrun⟩

/-- A crawl that was stopped with a record pending is over, and answers with a tally when it is run
again. -/
theorem ok_with_pending_record :
    let a : Url := { scheme := "http", host := some (.name "a"), path := .segments [""] }
    let b : Url := { a with path := .segments ["b"] }
    let web : Web := fun _ => { delay := 2, body := .ok (shelf [("1", "Bell")]) }
    let s : Sink Unit := ⟨fun _ _ => (.ok (), ())⟩
    let start := (fresh "Skladem" none {} () 10).seedCategories [a, b]
    let stopped := start.run web s (some 3) 2
    let again := stopped.2.run web s none 2
    stopped.1 = some (.error (.aborted 1)) ∧
      again.1 = some (.ok { pagesParsed := 1, recordsExtracted := 1 }) ∧
      again.2.buffer.pending.length = 1 := by
  intro a b web s start stopped again
  decide +kernel

/-- **When the counters of a tally are those of the sink.** A crawl starts with a buffer that may have
been used and that has counted the batches and records which its sink accepted. If it is not over,
whatever was done to it since, it is run, and its sink may accept any batches. The buffer has then
counted what the sink accepted so far. After the run the tally has the same numbers, unless a batch
was refused in the end: then it has none, and agrees only if the sink accepted nothing. -/
theorem counters_agree_iff (sink : Sink σ) (fault : Nat → Option WriteFailure)
    {buffer : RecordBuffer (Calls σ)} (counted : buffer.CountsLog Calls.accepted)
    (label : String) (maxPages : Option Nat) (frontier : Frontier) (actions : List Action)
    {web : Web} {stop : Option Nat} {turns : Nat} {result : Except RunFailure Tally}
    {d : Crawl (Calls σ)} :
    let s := sink.withFaults fault
    let start : Crawl (Calls σ) := { label, maxPages, frontier, buffer }
    (start.actAll s actions).stage.isTerminal = false →
    (start.actAll s actions).run web s stop turns = (some result, d) →
      d.buffer.batches = d.buffer.sink.accepted.length ∧
      d.buffer.records = d.buffer.sink.accepted.flatten.length ∧
      (d.tally.batchesWritten = d.buffer.batches ∧ d.tally.recordsWritten = d.buffer.records ↔
        ∀ failure, result = .error (.write failure) → d.buffer.sink.accepted = []) := by
  intro s start hstage hrun
  have logs : s.Logs Calls.accepted := sink.logs_withFaults fault
  have hstart : start.Going := ⟨rfl, rfl, rfl⟩
  have hgoing := hstart.of_actAll hstage
  have hleaves := leaves_run hgoing web s stop turns
  have hcounts : (start.actAll s (actions ++ [.run web stop turns])).buffer.CountsLog
      Calls.accepted :=
    (keeps_countsLog logs).actAll (fun _ _ _ _ _ => trivial) (c := start) counted _
  have hlast : start.actAll s (actions ++ [.run web stop turns]) = d := by
    rw [actAll, List.foldl_append]
    exact congrArg Prod.snd hrun
  rw [hlast] at hcounts
  rw [hrun] at hleaves
  obtain ⟨hbatches, hrecords⟩ := hcounts
  refine ⟨hbatches, hrecords, ?_⟩
  cases hleaves with
  | written h => exact ⟨fun _ _ hfailure => by simp at hfailure, fun _ => ⟨h.batches, h.records⟩⟩
  | stopped h => exact ⟨fun _ _ hfailure => by simp at hfailure, fun _ => ⟨h.batches, h.records⟩⟩
  | refused failure h =>
    rw [h.batches, h.records]
    constructor
    · rintro ⟨hnone, -⟩ _ -
      exact List.eq_nil_of_length_eq_zero (hbatches.symm.trans hnone.symm)
    · intro hall
      have hnil := hall failure rfl
      simp [hbatches, hrecords, hnil]

/-- A stop while the second page is waited for, when the batch of the first was accepted. -/
theorem counters_agree_after_stop :
    let a : Url := { scheme := "http", host := some (.name "a"), path := .segments [""] }
    let b : Url := { a with path := .segments ["b"] }
    let web : Web := fun _ => { delay := 2, body := .ok (shelf [("1", "Bell")]) }
    let sink : Sink Unit := ⟨fun _ _ => (.ok (), ())⟩
    let s := sink.withFaults fun _ => none
    let actions : List Action := [.seedCategories [a, b]]
    let start : Crawl (Calls Unit) := fresh "Skladem" none {} { state := () } 1
    let result : Except RunFailure Tally := .error (.aborted 0)
    start.buffer.CountsLog Calls.accepted ∧ (start.actAll s actions).stage.isTerminal = false ∧
    ∃ d, (start.actAll s actions).run web s (some 3) 2 = (some result, d) ∧
      d.buffer.batches = d.buffer.sink.accepted.length ∧
      d.buffer.records = d.buffer.sink.accepted.flatten.length ∧
      (d.tally.batchesWritten = d.buffer.batches ∧ d.tally.recordsWritten = d.buffer.records ↔
        ∀ failure, result = .error (.write failure) → d.buffer.sink.accepted = []) := by
  intro a b web sink s actions start result
  have hstage : (start.actAll s actions).stage.isTerminal = false := rfl
  have hanswer : ((start.actAll s actions).run web s (some 3) 2).1 = some result := by
    decide +kernel
  generalize hrun : (start.actAll s actions).run web s (some 3) 2 = ended at hanswer ⊢
  obtain ⟨answer, d⟩ := ended
  obtain rfl : answer = some result := hanswer
  have counted : (empty ({ state := () } : Calls Unit) 1).CountsLog Calls.accepted := ⟨rfl, rfl⟩
  exact ⟨counted, hstage, d, rfl,
    counters_agree_iff sink (fun _ => none) counted "Skladem" none {} actions hstage hrun⟩

/-- A batch that is refused after another was accepted: the tally counts neither. -/
theorem accepted_batch_uncounted :
    let a : Url := { scheme := "http", host := some (.name "a"), path := .segments [""] }
    let b : Url := { a with path := .segments ["b"] }
    let web : Web := fun _ => { body := .ok (shelf [("1", "Bell")]) }
    let refusal : WriteFailure := .refused ⟨"products", .missingTable "products"⟩
    let sink : Sink Unit := ⟨fun _ _ => (.ok (), ())⟩
    let s := sink.withFaults fun n => if n == 1 then some refusal else none
    let start : Crawl (Calls Unit) := fresh "Skladem" none {} { state := () } 1
    let ended := (start.seedCategories [a, b]).run web s none 3
    ended.1 = some (.error (.write refusal)) ∧ ended.2.buffer.sink.accepted.length = 1 ∧
      ended.2.buffer.batches = 1 ∧ ended.2.buffer.records = 1 ∧
      ended.2.tally.batchesWritten = 0 ∧ ended.2.tally.recordsWritten = 0 := by
  intro a b web refusal sink s start ended
  decide +kernel

end PriceTracker.Crawl
