import PriceTracker.Proofs.Crawl.Frontier
import PriceTracker.Proofs.Crawl.Handover

/-!
# What a refused batch costs

A batch that is refused in the middle of a page cuts the page short: its other records and its links
are lost. Here a crawl whose sink refuses some batches is compared with one on the same pages whose
sink refuses none.

* `Spared` says that nothing was lost: the page had no record left, and its links led to pages that
  were known already;
* `InStep` relates the two crawls: they have the same pages before them and were given the same
  records, but one may have written more of them;
* `keepsUp_runFor`: if nothing is lost, the crawl whose batches are all accepted gets to wherever
  the other one gets.
-/

namespace PriceTracker

/-- The tasks that a visited page leads to. -/
def Visit.leadsTo (v : Visit) : List CrawlTask :=
  v.task.leadsTo v.body

/-- Visits that lose nothing to refused batches. The pages that are known at first are given by
their keys; those that a visited page leads to become known. -/
inductive Spared (label : String) : List String → List Visit → Prop where
  | nil {known : List String} : Spared label known []
  /-- No batch is refused. -/
  | whole {known : List String} {v : Visit} {vs : List Visit} (outcome : v.outcome = .ok ())
      (rest : Spared label (v.leadsTo.map CrawlTask.key ++ known) vs) : Spared label known (v :: vs)
  /-- A batch is refused, but with the last record of the page, and the links lead to known pages
  only. -/
  | cut {known : List String} {v : Visit} {vs : List Visit}
      (records : recordsOf v.blocks = recordsOf (v.task.blocks label v.body))
      (links : ∀ task ∈ v.leadsTo, task.key ∈ known) (rest : Spared label known vs) :
      Spared label known (v :: vs)

/-- The more pages are known, the less can be lost. -/
theorem Spared.mono {label : String} {known more : List String} {vs : List Visit}
    (h : Spared label known vs) (hsub : known ⊆ more) : Spared label more vs := by
  induction h generalizing more with
  | nil => exact .nil
  | whole outcome _ ih =>
    exact .whole outcome (ih (List.append_subset.2
      ⟨List.subset_append_left _ _, List.subset_append_of_subset_right _ hsub⟩))
  | cut records links _ ih =>
    exact .cut records (fun task htask => hsub (links task htask)) (ih hsub)

/-- A sink that accepts what is pending in the buffers that it leads to. -/
structure RecordBuffer.Takes {σ : Type} (s : Sink σ) (kind : ProductRecord → Prop)
    (P : RecordBuffer σ → Prop) : Prop extends RecordBuffer.Keeps s kind P where
  accepts {b : RecordBuffer σ} (h : P b) : ∃ n, (b.flush s).1 = .ok n

namespace Crawl

open RecordBuffer

variable {σ : Type} {web : Web} {s s' : Sink σ} {log : σ → List (List ProductRecord)}
  {kind : ProductRecord → Prop} {P : RecordBuffer σ → Prop} {task : CrawlTask}
  {rest : List CrawlTask} {c d i j : Crawl σ}

/-! ## Runs in parts -/

/-- A run that goes on after some turns goes on from there. -/
theorem runFor_add_of_going {stop : Option Nat} {turns : Nat}
    (h : c.runFor web s stop turns = (none, d)) (more : Nat) :
    c.runFor web s stop (turns + more) = d.runFor web s stop more := by
  induction turns generalizing c with
  | zero =>
    obtain rfl : c = d := congrArg Prod.snd h
    rw [Nat.zero_add]
  | succ turns ih =>
    rw [Nat.succ_add, runFor]
    rw [runFor] at h
    cases hstep : c.step web s stop with
    | mk result e =>
      rw [hstep] at h
      cases result with
      | none => exact ih h
      | some => simp at h

theorem runFor_one {stop : Option Nat} (h : c.step web s stop = (none, d)) :
    c.runFor web s stop 1 = (none, d) := by
  simp [runFor, h]

theorem step_of_skipped (next : c.frontier.queue = task :: rest) (limit : c.limitReached = false)
    (stage : task.stage.handlesPages = false) : c.step web s none = (none, c.taken) := by
  simp [step_of_next next limit, perform, isStopped, stage]

theorem label_of_receive {body : Except FetchError String} {result : Except WriteFailure Unit}
    (h : c.receive s task body = (result, d)) : d.label = c.label := by
  obtain rfl : _ = d := congrArg Prod.snd h
  exact label_receive s task body c

theorem step_of_received (next : c.frontier.queue = task :: rest) (limit : c.limitReached = false)
    (stage : task.stage.handlesPages = true)
    (receive : (c.taken.answered web task).receive s task (web task.url).body = (.ok (), d)) :
    c.step web s none = (none, d) := by
  simp [step_of_next next limit, perform, isStopped, stage, await_none, receive]

/-! ## Two crawls of the same pages -/

/-- Two crawls that go on in the same way and were given the same records. -/
structure InStep (log : σ → List (List ProductRecord)) (c i : Crawl σ) : Prop where
  label : i.label = c.label
  maxPages : i.maxPages = c.maxPages
  frontier : i.frontier = c.frontier
  clock : i.clock = c.clock
  visited : i.tally.pagesVisited = c.tally.pagesVisited
  ledger : i.buffer.ledger log = c.buffer.ledger log

namespace InStep

theorem limitReached (h : InStep log c i) : i.limitReached = c.limitReached := by
  rw [Crawl.limitReached, Crawl.limitReached, h.maxPages, h.visited]

theorem taken (h : InStep log c i) : InStep log c.taken i.taken where
  label := h.label
  maxPages := h.maxPages
  frontier := congrArg Frontier.rest h.frontier
  clock := h.clock
  visited := h.visited
  ledger := h.ledger

theorem answered (h : InStep log c i) (web : Web) (task : CrawlTask) :
    InStep log (c.answered web task) (i.answered web task) where
  label := h.label
  maxPages := h.maxPages
  frontier := by simp only [Crawl.answered, h.frontier, h.clock]
  clock := by simp only [Crawl.answered, h.frontier, h.clock]
  visited := h.visited
  ledger := h.ledger

/-- They stay in step if both work off all records of the page and queue the pages that it leads
to. -/
theorem receive (h : InStep log c i) (hs : s.Logs log) (hs' : s'.Logs log)
    {body : Except FetchError String} (hi : i.receive s' task body = (.ok (), j))
    {result : Except WriteFailure Unit} (hc : c.receive s task body = (result, d))
    (records : recordsOf (c.consumed s task body) = recordsOf (task.blocks c.label body))
    (frontier : d.frontier = c.frontier.pushAll (task.leadsTo body)) : InStep log d j := by
  have hall : i.consumed s' task body = task.blocks i.label body :=
    consumed_of_receive_ok (congrArg Prod.fst hi)
  have hqueued := frontier_receive_of_ok hi
  obtain rfl : _ = d := congrArg Prod.snd hc
  obtain rfl : _ = j := congrArg Prod.snd hi
  refine ⟨?_, ?_, ?_, ?_, ?_, ?_⟩
  · rw [label_receive, label_receive, h.label]
  · rw [maxPages_receive, maxPages_receive, h.maxPages]
  · rw [hqueued, frontier, h.frontier]
  · rw [clock_receive, clock_receive, h.clock]
  · rw [pagesVisited_receive, pagesVisited_receive, h.visited]
  · rw [buffer_receive, buffer_receive, ledger_after hs', ledger_after hs, appended_map_append,
      appended_map_append, h.ledger, hall, records, h.label]

end InStep

/-- What the crawl whose batches are all accepted does while the other one runs: it ends when that
one has written all, and otherwise goes on. -/
inductive KeepsUp (web : Web) (s' : Sink σ) (log : σ → List (List ProductRecord)) (i : Crawl σ) :
    Option (Except RunFailure Tally) × Crawl σ → Prop where
  | going {c j : Crawl σ} (turns : Nat) (run : i.runFor web s' none turns = (none, j))
      (h : InStep log c j) : KeepsUp web s' log i (none, c)
  | halted {c j : Crawl σ} (turns : Nat) (failure : WriteFailure)
      (run : i.runFor web s' none turns = (none, j)) (h : InStep log c j) :
      KeepsUp web s' log i (some (.error (.write failure)), c)
  | ended {c j : Crawl σ} (turns : Nat) (tally : Tally) {tally' : Tally}
      (run : i.runFor web s' none turns = (some (.ok tally'), j))
      (ledger : j.buffer.ledger log = c.buffer.ledger log) (pending : j.buffer.pending = []) :
      KeepsUp web s' log i (some (.ok tally), c)

theorem KeepsUp.of_runFor {turns : Nat} (run : i.runFor web s' none turns = (none, j))
    {result : Option (Except RunFailure Tally) × Crawl σ} (h : KeepsUp web s' log j result) :
    KeepsUp web s' log i result := by
  cases h with
  | going n hrun h => exact .going _ ((runFor_add_of_going run n).trans hrun) h
  | halted n failure hrun h =>
    exact .halted _ failure ((runFor_add_of_going run n).trans hrun) h
  | ended n tally hrun ledger pending =>
    exact .ended _ tally ((runFor_add_of_going run n).trans hrun) ledger pending

/-- A sink that takes all does not cut a page short. -/
theorem step_of_takes (web : Web) (takes : Takes s' kind P) (yields : Catalog.Yields kind)
    (h : P i.buffer) (next : i.frontier.queue = task :: rest) (limit : i.limitReached = false)
    (stage : task.stage.handlesPages = true) :
    ∃ j, (i.taken.answered web task).receive s' task (web task.url).body = (.ok (), j) ∧
      i.step web s' none = (none, j) := by
  cases hreceive : (i.taken.answered web task).receive s' task (web task.url).body with
  | mk result j =>
    cases result with
    | ok => exact ⟨j, rfl, step_of_received next limit stage hreceive⟩
    | error failure =>
      have htaken : P (i.taken.answered web task).buffer := h
      obtain ⟨b, hb, hflush⟩ := takes.refused_of_receive yields htaken hreceive
      obtain ⟨n, hn⟩ := takes.accepts hb
      simp [hflush] at hn

theorem finish_of_takes (takes : Takes s' kind P) (h : P i.buffer) :
    ∃ tally, (i.finish s').1 = .ok tally ∧ (i.finish s').2.buffer.pending = [] := by
  obtain ⟨n, hn⟩ := takes.accepts h
  generalize hf : i.finish s' = result
  cases finish_outcome hf with
  | refused hflush => simp [hflush] at hn
  | written hflush => exact ⟨_, rfl, pending_flush_of_ok hflush⟩

theorem ledger_finish (hs : s.Logs log) (c : Crawl σ) :
    (c.finish s).2.buffer.ledger log = c.buffer.ledger log := by
  simpa using (delivers_finish hs c).ledger

/-! ## Keeping up -/

theorem keepsUp_step (hs : s.Logs log) (hs' : s'.Logs log) (takes : Takes s' kind P)
    (yields : Catalog.Yields kind) (h : InStep log c i) (hP : P i.buffer) {more : List Visit}
    (spared : Spared c.label c.frontier.seen ((c.visit? web s none).toList ++ more))
    {result : Option (Except RunFailure Tally)} (hstep : c.step web s none = (result, d)) :
    KeepsUp web s' log i (result, d) ∧ Spared d.label d.frontier.seen more := by
  generalize hv : c.visit? web s none = visit at spared
  cases turn_of_step hv hstep with
  | finished hend =>
    have hiend : i.frontier.queue = [] ∨ i.limitReached = true := by
      rwa [h.frontier, h.limitReached]
    have hledger := ledger_finish hs c
    generalize hf : c.finish s = ended at hledger
    cases finish_outcome hf with
    | refused hflush =>
      -- The other crawl stays where it is, and ends together with a later run.
      exact ⟨.halted 0 _ rfl ⟨h.label, h.maxPages, h.frontier, h.clock, h.visited,
        h.ledger.trans hledger.symm⟩, spared⟩
    | written hflush =>
      obtain ⟨tally, htally, hpending⟩ := finish_of_takes takes hP
      have hrun : i.runFor web s' none 1 = (some (.ok tally), (i.finish s').2) := by
        rw [runFor, step_of_finished hiend, htally]
      refine ⟨.ended 1 _ hrun ?_ hpending, spared⟩
      rw [ledger_finish hs', h.ledger, hledger]
  | stopped _ _ h => simp [isStopped] at h
  | interrupted _ _ _ await => simp [await_none] at await
  | skipped next limit stage =>
    have hstepI : i.step web s' none = (none, i.taken) :=
      step_of_skipped (h.frontier ▸ next) (h.limitReached.trans limit) stage
    exact ⟨.going 1 (runFor_one hstepI) h.taken, spared⟩
  | @visited task rest _ next limit stage receive =>
    obtain ⟨j, hj, hstepI⟩ := step_of_takes web takes yields hP (h.frontier ▸ next)
      (h.limitReached.trans limit) stage
    have hfrontier := frontier_receive_of_ok receive
    have hall := consumed_of_receive_ok (congrArg Prod.fst receive)
    refine ⟨.going 1 (runFor_one hstepI) ((h.taken.answered web task).receive hs hs' hj receive
      (congrArg recordsOf hall) hfrontier), ?_⟩
    have hseen : ∀ key, key ∈ d.frontier.seen ↔
        key ∈ c.frontier.seen ∨ key ∈ (task.leadsTo (web task.url).body).map CrawlTask.key := by
      intro key
      rw [hfrontier]
      exact Frontier.mem_seen_pushAll
    rw [label_of_receive receive]
    cases spared with
    | whole _ rest =>
      refine rest.mono fun key hkey => (hseen key).2 ?_
      exact (List.mem_append.1 hkey).symm
    | cut _ _ rest => exact rest.mono fun key hkey => (hseen key).2 (Or.inl hkey)
  | @failed task rest failure _ next limit stage receive =>
    obtain ⟨j, hj, hstepI⟩ := step_of_takes web takes yields hP (h.frontier ▸ next)
      (h.limitReached.trans limit) stage
    have hfrontier := frontier_receive_of_error receive
    rw [label_of_receive receive, hfrontier]
    cases spared with
    | whole outcome =>
      have hrefused := (congrArg Prod.fst receive).symm.trans outcome
      simp at hrefused
    | cut records links rest =>
      -- The links that are not queued here change nothing there.
      have hlinks : ∀ next ∈ task.leadsTo (web task.url).body,
          next.key ∈ (c.taken.answered web task).frontier.seen := links
      have hknown := hfrontier.trans (Frontier.pushAll_of_mem_seen hlinks).symm
      exact ⟨.halted 1 failure (runFor_one hstepI)
        ((h.taken.answered web task).receive hs hs' hj receive records hknown), rest⟩

/-- **If nothing is lost, a crawl whose batches are all accepted keeps up** with one that has some
of its batches refused. -/
theorem keepsUp_runFor (hs : s.Logs log) (hs' : s'.Logs log) (takes : Takes s' kind P)
    (yields : Catalog.Yields kind) (h : InStep log c i) (hP : P i.buffer) {turns : Nat}
    {more : List Visit}
    (spared : Spared c.label c.frontier.seen (c.visits web s none turns ++ more)) :
    let result := c.runFor web s none turns
    KeepsUp web s' log i result ∧ Spared result.2.label result.2.frontier.seen more := by
  induction turns generalizing c i with
  | zero => exact ⟨.going 0 rfl h, spared⟩
  | succ turns ih =>
    rw [visits, List.append_assoc] at spared
    rw [runFor]
    cases hstep : c.step web s none with
    | mk result d =>
      rw [hstep] at spared
      obtain ⟨hkeeps, hspared⟩ := keepsUp_step hs hs' takes yields h hP spared hstep
      cases result with
      | some result => exact ⟨hkeeps, hspared⟩
      | none =>
        cases hkeeps with
        | going _ run h' =>
          obtain ⟨hrest, hspared⟩ := ih h' (takes.of_runFor yields hP run) hspared
          exact ⟨hrest.of_runFor run, hspared⟩

end Crawl

end PriceTracker
