import PriceTracker.Proofs.Crawl.Recast

/-!
# The calls of a sink

A sink may accept, refuse or break down at each call, for reasons of its own. `Sink.traced` is the
same sink with a record of what it is called with and of what it answers. It shows when a buffer
calls its sink and with which records:

* `Handed` says that the sink was called once, with a batch, and what became of the buffer;
* `handed_flush` and `handed_append`: a flush hands over everything if there is anything, an append
  if the threshold is reached;
* `hands_over_when_due`: so a buffer does after any calls, however many batches failed.
-/

namespace PriceTracker

variable {σ : Type}

/-- The state of a sink, and what it was called with, each batch with the answer, in order. -/
structure Trace (σ : Type) where
  state : σ
  calls : List (List ProductRecord × Except WriteFailure Unit) := []

/-- The batches that were accepted, in order. -/
def Trace.accepted (t : Trace σ) : List (List ProductRecord) :=
  (t.calls.filter (·.2.isOk)).map Prod.fst

namespace Sink

/-- The sink that keeps a trace. -/
def traced (s : Sink σ) : Sink (Trace σ) where
  write batch t :=
    let (answer, state) := s.write batch t.state
    (answer, { state, calls := t.calls ++ [(batch, answer)] })

/-- The trace does not matter to the answers. -/
theorem shows_traced (s : Sink σ) : s.traced.Shows s Trace.state :=
  fun _ _ => rfl

theorem logs_traced (s : Sink σ) : s.traced.Logs Trace.accepted where
  of_accepted := by
    rintro batch t t' h
    obtain ⟨hanswer, rfl⟩ := Prod.mk.inj h
    simp [Trace.accepted, hanswer, Except.isOk, Except.toBool]
  of_refused := by
    rintro batch t t' failure h
    obtain ⟨hanswer, rfl⟩ := Prod.mk.inj h
    simp [Trace.accepted, hanswer, Except.isOk, Except.toBool]

end Sink

namespace RecordBuffer

variable {s : Sink σ} {b d : RecordBuffer (Trace σ)} {batch : List ProductRecord}

/-! ## One call -/

/-- The sink was called once, with the batch. If it accepted the batch, nothing is left, and the
counters count it; otherwise all of its records are left, and the counters are as they were. -/
structure Handed (s : Sink σ) (batch : List ProductRecord) (b d : RecordBuffer (Trace σ)) :
    Prop where
  call : d.sink.calls = b.sink.calls ++ [(batch, (s.write batch b.sink.state).1)]
  accepted : (s.write batch b.sink.state).1 = .ok () →
    d.pending = [] ∧ d.batches = b.batches + 1 ∧ d.records = b.records + batch.length
  kept : ∀ failure, (s.write batch b.sink.state).1 = .error failure →
    d.pending = batch ∧ d.batches = b.batches ∧ d.records = b.records

/-- A flush of a buffer that is not empty hands over everything. -/
theorem handed_flush (h : b.pending ≠ []) :
    Handed s b.pending b (b.flush s.traced).2 ∧
      (b.flush s.traced).1 = (s.write b.pending b.sink.state).1.map fun _ => b.pending.length := by
  generalize hf : b.flush s.traced = result
  cases flush_outcome hf with
  | idle hnil => exact absurd hnil h
  | @refused failure sink _ write =>
    obtain ⟨hanswer, rfl⟩ := Prod.mk.inj write
    refine ⟨⟨?_, ?_, fun _ _ => ⟨rfl, rfl, rfl⟩⟩, ?_⟩
    · rw [hanswer]
    · simp [hanswer]
    · rw [hanswer]
      rfl
  | @accepted sink _ write =>
    obtain ⟨hanswer, rfl⟩ := Prod.mk.inj write
    refine ⟨⟨?_, fun _ => ⟨rfl, rfl, rfl⟩, ?_⟩, ?_⟩
    · rw [hanswer]
    · simp [hanswer]
    · rw [hanswer]
      rfl

/-- An append that reaches the threshold hands over everything, the new record last. -/
theorem handed_append {r : ProductRecord} (due : b.threshold ≤ b.pending.length + 1) :
    Handed s (b.pending ++ [r]) b (b.append s.traced r).2 ∧
      (b.append s.traced r).1 =
        (s.write (b.pending ++ [r]) b.sink.state).1.map fun _ => true := by
  have hadd : (b.add r).pending ≠ [] := by simp [add]
  obtain ⟨hhanded, hanswer⟩ := handed_flush (s := s) hadd
  rw [append_eq, if_pos due]
  refine ⟨⟨hhanded.call, hhanded.accepted, hhanded.kept⟩, ?_⟩
  change ((b.add r).flush s.traced).1.map _ = _
  rw [hanswer]
  change ((s.write (b.pending ++ [r]) b.sink.state).1.map _).map _ = _
  cases (s.write (b.pending ++ [r]) b.sink.state).1 with
  | ok => rfl
  | error => rfl

/-- Below the threshold an append keeps the record, and the sink is not called. -/
theorem append_of_few (s : Sink σ) {b : RecordBuffer σ} {r : ProductRecord}
    (few : b.pending.length + 1 < b.threshold) : b.append s r = (.ok false, b.add r) := by
  rw [append_eq, if_neg (by omega)]

/-- After an append that does not fail, there is room for another record. -/
theorem few_pending_of_append {s : Sink σ} {b d : RecordBuffer σ} {r : ProductRecord} {due : Bool}
    (h : b.append s r = (.ok due, d)) : d.pending.length < b.threshold := by
  rw [append_eq] at h
  split at h
  · cases hf : (b.add r).flush s with
    | mk answer e =>
      rw [hf] at h
      cases answer with
      | error => simp [Except.map] at h
      | ok n =>
        obtain ⟨-, rfl⟩ := Prod.mk.inj h
        rw [pending_flush_of_ok hf]
        exact b.threshold_pos
  · obtain ⟨-, rfl⟩ := Prod.mk.inj h
    simp only [add, List.length_append, List.length_singleton]
    omega

/-! ## Any calls -/

theorem keeps_threshold (s : Sink σ) (n : Nat) :
    Keeps s (fun _ => True) fun b => b.threshold = n where
  add h _ := h
  flush := by
    intro b h
    generalize hf : b.flush s = result
    cases flush_outcome hf <;> exact h

/-- All batches that the sink was called with have records. -/
theorem keeps_nonempty (s : Sink σ) :
    Keeps s.traced (fun _ => True) fun b => ∀ call ∈ b.sink.calls, call.1 ≠ [] where
  add h _ := h
  flush := by
    intro b h
    by_cases hpending : b.pending = []
    · rwa [flush_of_pending_nil hpending]
    · obtain ⟨hhanded, -⟩ := handed_flush (s := s) hpending
      rw [hhanded.call, List.forall_mem_append, List.forall_mem_singleton]
      exact ⟨h, hpending⟩

/-- All records that wait or that the sink was called with are of a kind. -/
structure OfKind (kind : ProductRecord → Prop) (b : RecordBuffer (Trace σ)) : Prop where
  pending : ∀ r ∈ b.pending, kind r
  calls : ∀ call ∈ b.sink.calls, ∀ r ∈ call.1, kind r

theorem keeps_ofKind (s : Sink σ) (kind : ProductRecord → Prop) :
    Keeps s.traced kind (OfKind kind) where
  add h hr := by
    refine ⟨?_, h.calls⟩
    rw [add, List.forall_mem_append, List.forall_mem_singleton]
    exact ⟨h.pending, hr⟩
  flush := by
    intro b h
    by_cases hpending : b.pending = []
    · rwa [flush_of_pending_nil hpending]
    · obtain ⟨hhanded, -⟩ := handed_flush (s := s) hpending
      refine ⟨?_, ?_⟩
      · cases hanswer : (s.write b.pending b.sink.state).1 with
        | ok =>
          rw [(hhanded.accepted hanswer).1]
          exact List.forall_mem_nil _
        | error failure =>
          rw [(hhanded.kept failure hanswer).1]
          exact h.pending
      · rw [hhanded.call, List.forall_mem_append, List.forall_mem_singleton]
        exact ⟨h.calls, h.pending⟩

/-- **A buffer hands over everything when a batch is due, and keeps it if that fails.** The sink may
accept, refuse or break down at each call. After any appends and flushes, the buffer is as it would
be without the trace, the accepted batches and then the pending records are the records that were
appended, the counters are those of the accepted batches, and the sink was never called with an
empty batch. The next append calls the sink if the records that are there and the new one are as
many as the threshold says, where zero counts as one; it does so once and with all of them, and
otherwise not at all. A flush calls it once with everything, unless there is nothing. Once an append
has not failed, there are fewer records pending than the threshold says. -/
theorem hands_over_when_due (s : Sink σ) (state : σ) (threshold : Nat) (calls : List Call) :
    let t := max threshold 1
    let b := (empty { state } threshold : RecordBuffer (Trace σ)).after s.traced calls
    b.through Trace.state = (empty state threshold).after s calls ∧
      b.sink.accepted.flatten ++ b.pending = appended calls ∧
      b.batches = b.sink.accepted.length ∧ b.records = b.sink.accepted.flatten.length ∧
      (∀ call ∈ b.sink.calls, call.1 ≠ []) ∧
      (∀ r,
        let held := b.pending ++ [r]
        let next := b.append s.traced r
        (t ≤ held.length → Handed s held b next.2 ∧
          next.1 = (s.write held b.sink.state).1.map fun _ => true) ∧
        (held.length < t → next = (.ok false, { b with pending := held })) ∧
        ∀ due, next.1 = .ok due → next.2.pending.length < t) ∧
      let next := b.flush s.traced
      (b.pending ≠ [] → Handed s b.pending b next.2 ∧
        next.1 = (s.write b.pending b.sink.state).1.map fun _ => b.pending.length) ∧
      (b.pending = [] → next = (.ok 0, b)) := by
  intro t b
  have hall : ∀ r ∈ appended calls, True := fun _ _ => trivial
  have hthreshold : b.threshold = t := (keeps_threshold s.traced t).afterCalls rfl hall
  obtain ⟨hbatches, hrecords⟩ : CountsLog Trace.accepted b :=
    (keeps_countsLog s.logs_traced).afterCalls ⟨rfl, rfl⟩ hall
  refine ⟨(after_through s.shows_traced calls _).symm, ?_, hbatches, hrecords,
    (keeps_nonempty s).afterCalls (List.forall_mem_nil _) hall, fun r => ?_, handed_flush,
    flush_of_pending_nil⟩
  · exact ledger_after s.logs_traced _ calls
  · intro held next
    have hlength : held.length = b.pending.length + 1 := List.length_append
    rw [hlength, ← hthreshold]
    exact ⟨handed_append, append_of_few s.traced, fun due hdue =>
      few_pending_of_append (Prod.ext hdue rfl)⟩

end RecordBuffer

end PriceTracker
