import PriceTracker.Crawl.Buffer

/-!
# The ledger of a buffer

A record that is given to a buffer either goes to the sink in an accepted batch or is still
pending. `RecordBuffer.after` is the buffer after any calls, and its ledger, the accepted batches
followed by the pending records, is exactly what was appended, in order (`ledger_after`), whatever
the sink does. The counters of the buffer add up in the same way (`handled_after`).

* `FlushOutcome` lists the three ways in which a flush can go, and `append_eq` reduces an append to
  a flush;
* `Keeps` is a property of buffers that no call takes away;
* `Sink.Logs` says that a log kept in the state of a sink holds the accepted batches.
-/

namespace PriceTracker

/-- The log, which is part of the state of the sink, grows by each accepted batch and by no
other. -/
structure Sink.Logs {σ : Type} (s : Sink σ) (log : σ → List (List ProductRecord)) : Prop where
  of_accepted {batch : List ProductRecord} {state state' : σ}
    (h : s.write batch state = (.ok (), state')) : log state' = log state ++ [batch]
  of_refused {batch : List ProductRecord} {state state' : σ} {failure : WriteFailure}
    (h : s.write batch state = (.error failure, state')) : log state' = log state

/-- A sink with faults logs the batches that it accepts. -/
theorem Sink.logs_withFaults {σ : Type} (fault : Nat → Option WriteFailure) (s : Sink σ) :
    (s.withFaults fault).Logs Calls.accepted where
  of_accepted h := by
    simp only [withFaults] at h
    split at h
    · simp at h
    · split at h
      · obtain ⟨-, rfl⟩ := Prod.mk.inj h
        rfl
      · simp at h
  of_refused h := by
    simp only [withFaults] at h
    split at h
    · obtain ⟨-, rfl⟩ := Prod.mk.inj h
      rfl
    · split at h
      · simp at h
      · obtain ⟨-, rfl⟩ := Prod.mk.inj h
        rfl

/-- The sink accepts every batch. -/
def Sink.AcceptsAll {σ : Type} (s : Sink σ) : Prop :=
  ∀ batch state, (s.write batch state).1 = .ok ()

namespace RecordBuffer

variable {σ : Type} {s : Sink σ} {log : σ → List (List ProductRecord)}

/-! ## Calls -/

/-- What a buffer is asked for from outside. -/
inductive Call where
  /-- Take a record. -/
  | append (record : ProductRecord)
  /-- Hand over what is there. -/
  | flush

/-- The record that a call gives to the buffer. -/
def Call.record? : Call → Option ProductRecord
  | .append r => some r
  | .flush => none

/-- The records that calls give to the buffer, in order. -/
def appended (calls : List Call) : List ProductRecord :=
  calls.filterMap Call.record?

/-- The buffer after a call. -/
def perform (s : Sink σ) (b : RecordBuffer σ) : Call → RecordBuffer σ
  | .append r => (b.append s r).2
  | .flush => (b.flush s).2

/-- The buffer after calls. -/
def after (s : Sink σ) (b : RecordBuffer σ) (calls : List Call) : RecordBuffer σ :=
  calls.foldl (perform s) b

@[simp] theorem after_nil (b : RecordBuffer σ) : b.after s [] = b := rfl

@[simp] theorem after_cons (b : RecordBuffer σ) (call : Call) (calls : List Call) :
    b.after s (call :: calls) = (b.perform s call).after s calls := rfl

theorem after_append (b : RecordBuffer σ) (calls more : List Call) :
    b.after s (calls ++ more) = (b.after s calls).after s more :=
  List.foldl_append

@[simp] theorem appended_nil : appended [] = [] := rfl

@[simp] theorem appended_append_cons (r : ProductRecord) (calls : List Call) :
    appended (.append r :: calls) = r :: appended calls := rfl

@[simp] theorem appended_flush_cons (calls : List Call) :
    appended (.flush :: calls) = appended calls := rfl

theorem appended_append (calls more : List Call) :
    appended (calls ++ more) = appended calls ++ appended more :=
  List.filterMap_append

@[simp] theorem appended_map_append (rs : List ProductRecord) :
    appended (rs.map .append) = rs := by
  simp [appended, List.filterMap_map, Function.comp_def, Call.record?]

/-! ## What one call does -/

/-- The ways in which a flush can go. -/
inductive FlushOutcome (s : Sink σ) (b : RecordBuffer σ) :
    Except WriteFailure Nat × RecordBuffer σ → Prop where
  /-- There is nothing to hand over. -/
  | idle (h : b.pending = []) : FlushOutcome s b (.ok 0, b)
  /-- The sink does not accept the batch, and the records stay. -/
  | refused {failure : WriteFailure} {sink : σ} (h : b.pending ≠ [])
      (write : s.write b.pending b.sink = (.error failure, sink)) :
      FlushOutcome s b (.error failure, { b with sink })
  /-- The sink accepts the batch. -/
  | accepted {sink : σ} (h : b.pending ≠ [])
      (write : s.write b.pending b.sink = (.ok (), sink)) :
      FlushOutcome s b (.ok b.pending.length, { b with
        sink
        pending := []
        batches := b.batches + 1
        records := b.records + b.pending.length })

theorem flush_outcome {b : RecordBuffer σ} {result : Except WriteFailure Nat × RecordBuffer σ}
    (h : b.flush s = result) : FlushOutcome s b result := by
  subst h
  unfold flush
  split
  · next h => exact .idle (by simpa using h)
  · next h =>
    have hne : b.pending ≠ [] := by simpa using h
    split
    · next write => exact .refused hne write
    · next write => exact .accepted hne write

/-- The buffer with one more record. -/
def add (r : ProductRecord) (b : RecordBuffer σ) : RecordBuffer σ :=
  { b with pending := b.pending ++ [r] }

/-- An append is a flush of the larger buffer if a batch is due. -/
theorem append_eq (s : Sink σ) (r : ProductRecord) (b : RecordBuffer σ) :
    b.append s r =
      if b.threshold ≤ b.pending.length + 1 then
        (((b.add r).flush s).1.map fun _ => true, ((b.add r).flush s).2)
      else (.ok false, b.add r) := by
  simp only [append, add, List.length_append, List.length_singleton]
  split
  · split <;> next h => simp [h, Except.map]
  · rfl

theorem flush_of_acceptsAll (h : s.AcceptsAll) (b : RecordBuffer σ) :
    ∃ n, (b.flush s).1 = .ok n := by
  generalize hf : b.flush s = result
  cases flush_outcome hf with
  | idle => exact ⟨0, rfl⟩
  | @refused failure _ _ write =>
    have hok := h b.pending b.sink
    rw [write] at hok
    simp at hok
  | accepted => exact ⟨_, rfl⟩

theorem append_of_acceptsAll (h : s.AcceptsAll) (r : ProductRecord) (b : RecordBuffer σ) :
    ∃ due, (b.append s r).1 = .ok due := by
  rw [append_eq]
  split
  · obtain ⟨n, hn⟩ := flush_of_acceptsAll h (b.add r)
    exact ⟨true, by simp only [hn, Except.map]⟩
  · exact ⟨false, rfl⟩

/-- A batch that is accepted leaves nothing. -/
theorem pending_flush_of_ok {b b' : RecordBuffer σ} {n : Nat} (h : b.flush s = (.ok n, b')) :
    b'.pending = [] := by
  cases flush_outcome h with
  | idle hnil => exact hnil
  | accepted => rfl

theorem length_pending_flush_le (s : Sink σ) (b : RecordBuffer σ) :
    (b.flush s).2.pending.length ≤ b.pending.length := by
  generalize hf : b.flush s = result
  cases flush_outcome hf with
  | idle => exact Nat.le_refl _
  | refused => exact Nat.le_refl _
  | accepted => exact Nat.zero_le _

/-! ## Properties that calls keep -/

/-- A property of buffers stays when a record of some kind is added and when a batch is handed to
the sink. -/
structure Keeps (s : Sink σ) (kind : ProductRecord → Prop) (P : RecordBuffer σ → Prop) : Prop where
  add {b : RecordBuffer σ} {r : ProductRecord} (h : P b) (hr : kind r) : P (b.add r)
  flush {b : RecordBuffer σ} (h : P b) : P (b.flush s).2

namespace Keeps

variable {kind : ProductRecord → Prop} {P : RecordBuffer σ → Prop} {b : RecordBuffer σ}

theorem append (keeps : Keeps s kind P) (h : P b) {r : ProductRecord} (hr : kind r) :
    P (b.append s r).2 := by
  rw [append_eq]
  split
  · exact keeps.flush (keeps.add h hr)
  · exact keeps.add h hr

theorem afterCalls (keeps : Keeps s kind P) (h : P b) {calls : List Call}
    (hcalls : ∀ r ∈ appended calls, kind r) : P (b.after s calls) := by
  induction calls generalizing b with
  | nil => exact h
  | cons call calls ih =>
    rw [after_cons]
    cases call with
    | append r =>
      rw [appended_append_cons, List.forall_mem_cons] at hcalls
      exact ih (keeps.append h hcalls.1) hcalls.2
    | flush => exact ih (keeps.flush h) hcalls

theorem after (keeps : Keeps s kind P) (h : P b) {rs : List ProductRecord}
    (hrs : ∀ r ∈ rs, kind r) : P (b.after s (rs.map .append)) :=
  keeps.afterCalls h (by rwa [appended_map_append])

/-- Of a property of sinks that writing keeps it is enough to know that. -/
theorem of_write (good : σ → Prop)
    (write : ∀ batch state, good state → good (s.write batch state).2) :
    Keeps s (fun _ => True) fun b => good b.sink where
  add h _ := h
  flush := by
    intro b hb
    have hwrite := write b.pending b.sink hb
    generalize hf : b.flush s = result
    cases flush_outcome hf with
    | idle => exact hb
    | refused _ hrefused => rwa [hrefused] at hwrite
    | accepted _ haccepted => rwa [haccepted] at hwrite

/-- An append fails when a buffer with the property is flushed. -/
theorem refused_of_append (keeps : Keeps s kind P) (h : P b) {r : ProductRecord} (hr : kind r)
    {failure : WriteFailure} {b' : RecordBuffer σ} (happend : b.append s r = (.error failure, b')) :
    ∃ due, P due ∧ due.flush s = (.error failure, b') := by
  refine ⟨b.add r, keeps.add h hr, ?_⟩
  rw [append_eq] at happend
  split at happend
  · cases hf : (b.add r).flush s with
    | mk result d =>
      rw [hf] at happend
      cases result with
      | ok => simp [Except.map] at happend
      | error => simpa [Except.map] using happend
  · simp at happend

end Keeps

/-! ## The ledger -/

/-- The records of accepted batches and then the pending ones. -/
def ledger (log : σ → List (List ProductRecord)) (b : RecordBuffer σ) : List ProductRecord :=
  (log b.sink).flatten ++ b.pending

/-- How many records were accepted or are pending, by the counters of the buffer. -/
def handled (b : RecordBuffer σ) : Nat :=
  b.records + b.pending.length

theorem ledger_flush (h : s.Logs log) (b : RecordBuffer σ) :
    (b.flush s).2.ledger log = b.ledger log := by
  generalize hf : b.flush s = result
  cases flush_outcome hf with
  | idle => rfl
  | refused _ write => simp [ledger, h.of_refused write]
  | accepted _ write => simp [ledger, h.of_accepted write]

theorem ledger_append (h : s.Logs log) (r : ProductRecord) (b : RecordBuffer σ) :
    (b.append s r).2.ledger log = b.ledger log ++ [r] := by
  have hadd : (b.add r).ledger log = b.ledger log ++ [r] := by simp [ledger, add]
  rw [append_eq]
  split
  · rw [ledger_flush h, hadd]
  · exact hadd

/-- **No record is lost, repeated or moved.** -/
theorem ledger_after (h : s.Logs log) (b : RecordBuffer σ) (calls : List Call) :
    (b.after s calls).ledger log = b.ledger log ++ appended calls := by
  induction calls generalizing b with
  | nil => simp
  | cons call calls ih =>
    rw [after_cons, ih]
    cases call with
    | append r => simp [perform, ledger_append h]
    | flush => simp [perform, ledger_flush h]

/-- The counters of a buffer say how many batches and records its sink accepted. -/
def CountsLog (log : σ → List (List ProductRecord)) (b : RecordBuffer σ) : Prop :=
  b.batches = (log b.sink).length ∧ b.records = (log b.sink).flatten.length

theorem keeps_countsLog (h : s.Logs log) : Keeps s (fun _ => True) (CountsLog log) where
  add hb _ := hb
  flush := by
    intro b hb
    generalize hf : b.flush s = result
    obtain ⟨hbatches, hrecords⟩ := hb
    cases flush_outcome hf with
    | idle => exact ⟨hbatches, hrecords⟩
    | refused _ write =>
      rw [← h.of_refused write] at hbatches hrecords
      exact ⟨hbatches, hrecords⟩
    | accepted _ write => simp [CountsLog, h.of_accepted write, hbatches, hrecords]

theorem handled_flush (s : Sink σ) (b : RecordBuffer σ) : (b.flush s).2.handled = b.handled := by
  generalize hf : b.flush s = result
  cases flush_outcome hf with
  | idle => rfl
  | refused => rfl
  | accepted => simp [handled]

theorem handled_append (s : Sink σ) (r : ProductRecord) (b : RecordBuffer σ) :
    (b.append s r).2.handled = b.handled + 1 := by
  have hadd : (b.add r).handled = b.handled + 1 := by simp [handled, add, Nat.add_assoc]
  rw [append_eq]
  split
  · rw [handled_flush, hadd]
  · exact hadd

/-- The counters add up to the number of appended records. -/
theorem handled_after (s : Sink σ) (b : RecordBuffer σ) (calls : List Call) :
    (b.after s calls).handled = b.handled + (appended calls).length := by
  induction calls generalizing b with
  | nil => simp
  | cons call calls ih =>
    rw [after_cons, ih]
    cases call with
    | append r => simp only [perform, handled_append, appended_append_cons, List.length_cons]; omega
    | flush => simp [perform, handled_flush]

end RecordBuffer

end PriceTracker
