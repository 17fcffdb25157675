import PriceTracker.Crawl.Sink

/-!
# The record buffer

Records are collected until there are as many as the threshold says, and then handed to a sink as
one batch. If the sink does not accept the batch, the records stay and the next call tries again
with all of them.
-/

namespace PriceTracker

/-- Records on their way to a sink of state `σ`. -/
structure RecordBuffer (σ : Type) where
  /-- The state of the sink. -/
  sink : σ
  /-- At this many records a batch is due. -/
  threshold : Nat
  /-- The collected records, in order. -/
  pending : List ProductRecord := []
  /-- How many batches were accepted. -/
  batches : Nat := 0
  /-- How many records were accepted. -/
  records : Nat := 0
  threshold_pos : 0 < threshold

namespace RecordBuffer

variable {σ : Type}

/-- An empty buffer; a threshold of zero counts as one. -/
def empty (sink : σ) (threshold : Nat) : RecordBuffer σ where
  sink
  threshold := max threshold 1
  threshold_pos := by omega

/-- Hands all collected records to the sink, if there are any, and tells how many. -/
def flush (s : Sink σ) (b : RecordBuffer σ) : Except WriteFailure Nat × RecordBuffer σ :=
  if b.pending.isEmpty then (.ok 0, b)
  else
    match s.write b.pending b.sink with
    | (.error failure, sink) => (.error failure, { b with sink })
    | (.ok (), sink) =>
      (.ok b.pending.length, { b with
        sink
        pending := []
        batches := b.batches + 1
        records := b.records + b.pending.length })

/-- Collects a record, and hands all over if a batch is due; tells whether it was. -/
def append (s : Sink σ) (r : ProductRecord) (b : RecordBuffer σ) :
    Except WriteFailure Bool × RecordBuffer σ :=
  let b := { b with pending := b.pending ++ [r] }
  if b.threshold ≤ b.pending.length then
    match b.flush s with
    | (.ok _, b) => (.ok true, b)
    | (.error failure, b) => (.error failure, b)
  else (.ok false, b)

/-- An empty buffer hands nothing over. -/
theorem flush_of_pending_nil {s : Sink σ} {b : RecordBuffer σ} (h : b.pending = []) :
    b.flush s = (.ok 0, b) := by
  simp [flush, h]

end RecordBuffer

end PriceTracker
