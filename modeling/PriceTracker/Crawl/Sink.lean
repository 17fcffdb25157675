import PriceTracker.Storage.Store

/-!
# Sinks

A sink takes batches of records. It accepts a batch, refuses it with a `WriteError`, or crashes,
and its state may change with every call. `Store.sink` writes batches to a store,
`Sink.withFaults` lets chosen calls of a sink fail and keeps the accepted batches.
-/

namespace PriceTracker

open Storage (Store WriteError)

/-- Why a batch was not accepted. -/
inductive WriteFailure where
  | refused (error : WriteError)
  /-- The sink broke down in the middle of the call. -/
  | crashed
  deriving DecidableEq, Repr

/-- What takes batches, with a state of type `σ`. -/
structure Sink (σ : Type) where
  write : List ProductRecord → σ → Except WriteFailure Unit × σ

/-- Writes batches of one day to a store. -/
def storeSink (day : Date) : Sink Store where
  write records store :=
    match store.writeBatch day records with
    | (.ok _, store) => (.ok (), store)
    | (.error error, store) => (.error (.refused error), store)

/-- The calls of a sink so far. -/
structure Calls (σ : Type) where
  /-- The state of the sink. -/
  state : σ
  /-- How many calls there were. -/
  count : Nat := 0
  /-- The accepted batches, in order. -/
  accepted : List (List ProductRecord) := []

namespace Sink

/-- The sink whose calls, counted from zero, fail without effect where `fault` says so. -/
def withFaults {σ : Type} (fault : Nat → Option WriteFailure) (sink : Sink σ) : Sink (Calls σ) where
  write records calls :=
    match fault calls.count with
    | some failure => (.error failure, { calls with count := calls.count + 1 })
    | none =>
      match sink.write records calls.state with
      | (.ok (), state) =>
        (.ok (), {
          state
          count := calls.count + 1
          accepted := calls.accepted ++ [records] })
      | (.error failure, state) => (.error failure, { calls with state, count := calls.count + 1 })

end Sink

end PriceTracker
