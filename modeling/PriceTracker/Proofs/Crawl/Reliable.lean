import PriceTracker.Proofs.Crawl.Resumption

/-!
# Sinks that never fail

Whether a sink accepts a batch depends on its state, and a store takes prices that are numbers only.
`Sink.Accepts` says that from a state on a sink accepts all batches of records of a kind that it is
given in turn. It never fails if that is so for the records of product blocks: `Sink.NeverFails`. A
store whose two tables are there is such a sink (`Storage.Store.Holds.neverFails`). With one, a run
that ends answers with a tally and leaves nothing pending (`settled_of_takes`).
-/

namespace PriceTracker

open Storage

variable {σ : Type} {s : Sink σ} {state : σ}

/-- From the state on, the sink accepts all batches of records of a kind: there are good states, and
a batch that is given to the sink in one of them is accepted and leaves it in one. -/
def Sink.Accepts (s : Sink σ) (kind : ProductRecord → Prop) (state : σ) : Prop :=
  ∃ good : σ → Prop, good state ∧ ∀ batch state, (∀ r ∈ batch, kind r) →
    good state → (s.write batch state).1 = .ok () ∧ good (s.write batch state).2

namespace Sink.Accepts

variable {kind : ProductRecord → Prop}

/-- The accepted batches may be kept. -/
theorem withFaults (h : s.Accepts kind state) :
    (s.withFaults fun _ => none).Accepts kind { state } := by
  obtain ⟨good, hstate, hgood⟩ := h
  refine ⟨fun calls => good calls.state, hstate, fun batch calls hbatch hcalls => ?_⟩
  obtain ⟨hok, hnext⟩ := hgood batch calls.state hbatch hcalls
  simp only [Sink.withFaults]
  generalize s.write batch calls.state = result at hok hnext
  obtain ⟨result, next⟩ := result
  obtain rfl : result = .ok () := hok
  exact ⟨rfl, hnext⟩

open RecordBuffer in
/-- A buffer of records of the kind is always written. -/
theorem exists_takes (h : s.Accepts kind state) :
    ∃ P, Takes s kind P ∧ ∀ b, b.sink = state → (∀ r ∈ b.pending, kind r) → P b := by
  obtain ⟨good, hstate, hgood⟩ := h
  refine ⟨fun b => good b.sink ∧ ∀ r ∈ b.pending, kind r, ⟨⟨?_, ?_⟩, ?_⟩,
    fun b hsink hpending => ⟨hsink ▸ hstate, hpending⟩⟩
  · rintro b r ⟨hsink, hpending⟩ hr
    refine ⟨hsink, fun r' hr' => ?_⟩
    obtain hr' | hr' := List.mem_append.1 hr'
    · exact hpending r' hr'
    · exact List.mem_singleton.1 hr' ▸ hr
  · rintro b ⟨hsink, hpending⟩
    have hnext := (hgood b.pending b.sink hpending hsink).2
    generalize hf : b.flush s = result
    cases flush_outcome hf with
    | idle => exact ⟨hsink, hpending⟩
    | refused _ write => exact ⟨by rwa [write] at hnext, hpending⟩
    | accepted _ write => exact ⟨by rwa [write] at hnext, by simp⟩
  · rintro b ⟨hsink, hpending⟩
    have hok := (hgood b.pending b.sink hpending hsink).1
    generalize hf : b.flush s = result
    cases flush_outcome hf with
    | idle => exact ⟨0, rfl⟩
    | refused _ write => simp [write] at hok
    | accepted => exact ⟨_, rfl⟩

end Sink.Accepts

/-- From the state on, the sink accepts all batches of records of product blocks: there are good
states, and a batch that is given to the sink in one of them is accepted and leaves it in one. -/
def Sink.NeverFails (s : Sink σ) (state : σ) : Prop :=
  ∃ good : σ → Prop, good state ∧ ∀ batch state, (∀ r ∈ batch, ProductRecord.IsRead r) →
    good state → (s.write batch state).1 = .ok () ∧ good (s.write batch state).2

namespace Sink.NeverFails

theorem accepts (h : s.NeverFails state) : s.Accepts ProductRecord.IsRead state :=
  h

/-- The accepted batches may be kept. -/
theorem withFaults (h : s.NeverFails state) :
    (s.withFaults fun _ => none).NeverFails { state } :=
  h.accepts.withFaults

open RecordBuffer in
/-- A buffer of records of product blocks is always written. -/
theorem exists_takes (h : s.NeverFails state) :
    ∃ P, Takes s ProductRecord.IsRead P ∧ ∀ threshold, P (empty state threshold) := by
  obtain ⟨P, takes, hP⟩ := h.accepts.exists_takes
  exact ⟨P, takes, fun threshold => hP (empty state threshold) rfl (List.forall_mem_nil _)⟩

end Sink.NeverFails

/-- A store whose two tables are there takes all records of product blocks. -/
theorem Storage.Store.Holds.neverFails {store : Store} {products : List ProductRow}
    {prices : List PriceRow} (h : store.Holds products prices) (day : Date) :
    (storeSink day).NeverFails store := by
  refine ⟨fun store => ∃ products prices, store.Holds products prices, ⟨_, _, h⟩, ?_⟩
  rintro batch store hbatch ⟨products, prices, hholds⟩
  have hpriced : ∀ r ∈ batch, r.currentPrice.isNaN = false := by
    intro r hr
    obtain ⟨raw, hraw⟩ := hbatch r hr
    exact ProductRecord.isNaN_of_ofRaw hraw
  obtain ⟨rows, hrows⟩ := exists_mapM_priceRow? hpriced day
  have hok : ((storeSink day).write batch store).1 = .ok () :=
    Store.attempt_none_of_some hholds hrows
  have haccepted : store.attempt day batch none = (.ok (), (store.attempt day batch none).2) :=
    Prod.ext hok rfl
  obtain ⟨_, -, hnext⟩ := Store.holds_attempt_of_ok hholds haccepted
  exact ⟨hok, _, _, hnext⟩

namespace Crawl

open RecordBuffer

variable {web : Web} {kind : ProductRecord → Prop} {P : RecordBuffer σ → Prop} {c d : Crawl σ}

/-- A run whose batches are all accepted answers with a tally and leaves nothing pending. -/
theorem settled_of_takes (takes : Takes s kind P) (yields : Catalog.Yields kind) (going : c.Going)
    (hP : P c.buffer) {turns : Nat} {result : Except RunFailure Tally}
    (hrun : c.runFor web s none turns = (some result, d)) :
    result = .ok d.tally ∧ d.Settled ∧ d.buffer.pending = [] := by
  have hleaves := leaves_runFor going web s none turns
  have hstop := runFor_not_aborted web s turns c d.buffer.pending.length
  rw [hrun] at hleaves hstop
  cases hleaves with
  | written h pending => exact ⟨rfl, h, pending⟩
  | stopped => exact absurd rfl hstop
  | refused =>
    obtain ⟨b, hb, hflush⟩ := takes.refused_of_runFor yields hP hrun
    obtain ⟨n, hn⟩ := takes.accepts hb
    simp [hflush] at hn

/-- A crawl that is over has written what it was given, unless something is pending. -/
theorem Settled.recordsWritten_eq {log : σ → List (List ProductRecord)} (h : d.Settled)
    (counts : d.buffer.CountsLog log) (pending : d.buffer.pending = []) :
    d.tally.recordsWritten = (d.buffer.ledger log).length := by
  rw [h.records, counts.2, ledger, pending, List.append_nil]

end Crawl

end PriceTracker
