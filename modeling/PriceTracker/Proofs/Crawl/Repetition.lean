import PriceTracker.Proofs.Crawl.PageLimit
import PriceTracker.Proofs.Crawl.Tuning
import PriceTracker.Proofs.Delivery.Orphans

/-!
# Crawling twice on one day

A store keeps the first row of each key, and the key of a price has the day in it. So a crawl finds
all rows there already if another one was at the same pages on that day:

* `Receipts` is a store with the answers to all batches that were written to it;
* `RecordBuffer.Repeats` is the invariant of a buffer over it: as long as all records are in the
  tables, these stay as they are, and each answer is that nothing was added;
* `ledger_subset_of_again`: whatever its batches and its page limit are, a second crawl is given
  records of the first one only.
-/

namespace PriceTracker

open Storage

/-! ## Stores that keep their answers -/

/-- A store, and what it answered to each batch that was written to it. -/
structure Receipts where
  store : Store
  calls : List (List ProductRecord × Except WriteError Store.WriteCount) := []

/-- The batches that were written. -/
def Receipts.accepted (r : Receipts) : List (List ProductRecord) :=
  r.calls.filterMap fun call => if call.2.isOk then some call.1 else none

theorem Receipts.length_accepted {r : Receipts} (h : ∀ call ∈ r.calls, call.2.isOk = true) :
    r.accepted.length = r.calls.length := by
  rw [accepted, List.length_filterMap_eq_countP, List.countP_eq_length]
  intro call hcall
  rw [h call hcall]
  rfl

/-- Writes batches of one day to a store and keeps the answers. -/
def receiptSink (day : Date) : Sink Receipts where
  write records receipts :=
    let (answer, store) := receipts.store.writeBatch day records
    ((answer.map fun _ => ()).mapError .refused,
      { store, calls := receipts.calls ++ [(records, answer)] })

/-- A crawl does not see the answers. -/
theorem shows_receiptSink (day : Date) : (receiptSink day).Shows (storeSink day) Receipts.store := by
  intro batch receipts
  simp only [receiptSink, storeSink]
  cases receipts.store.writeBatch day batch with
  | mk answer store => cases answer <;> rfl

theorem logs_receiptSink (day : Date) : (receiptSink day).Logs Receipts.accepted where
  of_accepted := by
    intro batch receipts receipts' h
    simp only [receiptSink] at h
    cases hwrite : receipts.store.writeBatch day batch with
    | mk answer store =>
      rw [hwrite] at h
      cases answer with
      | error => simp [Except.map, Except.mapError] at h
      | ok count =>
        obtain ⟨-, rfl⟩ := Prod.mk.inj h
        simp [Receipts.accepted, Except.isOk, Except.toBool]
  of_refused := by
    intro batch receipts receipts' failure h
    simp only [receiptSink] at h
    cases hwrite : receipts.store.writeBatch day batch with
    | mk answer store =>
      rw [hwrite] at h
      cases answer with
      | ok => simp [Except.map, Except.mapError] at h
      | error =>
        obtain ⟨-, rfl⟩ := Prod.mk.inj h
        simp [Receipts.accepted, Except.isOk, Except.toBool]

section

variable {day : Date} {products : List ProductRow} {prices : List PriceRow}
  {batch : List ProductRecord} {rows : List PriceRow} {receipts : Receipts}

/-- Records that are in the tables give no new product row. -/
theorem Contains.newRows_products (h : Contains products prices day batch) :
    newRows ProductRow.key products (batch.map ProductRow.ofRecord) = [] := by
  refine newRows_of_subset fun row hrow => ?_
  obtain ⟨r, hr, rfl⟩ := List.mem_map.1 hrow
  exact (h r hr).1

/-- They give no new price row either. -/
theorem Contains.newRows_prices (h : Contains products prices day batch)
    (hrows : batch.mapM (ProductRecord.priceRow? day) = some rows) :
    newRows PriceRow.key prices rows = [] := by
  refine newRows_of_subset fun row hrow => ?_
  have hkey := List.mem_map_of_mem (f := PriceRow.key) hrow
  rw [map_key_priceRows hrows] at hkey
  obtain ⟨r, hr, hkey⟩ := List.mem_map.1 hkey
  exact hkey ▸ (h r hr).2

/-- The sink writes what the tables of its store can take. -/
theorem receiptSink_write (h : receipts.store.Holds products prices)
    (hrows : batch.mapM (ProductRecord.priceRow? day) = some rows) :
    ∃ store, (receiptSink day).write batch receipts = (.ok (), {
        store
        calls := receipts.calls ++ [(batch,
          .ok ⟨(newRows ProductRow.key products (batch.map ProductRow.ofRecord)).length,
            (newRows PriceRow.key prices rows).length⟩)] }) ∧
      store.Holds (products ++ newRows ProductRow.key products (batch.map ProductRow.ofRecord))
        (prices ++ newRows PriceRow.key prices rows) := by
  obtain ⟨db, hwrite, hholds⟩ := Store.writeBatch_of_holds h hrows
  exact ⟨_, by simp only [receiptSink, hwrite]; rfl, hholds⟩

end

/-! ## Buffers -/

namespace RecordBuffer

variable {day : Date} {products : List ProductRow} {prices : List PriceRow}
  {b : RecordBuffer Receipts}

/-- The store of the buffer has its tables, and the pending records can be written. If all records
that the buffer was given are in the given rows, these are what the tables hold, and nothing was
added to them. -/
structure Repeats (day : Date) (products : List ProductRow) (prices : List PriceRow)
    (b : RecordBuffer Receipts) : Prop where
  priced : ∀ r ∈ b.pending, r.Priced
  tables : ∃ products' prices', b.sink.store.Holds products' prices' ∧
    (Contains products prices day (b.ledger Receipts.accepted) →
      products' = products ∧ prices' = prices ∧ ∀ call ∈ b.sink.calls, call.2 = .ok ⟨0, 0⟩)

theorem repeats_empty {store : Store} (tables : store.Holds products prices) (threshold : Nat) :
    (empty ({ store } : Receipts) threshold).Repeats day products prices where
  priced := List.forall_mem_nil _
  tables := ⟨_, _, tables, fun _ => ⟨rfl, rfl, List.forall_mem_nil _⟩⟩

theorem Repeats.add (h : b.Repeats day products prices) {r : ProductRecord} (hr : r.Priced) :
    (b.add r).Repeats day products prices := by
  obtain ⟨products', prices', hholds, hsame⟩ := h.tables
  refine ⟨fun r' hr' => ?_, products', prices', hholds, fun hcontains => hsame fun r' hr' => ?_⟩
  · obtain hr' | hr' := List.mem_append.1 hr'
    · exact h.priced r' hr'
    · exact List.mem_singleton.1 hr' ▸ hr
  · refine hcontains r' ?_
    obtain hr' | hr' := List.mem_append.1 hr'
    · exact List.mem_append_left _ hr'
    · exact List.mem_append_right _ (List.mem_append_left _ hr')

/-- **A write of records that are in the tables adds nothing**, and it is always accepted. -/
theorem Repeats.flush (h : b.Repeats day products prices) :
    (∃ n, (b.flush (receiptSink day)).1 = .ok n) ∧
      (b.flush (receiptSink day)).2.Repeats day products prices := by
  have hledger := ledger_flush (logs_receiptSink day) b
  obtain ⟨products', prices', hholds, hsame⟩ := h.tables
  obtain ⟨rows, hrows⟩ := exists_mapM_priceRow? h.priced day
  obtain ⟨store, hwrite, hstore⟩ := receiptSink_write hholds hrows
  generalize hf : b.flush (receiptSink day) = result at hledger
  cases flush_outcome hf with
  | idle => exact ⟨⟨0, rfl⟩, h⟩
  | refused _ write => simp [hwrite] at write
  | accepted _ write =>
    obtain ⟨-, rfl⟩ := Prod.mk.inj (hwrite.symm.trans write)
    refine ⟨⟨_, rfl⟩, List.forall_mem_nil _, _, _, hstore, fun hcontains => ?_⟩
    rw [hledger] at hcontains
    obtain ⟨rfl, rfl, hcalls⟩ := hsame hcontains
    have hpending : Contains products' prices' day b.pending :=
      fun r hr => hcontains r (List.mem_append_right _ hr)
    rw [hpending.newRows_products, hpending.newRows_prices hrows, List.append_nil,
      List.append_nil]
    refine ⟨rfl, rfl, fun call hcall => ?_⟩
    obtain hcall | hcall := List.mem_append.1 hcall
    · exact hcalls call hcall
    · rw [List.mem_singleton.1 hcall]
      rfl

theorem takes_repeats (day : Date) (products : List ProductRow) (prices : List PriceRow) :
    Takes (receiptSink day) ProductRecord.Priced (Repeats day products prices) where
  add h hr := h.add hr
  flush h := h.flush.2
  accepts h := h.flush.1

end RecordBuffer

namespace Crawl

open RecordBuffer

/-! ## Runs -/

section

variable {σ : Type} {web : Web} {s : Sink σ} {c d : Crawl σ} {turns : Nat}

/-- With a page limit or without one, a run visits pages of the run without one. -/
theorem visits_subset_unlimited (unvisited : c.tally.pagesVisited = 0) {tally : Tally}
    (hrun : c.runFor web s none turns = (some (.ok tally), d)) :
    c.visits web s none turns ⊆ (c.recast none id).visits web s none turns := by
  cases hlimit : c.maxPages with
  | none =>
    have hsame : c.recast none id = c := by
      rw [recast, ← hlimit]
      rfl
    rw [hsame]
    exact List.Subset.refl _
  | some k =>
    have within : c.WithinLimit k := ⟨hlimit, unvisited ▸ Nat.zero_le k⟩
    have le : ∀ k' ∈ (none : Option Nat), k ≤ k' := nofun
    rw [visits_eq_take le within unvisited hrun]
    exact List.take_subset _ _

end

/-- A crawl as the settings ask for, over a store that keeps its answers. -/
def answering (settings : CrawlSettings) (seedings : List Seeding) (store : Store) :
    Crawl Receipts :=
  (ofSettings settings { store := store }).seeded seedings

theorem answering_eq (settings : CrawlSettings) (seedings : List Seeding) (store : Store) :
    answering settings seedings store =
      { ofSettings settings ({ store := store } : Receipts) with
        frontier := (answering settings seedings store).frontier } :=
  seeded_eq _ _

theorem going_answering (settings : CrawlSettings) (seedings : List Seeding) (store : Store) :
    (answering settings seedings store).Going := by
  rw [answering_eq]
  exact ⟨rfl, rfl, rfl⟩

theorem answering_through (settings : CrawlSettings) (seedings : List Seeding) (store : Store) :
    (answering settings seedings store).through Receipts.store =
      (ofSettings settings store).seeded seedings :=
  seeded_through _ _ _

variable {day : Date} {store store' : Store} {products : List ProductRow} {prices : List PriceRow}
  {web web' : Web} {settings : CrawlSettings} {seedings : List Seeding} {turns : Nat}
  {result : Except RunFailure Tally} {d : Crawl (Calls Store)} {e : Crawl Receipts}

/-- With the two tables there, a run that ends answers with a tally and has written all records that
it was given. These are the records that its visits handed over. -/
theorem written_of_answering (tables : store.Holds products prices)
    (hrun : (answering settings seedings store).runFor web (receiptSink day) none turns =
      (some result, e)) :
    result = .ok e.tally ∧ e.tally.recordsWritten = e.tally.recordsExtracted ∧
      e.tally.batchesWritten = e.buffer.sink.accepted.length ∧
      e.buffer.Repeats day products prices ∧
      e.buffer.ledger Receipts.accepted =
        ((answering settings seedings store).visits web (receiptSink day) none turns).flatMap
          Visit.handed := by
  have logs := logs_receiptSink day
  have takes := takes_repeats day products prices
  have going := going_answering settings seedings store
  have heq := answering_eq settings seedings store
  generalize answering settings seedings store = c at hrun going heq ⊢
  have repeats : c.buffer.Repeats day products prices := by
    rw [heq]
    exact repeats_empty tables settings.batchSize
  have counted : c.buffer.CountsLog Receipts.accepted ∧ c.buffer.ledger Receipts.accepted = [] ∧
      c.buffer.handled = 0 ∧ c.tally.recordsExtracted = 0 := by
    rw [heq]
    exact ⟨⟨rfl, rfl⟩, rfl, rfl, rfl⟩
  obtain ⟨counts, ledger, handled, extracted⟩ := counted
  obtain ⟨rfl, settled, pending⟩ := settled_of_takes takes Catalog.yields_priced going repeats hrun
  have hcounts := (keeps_countsLog logs).of_runFor (fun _ _ _ _ _ => trivial) counts hrun
  have hdelivers := delivers_runFor logs web none turns c
  rw [hrun] at hdelivers
  have hextracted := hdelivers.extracted
  rw [handled, extracted, RecordBuffer.handled, pending] at hextracted
  refine ⟨rfl, ?_, settled.batches.trans hcounts.1,
    takes.of_runFor Catalog.yields_priced repeats hrun, ?_⟩
  · rw [settled.records]
    simpa using hextracted.symm
  · rw [hdelivers.ledger, ledger, List.nil_append]

/-- **A second crawl is given records of the first one only**, which ran without a limit. The
settings of the second one differ in the batch size, the delay and the limit. -/
theorem ledger_subset_of_again (tables : store.Holds products prices)
    {products' : List ProductRow} {prices' : List PriceRow}
    (tables' : store'.Holds products' prices')
    (bodies : ∀ url, (web' url).body = (web url).body)
    (hfirst : (counting { settings with maxPages := none } seedings store).runFor web
      (interruptedSink day fun _ => none) none turns = (some result, d))
    {batchSize requestDelay : Nat} {maxPages : Option Nat} {tally : Tally}
    (hagain : (answering { settings with batchSize, requestDelay, maxPages } seedings
      store').runFor web' (receiptSink day) none turns = (some (.ok tally), e)) :
    e.buffer.ledger Receipts.accepted ⊆ d.buffer.ledger Calls.accepted := by
  have hledger := (written_of_answering tables' hagain).2.2.2.2
  -- A run of the second crawl without its limit is alike to the first one.
  obtain ⟨result', j, hj, halike⟩ := alike_of_runFor (logs_interruptedSink day fun _ => none)
    (takes_writes day store products prices 0) (takes_writes day store' products' prices' 0)
    Catalog.yields_priced bodies
    (alike_counting { settings with maxPages := none } batchSize requestDelay seedings store store')
    (writes_counting tables day _ _) (writes_counting tables' day _ _) hfirst
  have hunlimited := (written_of_runFor tables' hj).2.1
  rw [← answering_through, visits_through (shows_receiptSink day), halike.ledger] at hunlimited
  have hvisits := visits_subset_unlimited (c := answering { settings with
    batchSize, requestDelay, maxPages } seedings store') (by rw [answering_eq]; rfl) hagain
  rw [answering, seeded_recast] at hvisits
  rw [hledger, hunlimited]
  intro r hr
  obtain ⟨v, hv, hr⟩ := List.mem_flatMap.1 hr
  exact List.mem_flatMap.2 ⟨v, hvisits hv, hr⟩

/-- **A crawl that is repeated on the same day adds nothing.** A store has its two tables, and the
links of a site lead to finitely many pages. A crawl without a page limit, with whatever first
pages, then ends, with a tally. Afterwards the same first pages are crawled once more on that day,
over any store with the same rows in its tables, such as the one that the first crawl left; each page
has the same content, but may take any time to answer, and the batch size, the delay between requests
and the page limit may be any. This crawl ends with a tally too, in which all extracted records are
written. Both tables hold the same rows in the same order as before, and to each of its batches the
store answers that it added no product and no price. -/
theorem repeated_crawl_adds_nothing (day : Date) {store : Store} {products : List ProductRow}
    {prices : List PriceRow} (tables : store.Holds products prices) {web : Web}
    {keys : Finset String}
    (finite : ∀ url, ∀ link ∈ Site.linksOf url (web url), link.pageKey ∈ keys)
    (settings : CrawlSettings) (seedings : List Seeding) :
    let first := (ofSettings { settings with maxPages := none } store).seeded seedings
    ∃ turns tally d products' prices',
      first.run web (storeSink day) none turns = (some (.ok tally), d) ∧
      d.buffer.sink.Holds products' prices' ∧
      ∀ (store' : Store) (web' : Web) (batchSize requestDelay : Nat) (maxPages : Option Nat),
        store'.Holds products' prices' → (∀ url, (web' url).body = (web url).body) →
        let settings' := { settings with batchSize, requestDelay, maxPages }
        let again := answering settings' seedings store'
        ∃ turns' e, again.run web' (receiptSink day) none turns' = (some (.ok e.tally), e) ∧
          ((ofSettings settings' store').seeded seedings).run web' (storeSink day) none turns' =
            (some (.ok e.tally), e.through Receipts.store) ∧
          e.tally.recordsWritten = e.tally.recordsExtracted ∧
          e.buffer.sink.store.Holds products' prices' ∧
          e.tally.batchesWritten = e.buffer.sink.calls.length ∧
          ∀ call ∈ e.buffer.sink.calls, call.2 = .ok ⟨0, 0⟩ := by
  intro first
  obtain ⟨result, d, hfirst, -⟩ := runFor_of_closed (closed_of_keys finite)
    (interruptedSink day fun _ => none) none
    (c := counting { settings with maxPages := none } seedings store)
    (fun _ _ => trivial) (Nat.lt_succ_self _)
  obtain ⟨hd, -, -, rows, hrows, hholds⟩ := written_of_runFor tables hfirst
  rw [← foldl_insertNew, ← foldl_insertNew] at hholds
  have hcontains := contains_of_written products prices hrows
  refine ⟨_, _, _, _, _, hd, hholds, ?_⟩
  intro store' web' batchSize requestDelay maxPages tables' bodies settings' again
  have finite' : ∀ url, ∀ link ∈ Site.linksOf url (web' url), link.pageKey ∈ keys := by
    intro url link hlink
    rw [Site.linksOf, bodies] at hlink
    exact finite url link hlink
  obtain ⟨n, result', e, hagain⟩ := exists_end web' (receiptSink day) again fun _ => ⟨keys, finite'⟩
  -- In as many turns as both need together, each of them has ended.
  replace hfirst := runFor_add_of_ended n hfirst
  replace hagain := runFor_add_of_ended (Nat.succ (Frontier.potential keys
    (counting { settings with maxPages := none } seedings store).frontier)) hagain
  rw [Nat.add_comm] at hagain
  obtain ⟨rfl, hwritten, hbatches, hrepeats, -⟩ := written_of_answering tables' hagain
  have hsubset := ledger_subset_of_again tables tables' bodies hfirst hagain
  obtain ⟨products'', prices'', hholds', hsame⟩ := hrepeats.tables
  obtain ⟨rfl, rfl, hcalls⟩ := hsame fun r hr => hcontains r (hsubset hr)
  have hrun : again.run web' (receiptSink day) none _ = (some (.ok e.tally), e) :=
    ((going_answering settings' seedings store').run_eq ..).trans hagain
  refine ⟨_, e, hrun, ?_, hwritten, hholds', hbatches.trans (Receipts.length_accepted ?_), hcalls⟩
  · rw [← answering_through, run_through (shows_receiptSink day), hrun]
  · intro call hcall
    rw [hcalls call hcall]
    rfl

/-- Two pages with a bell each. They are crawled with batches of one record, and again with larger
ones, when the pages take some time and only one of them may be visited. -/
theorem two_bells_crawled_again :
    let a : Url := { scheme := "http", host := some (.name "a"), path := .segments [""] }
    let b : Url := { a with path := .segments ["b"] }
    let web (delay : Nat) : Web := fun _ => { body := .ok (shelf [("1", "Bell")]), delay }
    let day : Date := ⟨2026, 10, 16, by decide⟩
    let settings : CrawlSettings := { batchSize := 1 }
    let again : CrawlSettings := { batchSize := 10, requestDelay := 0, maxPages := some 1 }
    let seedings : List Seeding := [.categories [a, b]]
    Store.blank.Holds [] [] ∧ (∀ url, (web 70 url).body = (web 0 url).body) ∧
      (∀ url, ∀ link ∈ Site.linksOf url (web 0 url), link.pageKey ∈ (∅ : Finset String)) ∧
      ∃ turns tally d products prices,
        ((ofSettings settings Store.blank).seeded seedings).run (web 0) (storeSink day) none turns =
          (some (.ok tally), d) ∧ d.buffer.sink.Holds products prices ∧
        ∃ turns' e, (answering again seedings d.buffer.sink).run (web 70) (receiptSink day) none
            turns' = (some (.ok e.tally), e) ∧
          e.tally.recordsWritten = e.tally.recordsExtracted ∧
          e.buffer.sink.store.Holds products prices ∧
          e.tally.batchesWritten = e.buffer.sink.calls.length ∧
          ∀ call ∈ e.buffer.sink.calls, call.2 = .ok ⟨0, 0⟩ := by
  intro a b web day settings again seedings
  have bodies : ∀ url, (web 70 url).body = (web 0 url).body := fun _ => rfl
  have finite := bell_links ∅ 0
  obtain ⟨turns, tally, d, products, prices, hd, hholds, hagain⟩ :=
    repeated_crawl_adds_nothing day Store.holds_blank finite settings seedings
  obtain ⟨turns', e, he, -, hwritten, hsame, hbatches, hcalls⟩ :=
    hagain d.buffer.sink (web 70) 10 0 (some 1) hholds bodies
  exact ⟨Store.holds_blank, bodies, finite, turns, tally, d, products, prices, hd, hholds, turns',
    e, he, hwritten, hsame, hbatches, hcalls⟩

end Crawl

end PriceTracker
