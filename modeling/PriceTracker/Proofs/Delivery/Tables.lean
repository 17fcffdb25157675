import PriceTracker.Proofs.Delivery.Ledger
import PriceTracker.Proofs.Storage.Creation

/-!
# Batches that are written again

A batch is written to two tables, one after the other, so a write that breaks off can leave the
products of the batch behind. Its records stay in the buffer and come again with the next batch,
together with later ones. Nothing is doubled by that:

* `Store.attempt` writes a batch, unless it breaks off at one of the places that `Interruption`
  lists; `holds_attempt_of_ok` and `holds_attempt_of_error` say what the tables hold then;
* `Reflects` is the invariant of a buffer over such a store: the price table reflects the accepted
  batches, the product table these and the first of the pending records;
* `Reflects.after`: it holds after any calls and any failures, and once nothing is pending the
  tables are those of a store whose writes never broke off.
-/

namespace PriceTracker

open Storage

/-- The price row that is kept of a record on a day. -/
def ProductRecord.priceRow? (day : Date) (r : ProductRecord) : Option PriceRow :=
  (Snapshot.ofRecord day r).row?

/-- Where the writing of a batch breaks off. -/
inductive Interruption where
  /-- Before anything is written. -/
  | before (failure : WriteFailure)
  /-- In the insert of the products, which adds none then. -/
  | products (cause : StorageError)
  /-- In the insert of the prices, when the products are there already. -/
  | prices (cause : StorageError)

/-- Writes the records of a day, unless that breaks off. -/
def Storage.Store.attempt (day : Date) (records : List ProductRecord) :
    Option Interruption → Store → Except WriteFailure Unit × Store
  | none, store => (storeSink day).write records store
  | some (.before failure), store => (.error failure, store)
  | some (.products cause), store => (.error (.refused ⟨store.productTable, cause⟩), store)
  | some (.prices cause), store =>
    match store.insertProducts (records.map ProductRow.ofRecord) with
    | (.error cause, store) => (.error (.refused ⟨store.productTable, cause⟩), store)
    | (.ok _, store) => (.error (.refused ⟨store.priceTable, cause⟩), store)

/-- Writes batches of one day to a store. The calls, counted from zero, break off where `fault`
says so. -/
def interruptedSink (day : Date) (fault : Nat → Option Interruption) : Sink (Calls Store) where
  write records calls :=
    let (result, state) := calls.state.attempt day records (fault calls.count)
    (result, {
      state
      count := calls.count + 1
      accepted := if result.isOk then calls.accepted ++ [records] else calls.accepted })

/-! ## One attempt -/

namespace Storage.Store

variable {s s' : Store} {products : List ProductRow} {prices : List PriceRow} {day : Date}
  {records : List ProductRecord} {fault : Option Interruption}

/-- The ways in which an attempt can go. -/
inductive AttemptOutcome (day : Date) (records : List ProductRecord) (s : Store) :
    Except WriteFailure Unit × Store → Prop where
  /-- Nothing is written. -/
  | untouched (failure : WriteFailure) : AttemptOutcome day records s (.error failure, s)
  /-- The products are written and the prices are not. -/
  | halfway (failure : WriteFailure) {n : Nat} {s' : Store}
      (products : s.insertProducts (records.map ProductRow.ofRecord) = (.ok n, s')) :
      AttemptOutcome day records s (.error failure, s')
  /-- Both are written. -/
  | accepted {n m : Nat} {s' s'' : Store}
      (products : s.insertProducts (records.map ProductRow.ofRecord) = (.ok n, s'))
      (prices : s'.insertSnapshots (records.map (Snapshot.ofRecord day)) = (.ok m, s'')) :
      AttemptOutcome day records s (.ok (), s'')

theorem attempt_outcome {result : Except WriteFailure Unit × Store}
    (h : s.attempt day records fault = result) : AttemptOutcome day records s result := by
  subst h
  cases hproducts : s.insertProducts (records.map ProductRow.ofRecord) with
  | mk written s₁ =>
    cases written with
    | error cause =>
      obtain rfl := eq_of_insertProducts_error hproducts
      rcases fault with _ | _ | _ | _ <;>
        simp only [attempt, storeSink, writeBatch, hproducts] <;> exact .untouched _
    | ok n =>
      rcases fault with _ | failure | cause | cause
      · cases hprices : s₁.insertSnapshots (records.map (Snapshot.ofRecord day)) with
        | mk priced s₂ =>
          cases priced with
          | error cause =>
            obtain rfl := eq_of_insertSnapshots_error hprices
            simp only [attempt, storeSink, writeBatch, hproducts, hprices]
            exact .halfway _ hproducts
          | ok m =>
            simp only [attempt, storeSink, writeBatch, hproducts, hprices]
            exact .accepted hproducts hprices
      · exact .untouched failure
      · exact .untouched _
      · simp only [attempt, hproducts]
        exact .halfway _ hproducts

/-- An attempt changes nothing but the database. -/
theorem attempt_snd (day : Date) (records : List ProductRecord) (fault : Option Interruption)
    (s : Store) : (s.attempt day records fault).2 =
      { s with database := (s.attempt day records fault).2.database } := by
  generalize h : s.attempt day records fault = result
  cases attempt_outcome h with
  | untouched => rfl
  | halfway _ hproducts =>
    obtain rfl := congrArg Prod.snd hproducts
    rfl
  | accepted hproducts hprices =>
    obtain rfl := congrArg Prod.snd hproducts
    obtain rfl := congrArg Prod.snd hprices
    rfl

theorem mapM_snapshot_row? (day : Date) (records : List ProductRecord) :
    (records.map (Snapshot.ofRecord day)).mapM Snapshot.row? =
      records.mapM (ProductRecord.priceRow? day) :=
  List.mapM_map

/-- A batch that is accepted is in both tables. -/
theorem holds_attempt_of_ok (h : s.Holds products prices)
    (hok : s.attempt day records fault = (.ok (), s')) :
    ∃ rows, records.mapM (ProductRecord.priceRow? day) = some rows ∧
      s'.Holds ((records.map ProductRow.ofRecord).foldl (insertNew ProductRow.key) products)
        (rows.foldl (insertNew PriceRow.key) prices) := by
  cases attempt_outcome hok with
  | accepted hproducts hprices =>
    obtain ⟨db, hinsert, hholds⟩ := insertProducts_of_holds h (records.map ProductRow.ofRecord)
    obtain ⟨-, rfl⟩ := Prod.mk.inj (hinsert.symm.trans hproducts)
    cases hrows : (records.map (Snapshot.ofRecord day)).mapM Snapshot.row? with
    | none =>
      obtain ⟨cause, hcause⟩ := insertSnapshots_of_none hholds hrows
      simp [hcause] at hprices
    | some rows =>
      obtain ⟨db', hinsert', hholds'⟩ := insertSnapshots_of_holds hholds hrows
      obtain ⟨-, rfl⟩ := Prod.mk.inj (hinsert'.symm.trans hprices)
      exact ⟨rows, mapM_snapshot_row? day records ▸ hrows, hholds'⟩

/-- A batch that is not accepted leaves no price behind, and either all of its products or none. -/
theorem holds_attempt_of_error (h : s.Holds products prices) {failure : WriteFailure}
    (herror : s.attempt day records fault = (.error failure, s')) :
    ∃ done, (done = [] ∨ done = records) ∧
      s'.Holds ((done.map ProductRow.ofRecord).foldl (insertNew ProductRow.key) products)
        prices := by
  cases attempt_outcome herror with
  | untouched => exact ⟨[], Or.inl rfl, h⟩
  | halfway _ hproducts =>
    obtain ⟨db, hinsert, hholds⟩ := insertProducts_of_holds h (records.map ProductRow.ofRecord)
    obtain ⟨-, rfl⟩ := Prod.mk.inj (hinsert.symm.trans hproducts)
    exact ⟨records, Or.inr rfl, hholds⟩

/-- **A batch whose prices can be kept is written**: the rows whose keys are new are added to both
tables, and their numbers come back. -/
theorem writeBatch_of_holds (h : s.Holds products prices) {rows : List PriceRow}
    (hrows : records.mapM (ProductRecord.priceRow? day) = some rows) :
    ∃ db, s.writeBatch day records =
        (.ok ⟨(newRows ProductRow.key products (records.map ProductRow.ofRecord)).length,
          (newRows PriceRow.key prices rows).length⟩, { s with database := db }) ∧
      ({ s with database := db } : Store).Holds
        (products ++ newRows ProductRow.key products (records.map ProductRow.ofRecord))
        (prices ++ newRows PriceRow.key prices rows) := by
  obtain ⟨db, hproducts, hholds⟩ := insertProducts_of_holds h (records.map ProductRow.ofRecord)
  obtain ⟨db', hprices, hholds'⟩ :=
    insertSnapshots_of_holds hholds ((mapM_snapshot_row? day records).trans hrows)
  rw [foldl_insertNew, foldl_insertNew] at hholds'
  exact ⟨db', by simp only [writeBatch, hproducts, hprices], hholds'⟩

/-- A batch is accepted if nothing breaks off and its prices can be kept. -/
theorem attempt_none_of_some (h : s.Holds products prices) {rows : List PriceRow}
    (hrows : records.mapM (ProductRecord.priceRow? day) = some rows) :
    (s.attempt day records none).1 = .ok () := by
  obtain ⟨db, hwrite, -⟩ := writeBatch_of_holds h hrows
  simp only [attempt, storeSink, hwrite]

end Storage.Store

/-! ## Buffers -/

theorem interruptedSink_write {day : Date} {fault : Nat → Option Interruption}
    {batch : List ProductRecord} {calls calls' : Calls Store} {result : Except WriteFailure Unit}
    (h : (interruptedSink day fault).write batch calls = (result, calls')) :
    calls.state.attempt day batch (fault calls.count) = (result, calls'.state) ∧
      calls'.accepted = if result.isOk then calls.accepted ++ [batch] else calls.accepted := by
  obtain ⟨rfl, rfl⟩ := Prod.mk.inj h
  exact ⟨rfl, rfl⟩

theorem logs_interruptedSink (day : Date) (fault : Nat → Option Interruption) :
    (interruptedSink day fault).Logs Calls.accepted where
  of_accepted h := (interruptedSink_write h).2
  of_refused h := (interruptedSink_write h).2

namespace RecordBuffer

variable {day : Date} {fault : Nat → Option Interruption} {store : Store}
  {products : List ProductRow} {prices : List PriceRow} {b : RecordBuffer (Calls Store)}

/-- What the tables of a store hold behind a buffer: after the rows that they had, the first row of
each new key, for products among the accepted records and some of the pending ones, the first, and
for prices among the accepted records. -/
structure Reflects (day : Date) (store : Store) (products : List ProductRow)
    (prices : List PriceRow) (b : RecordBuffer (Calls Store)) : Prop where
  /-- Only the database changes. -/
  store : b.sink.state = { store with database := b.sink.state.database }
  tables : ∃ written rows, written <+: b.pending ∧
    b.sink.accepted.flatten.mapM (ProductRecord.priceRow? day) = some rows ∧
    b.sink.state.Holds
      (products ++ newRows ProductRow.key products
        ((b.sink.accepted.flatten ++ written).map ProductRow.ofRecord))
      (prices ++ newRows PriceRow.key prices rows)

theorem reflects_empty (tables : store.Holds products prices) (threshold : Nat) :
    (empty ({ state := store } : Calls Store) threshold).Reflects day store products prices where
  store := rfl
  tables := ⟨[], [], List.prefix_rfl, rfl, by simpa [empty, newRows] using tables⟩

/-- A record that is added does not matter to the tables. -/
theorem Reflects.add (h : b.Reflects day store products prices) (r : ProductRecord) :
    (b.add r).Reflects day store products prices := by
  obtain ⟨written, rows, hwritten, hrows, hholds⟩ := h.tables
  exact ⟨h.store, written, rows, hwritten.trans (List.prefix_append _ _), hrows, hholds⟩

/-- Adding the products of a batch to those of earlier batches and of its own first records. -/
theorem foldl_products_again {written batch : List ProductRecord} (h : written <+: batch)
    (accepted : List ProductRecord) (old : List ProductRow) :
    (batch.map ProductRow.ofRecord).foldl (insertNew ProductRow.key)
        (((accepted ++ written).map ProductRow.ofRecord).foldl (insertNew ProductRow.key) old) =
      ((accepted ++ batch).map ProductRow.ofRecord).foldl (insertNew ProductRow.key) old := by
  rw [List.map_append, List.map_append, List.foldl_append, List.foldl_append,
    foldl_insertNew_again (h.map ProductRow.ofRecord)]

/-- The pending records whose products are there are the first of the next batch, and so their
products change nothing when they are written again. -/
theorem Reflects.flush (h : b.Reflects day store products prices) :
    (b.flush (interruptedSink day fault)).2.Reflects day store products prices := by
  generalize hf : b.flush (interruptedSink day fault) = result
  obtain ⟨written, rows, hwritten, hrows, hholds⟩ := h.tables
  rw [← foldl_insertNew, ← foldl_insertNew] at hholds
  cases flush_outcome hf with
  | idle => exact h
  | @refused _ sink _ write =>
    obtain ⟨hattempt, haccepted⟩ := interruptedSink_write write
    have hstore := Store.attempt_snd day b.pending (fault b.sink.count) b.sink.state
    rw [hattempt, h.store] at hstore
    replace haccepted : sink.accepted = b.sink.accepted := haccepted
    obtain ⟨done, hdone, hholds'⟩ := Store.holds_attempt_of_error hholds hattempt
    refine ⟨hstore, ?_⟩
    dsimp only
    rw [haccepted]
    obtain rfl | rfl := hdone
    · refine ⟨written, rows, hwritten, hrows, ?_⟩
      rwa [← foldl_insertNew, ← foldl_insertNew]
    · refine ⟨b.pending, rows, List.prefix_rfl, hrows, ?_⟩
      rwa [← foldl_insertNew, ← foldl_insertNew, ← foldl_products_again hwritten]
  | @accepted sink _ write =>
    obtain ⟨hattempt, haccepted⟩ := interruptedSink_write write
    have hstore := Store.attempt_snd day b.pending (fault b.sink.count) b.sink.state
    rw [hattempt, h.store] at hstore
    replace haccepted : sink.accepted = b.sink.accepted ++ [b.pending] := haccepted
    obtain ⟨new, hnew, hholds'⟩ := Store.holds_attempt_of_ok hholds hattempt
    refine ⟨hstore, [], rows ++ new, List.prefix_rfl, ?_, ?_⟩
    · simp [haccepted, hrows, hnew]
    · rw [← foldl_insertNew, ← foldl_insertNew, haccepted, List.flatten_append,
        List.flatten_singleton, List.append_nil, ← foldl_products_again hwritten,
        List.foldl_append]
      exact hholds'

theorem Reflects.after (h : b.Reflects day store products prices)
    (fault : Nat → Option Interruption) (calls : List Call) :
    (b.after (interruptedSink day fault) calls).Reflects day store products prices := by
  induction calls generalizing b with
  | nil => exact h
  | cons call calls ih =>
    refine ih ?_
    cases call with
    | append r =>
      rw [perform, append_eq]
      split
      · exact (h.add r).flush
      · exact h.add r
    | flush => exact h.flush

theorem exists_mapM_of_append {α β : Type} {f : α → Option β} {l m : List α} {ys : List β}
    (h : (l ++ m).mapM f = some ys) : ∃ zs, m.mapM f = some zs := by
  rw [List.mapM_append] at h
  simp only [Option.bind_eq_bind, Option.bind_eq_some_iff] at h
  obtain ⟨_, -, zs, hzs, -⟩ := h
  exact ⟨zs, hzs⟩

/-- If nothing breaks off and all prices can be kept, a flush leaves no record. -/
theorem Reflects.pending_flush (h : b.Reflects day store products prices) {rows : List PriceRow}
    (hrows : (b.ledger Calls.accepted).mapM (ProductRecord.priceRow? day) = some rows) :
    (b.flush (interruptedSink day fun _ => none)).2.pending = [] := by
  generalize hf : b.flush (interruptedSink day fun _ => none) = result
  cases flush_outcome hf with
  | idle hpending => exact hpending
  | refused _ write =>
    obtain ⟨_, _, _, _, hholds⟩ := h.tables
    obtain ⟨_, hpending⟩ := exists_mapM_of_append hrows
    have hok := Store.attempt_none_of_some hholds hpending
    rw [(interruptedSink_write write).1] at hok
    simp at hok
  | accepted => rfl

/-- Nothing is pending: the tables reflect all records. -/
theorem Reflects.holds_of_pending_nil (h : b.Reflects day store products prices)
    {rs : List ProductRecord} (hledger : b.ledger Calls.accepted = rs) (hpending : b.pending = []) :
    ∃ rows, rs.mapM (ProductRecord.priceRow? day) = some rows ∧
      b.sink.state.Holds
        (products ++ newRows ProductRow.key products (rs.map ProductRow.ofRecord))
        (prices ++ newRows PriceRow.key prices rows) := by
  obtain ⟨written, rows, hwritten, hrows, hholds⟩ := h.tables
  rw [hpending, List.prefix_nil] at hwritten
  rw [ledger, hpending, List.append_nil] at hledger
  rw [hwritten, List.append_nil, hledger] at hholds
  exact ⟨rows, hledger ▸ hrows, hholds⟩

/-- **Batches that are written again reach the tables once.** A store whose two tables hold some
rows is written to through a buffer. Whatever is appended, whenever it is flushed and wherever
writes break off, the price table then holds the rows that it had and the first row of each new key
among the accepted records; the product table is the same with some of the pending records added,
the first. Once nothing is pending, both tables are those that the same records give when they are
all handed over and no write breaks off. -/
theorem tables_reflect_appended (day : Date) (fault : Nat → Option Interruption) {store : Store}
    {products : List ProductRow} {prices : List PriceRow} (tables : store.Holds products prices)
    (threshold : Nat) (calls : List Call) :
    let start := empty ({ state := store } : Calls Store) threshold
    let b := start.after (interruptedSink day fault) calls
    b.sink.accepted.flatten ++ b.pending = appended calls ∧
      b.Reflects day store products prices ∧
      (b.pending = [] → ∀ same, appended same = appended calls →
        let ideal := start.after (interruptedSink day fun _ => none) (same ++ [.flush])
        ideal.pending = [] ∧ ∃ products' prices',
          b.sink.state.Holds products' prices' ∧ ideal.sink.state.Holds products' prices') := by
  intro start b
  have hstart : start.Reflects day store products prices := reflects_empty tables threshold
  have hledger : b.ledger Calls.accepted = appended calls :=
    ledger_after (logs_interruptedSink day fault) start calls
  have hb : b.Reflects day store products prices := hstart.after fault calls
  refine ⟨hledger, hb, ?_⟩
  intro hpending same hsame ideal
  obtain ⟨rows, hrows, hholds⟩ := hb.holds_of_pending_nil hledger hpending
  -- The last flush of the ideal run takes all that its other calls left.
  have hideal : ideal.Reflects day store products prices := hstart.after _ (same ++ [.flush])
  have hledgerIdeal : ideal.ledger Calls.accepted = appended calls := by
    have hflush : appended (same ++ [.flush]) = appended calls := by
      rw [appended_append, ← hsame]
      exact List.append_nil _
    exact hflush ▸ ledger_after (logs_interruptedSink day _) start _
  have hnone : ideal.pending = [] := by
    have hbefore := hstart.after (fun _ => none) same
    have hledgerBefore : _ = appended same :=
      ledger_after (logs_interruptedSink day fun _ => none) start same
    refine (congrArg pending (after_append start same [.flush])).trans ?_
    exact hbefore.pending_flush (hledgerBefore ▸ hsame ▸ hrows)
  obtain ⟨rows', hrows', hholds'⟩ := hideal.holds_of_pending_nil hledgerIdeal hnone
  obtain rfl : rows = rows' := Option.some.inj (hrows.symm.trans hrows')
  exact ⟨hnone, _, _, hholds, hholds'⟩

/-- Three records, two of one product, of which the first batch loses its prices and the second is
not written at all. -/
theorem tables_reflect_bell_lamp_bell :
    let day : Date := ⟨2026, 10, 16, by decide⟩
    let store := (Store.createTables ⟨{}, "products", "prices", by decide, by decide⟩).2
    let bell : ProductRecord := ⟨"shop", "1", "Bell", "/1", none, 99, none, true, "CZK"⟩
    let lamp : ProductRecord := ⟨"shop", "2", "Lamp", "/2", none, 249, some 299, false, "CZK"⟩
    let fault (n : Nat) : Option Interruption :=
      [.prices (.missingTable "prices"), .before .crashed][n]?
    let start := empty ({ state := store } : Calls Store) 2
    let b := start.after (interruptedSink day fault)
      [.append bell, .append lamp, .append bell, .flush]
    let ideal := start.after (interruptedSink day fun _ => none)
      [.append bell, .append lamp, .append bell, .flush]
    store.Holds [] [] ∧ b.sink.accepted.flatten ++ b.pending = [bell, lamp, bell] ∧
      b.Reflects day store [] [] ∧ b.pending = [] ∧ ideal.pending = [] ∧ ∃ products prices,
        b.sink.state.Holds products prices ∧ ideal.sink.state.Holds products prices := by
  intro day store bell lamp fault start b ideal
  have tables : store.Holds [] [] := Store.holds_blank
  obtain ⟨hledger, hb, hideal⟩ := tables_reflect_appended day fault tables 2
    [.append bell, .append lamp, .append bell, .flush]
  have hpending : b.pending = [] := by decide +kernel
  exact ⟨tables, hledger, hb, hpending,
    hideal hpending [.append bell, .append lamp, .append bell] rfl⟩

end RecordBuffer

end PriceTracker
