import PriceTracker.Proofs.Crawl.Recast
import PriceTracker.Proofs.Delivery.Tables
import PriceTracker.Proofs.Storage.FailedWrites

/-!
# Journals

A journal is a store with a record of what succeeded on it: the inserts, which say what its tables
hold, and the batches that were accepted with their days. `journalSink` writes batches to a store and
keeps the journal. Each batch is written on a day of its own and may break off.

* `Store.grows_attempt`: an attempt to write a batch makes the database grow by the inserts that are
  recorded;
* `shows_journalSink`: a crawl does not see the journal.
-/

namespace PriceTracker

open Storage

/-- A store, and what succeeded on it. -/
structure Journal where
  store : Store
  /-- How many batches were to be written. -/
  count : Nat := 0
  /-- The inserts that succeeded, in order. -/
  insertions : List Insertion := []
  /-- The batches that were accepted, in order, with their days. -/
  accepted : List (Date × List ProductRecord) := []

/-- Whether an attempt gets as far as the insert of the products. -/
def Interruption.reachesProducts : Option Interruption → Bool
  | none => true
  | some (.before _) => false
  | some (.products _) => false
  | some (.prices _) => true

/-- The inserts of an attempt that succeed. As the prices come last, theirs succeeds if the batch is
accepted. -/
def Storage.Store.inserted (day : Date) (records : List ProductRecord)
    (fault : Option Interruption) (s : Store) : List Insertion :=
  let rows : List ProductRow := records.map fun r =>
    { shop := r.shop, pid := r.pid, name := r.name, url := r.url, image := r.imageUrl }
  let snapshots : List Snapshot := records.map fun r =>
    { shop := r.shop, pid := r.pid, day, currentPrice := r.currentPrice,
      originalPrice := r.originalPrice, inStock := r.inStock }
  let products :=
    if Interruption.reachesProducts fault && (s.insertProducts rows).1.isOk then
      [.products s.productTable rows]
    else []
  let prices :=
    if (s.attempt day records fault).1.isOk then
      [.prices s.priceTable snapshots]
    else []
  products ++ prices

/-- Writes batches to a store and keeps a journal. The plan says on which day each of them, counted
from zero, is written and where that breaks off. -/
def journalSink (plan : Nat → Date × Option Interruption) : Sink Journal where
  write records j :=
    let (day, fault) := plan j.count
    let (result, store) := j.store.attempt day records fault
    (result, {
      store
      count := j.count + 1
      insertions := j.insertions ++ j.store.inserted day records fault
      accepted := if result.isOk then j.accepted ++ [(day, records)] else j.accepted })

theorem journalSink_write {plan : Nat → Date × Option Interruption} {batch : List ProductRecord}
    {j : Journal} {day : Date} {fault : Option Interruption} {result : Except WriteFailure Unit}
    {store : Store} (hplan : plan j.count = (day, fault))
    (h : j.store.attempt day batch fault = (result, store)) :
    (journalSink plan).write batch j = (result, {
      store
      count := j.count + 1
      insertions := j.insertions ++ j.store.inserted day batch fault
      accepted := if result.isOk then j.accepted ++ [(day, batch)] else j.accepted }) := by
  simp only [journalSink, hplan, h]

/-- With one day and nothing that breaks off, the journal is all that is added to the store. -/
theorem shows_journalSink (day : Date) :
    (journalSink fun _ => (day, none)).Shows (storeSink day) Journal.store :=
  fun _ _ => rfl

namespace Storage.Store

/-- What is inserted of a batch are the rows and snapshots of its records. -/
theorem inserted_eq (day : Date) (records : List ProductRecord) (fault : Option Interruption)
    (s : Store) : s.inserted day records fault =
      (if Interruption.reachesProducts fault &&
          (s.insertProducts (records.map ProductRow.ofRecord)).1.isOk then
        [.products s.productTable (records.map ProductRow.ofRecord)]
      else []) ++
      if (s.attempt day records fault).1.isOk then
        [.prices s.priceTable (records.map (Snapshot.ofRecord day))]
      else [] := rfl

/-- The prices of a batch are inserted only if all of them are numbers. -/
theorem isPriced_of_mem_inserted {day : Date} {records : List ProductRecord}
    {fault : Option Interruption} {s : Store} :
    ∀ i ∈ s.inserted day records fault, i.IsPriced := by
  intro i hi
  rw [inserted_eq, List.mem_append] at hi
  obtain hi | hi := hi
  · split at hi
    · obtain rfl := List.mem_singleton.1 hi
      trivial
    · cases hi
  · split at hi
    · next hok =>
      obtain rfl := List.mem_singleton.1 hi
      generalize hattempt : s.attempt day records fault = result at hok
      cases attempt_outcome hattempt with
      | accepted _ hprices => exact isNaN_of_insertSnapshots_ok hprices
      | untouched => cases hok
      | halfway => cases hok
    · cases hi

/-- **A batch makes the database grow by what is recorded of it**, whether it is accepted or not. -/
theorem grows_attempt (day : Date) (records : List ProductRecord) (fault : Option Interruption)
    (s : Store) :
    s.database.Grows (s.inserted day records fault) (s.attempt day records fault).2.database := by
  cases hproducts : s.insertProducts (records.map ProductRow.ofRecord) with
  | mk written s₁ =>
    cases written with
    | error cause =>
      obtain rfl := eq_of_insertProducts_error hproducts
      have hnone : s₁.inserted day records fault = [] := by
        rcases fault with _ | _ | _ | _ <;>
          simp [inserted_eq, attempt, storeSink, writeBatch, hproducts, Except.isOk, Except.toBool]
      have hsame : (s₁.attempt day records fault).2 = s₁ := by
        rcases fault with _ | _ | _ | _ <;>
          simp only [attempt, storeSink, writeBatch, hproducts]
      rw [hnone, hsame]
      exact Database.grows_refl _
    | ok n =>
      have hgrows := grows_insertProducts hproducts
      rcases fault with _ | failure | cause | cause
      · cases hprices : s₁.insertSnapshots (records.map (Snapshot.ofRecord day)) with
        | mk priced s₂ =>
          cases priced with
          | error cause =>
            obtain rfl := eq_of_insertSnapshots_error hprices
            simpa [inserted_eq, attempt, storeSink, writeBatch, hproducts, hprices,
              Interruption.reachesProducts, Except.isOk, Except.toBool] using hgrows
          | ok m =>
            have htable : s₁.priceTable = s.priceTable := by
              obtain rfl := congrArg Prod.snd hproducts
              rfl
            have hboth := hgrows.trans (grows_insertSnapshots hprices)
            rw [htable] at hboth
            simpa [inserted_eq, attempt, storeSink, writeBatch, hproducts, hprices,
              Interruption.reachesProducts, Except.isOk, Except.toBool] using hboth
      · exact Database.grows_refl _
      · exact Database.grows_refl _
      · simpa [inserted_eq, attempt, hproducts, Interruption.reachesProducts, Except.isOk,
          Except.toBool] using hgrows

end Storage.Store

end PriceTracker
