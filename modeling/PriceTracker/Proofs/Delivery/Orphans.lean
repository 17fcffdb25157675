import PriceTracker.Proofs.Crawl.Handover
import PriceTracker.Proofs.Delivery.Journal

/-!
# Prices without products

No constraint of the database ties a price to its product. That each price row has a product row
comes of the order in which a batch is written: the products first, and the prices only if that
succeeded.

* `NoOrphans` says that the products of all prices are there, and `Contains` that all records of a
  batch are;
* `Journal.Sound.write`: a batch, accepted or not, leaves no orphans and takes no row away;
* `no_price_without_product`: so there never are any, whatever crawls and batches there were.
-/

namespace PriceTracker

open Storage

/-- The key of the product of a record. -/
def ProductRecord.productKey (r : ProductRecord) : ProductKey :=
  ⟨r.shop, r.pid⟩

/-- The key of the price of a record on a day. -/
def ProductRecord.priceKey (day : Date) (r : ProductRecord) : PriceKey :=
  ⟨r.productKey, day.text⟩

/-! ## Two tables -/

/-- Each price has a product. -/
def NoOrphans (products : List ProductRow) (prices : List PriceRow) : Prop :=
  ∀ key ∈ prices.map PriceRow.key, key.product ∈ products.map ProductRow.key

/-- Each record of a batch has a product, and a price on the day. -/
def Contains (products : List ProductRow) (prices : List PriceRow) (day : Date)
    (batch : List ProductRecord) : Prop :=
  ∀ r ∈ batch, r.productKey ∈ products.map ProductRow.key ∧
    r.priceKey day ∈ prices.map PriceRow.key

variable {products products' : List ProductRow} {prices prices' : List PriceRow} {day : Date}
  {batch : List ProductRecord} {rows : List PriceRow}

theorem NoOrphans.mono (h : NoOrphans products prices)
    (hproducts : products.map ProductRow.key ⊆ products'.map ProductRow.key) :
    NoOrphans products' prices :=
  fun key hkey => hproducts (h key hkey)

theorem Contains.mono (h : Contains products prices day batch)
    (hproducts : products.map ProductRow.key ⊆ products'.map ProductRow.key)
    (hprices : prices.map PriceRow.key ⊆ prices'.map PriceRow.key) :
    Contains products' prices' day batch :=
  fun r hr => ⟨hproducts (h r hr).1, hprices (h r hr).2⟩

/-- A table keeps its keys. -/
theorem map_key_subset_foldl {ρ κ : Type} [DecidableEq κ] (key : ρ → κ) (old rows : List ρ) :
    old.map key ⊆ (rows.foldl (insertNew key) old).map key :=
  fun _ hkey => mem_map_foldl_insertNew.2 (Or.inl hkey)

/-- The keys of the price rows of a batch. -/
theorem map_key_priceRows (h : batch.mapM (ProductRecord.priceRow? day) = some rows) :
    rows.map PriceRow.key = batch.map (ProductRecord.priceKey day) := by
  refine map_eq_map_of_mapM (fun r row hrow => ?_) h
  obtain ⟨price, -, rfl⟩ := Option.map_eq_some_iff.1 hrow
  rfl

/-- The tables after a batch was written have its records. -/
theorem contains_of_written (products : List ProductRow) (prices : List PriceRow)
    (h : batch.mapM (ProductRecord.priceRow? day) = some rows) :
    Contains ((batch.map ProductRow.ofRecord).foldl (insertNew ProductRow.key) products)
      (rows.foldl (insertNew PriceRow.key) prices) day batch := by
  intro r hr
  refine ⟨mem_map_foldl_insertNew.2 (Or.inr ?_), mem_map_foldl_insertNew.2 (Or.inr ?_)⟩
  · rw [List.map_map]
    exact List.mem_map_of_mem (f := ProductRow.key ∘ ProductRow.ofRecord) hr
  · rw [map_key_priceRows h]
    exact List.mem_map_of_mem hr

/-- Prices are written together with their products. -/
theorem NoOrphans.written (hold : NoOrphans products prices)
    (h : batch.mapM (ProductRecord.priceRow? day) = some rows) :
    NoOrphans ((batch.map ProductRow.ofRecord).foldl (insertNew ProductRow.key) products)
      (rows.foldl (insertNew PriceRow.key) prices) := by
  intro key hkey
  obtain hkey | hkey := mem_map_foldl_insertNew.1 hkey
  · exact map_key_subset_foldl ProductRow.key products _ (hold key hkey)
  · rw [map_key_priceRows h] at hkey
    obtain ⟨r, hr, rfl⟩ := List.mem_map.1 hkey
    exact (contains_of_written products prices h r hr).1

/-! ## Journals -/

/-- The tables of the store are there and have no orphans, and all accepted batches are in them. -/
def Journal.Sound (j : Journal) : Prop :=
  ∃ products prices, j.store.Holds products prices ∧ NoOrphans products prices ∧
    ∀ write ∈ j.accepted, Contains products prices write.1 write.2

/-- **A batch leaves no orphans**, whether it is accepted or breaks off. -/
theorem Journal.Sound.write {j : Journal} (h : j.Sound) (plan : Nat → Date × Option Interruption)
    (batch : List ProductRecord) : ((journalSink plan).write batch j).2.Sound := by
  obtain ⟨products, prices, hholds, horphans, haccepted⟩ := h
  cases hplan : plan j.count with
  | mk day fault =>
    cases hattempt : j.store.attempt day batch fault with
    | mk result store =>
      rw [journalSink_write hplan hattempt]
      cases result with
      | error failure =>
        obtain ⟨done, -, hholds'⟩ := Store.holds_attempt_of_error hholds hattempt
        have hproducts := map_key_subset_foldl ProductRow.key products
          (done.map ProductRow.ofRecord)
        exact ⟨_, _, hholds', horphans.mono hproducts,
          fun write hwrite => (haccepted write hwrite).mono hproducts (List.Subset.refl _)⟩
      | ok =>
        obtain ⟨rows, hrows, hholds'⟩ := Store.holds_attempt_of_ok hholds hattempt
        refine ⟨_, _, hholds', horphans.written hrows, fun write hwrite => ?_⟩
        obtain hwrite | hwrite := List.mem_append.1 hwrite
        · exact (haccepted write hwrite).mono (map_key_subset_foldl _ _ _)
            (map_key_subset_foldl _ _ _)
        · obtain rfl := List.mem_singleton.1 hwrite
          exact contains_of_written products prices hrows

/-! ## Uses of a store -/

/-- How a store is written to. -/
inductive Use where
  /-- Write a batch. -/
  | write (batch : List ProductRecord)
  /-- Crawl: seed, run, stop and flush as one likes. -/
  | crawl (label : String) (maxPages : Option Nat) (frontier : Frontier) (batchSize : Nat)
    (actions : List Crawl.Action)

/-- The journal of a store after a use. -/
def Journal.use (plan : Nat → Date × Option Interruption) (j : Journal) : Use → Journal
  | .write batch => ((journalSink plan).write batch j).2
  | .crawl label maxPages frontier batchSize actions =>
    ((Crawl.fresh label maxPages frontier j batchSize).actAll (journalSink plan)
      actions).buffer.sink

theorem Journal.Sound.use {j : Journal} (h : j.Sound) (plan : Nat → Date × Option Interruption)
    (use : Use) : (j.use plan use).Sound := by
  cases use with
  | write batch => exact h.write plan batch
  | crawl label maxPages frontier batchSize actions =>
    have hwrite : ∀ batch j, Journal.Sound j → ((journalSink plan).write batch j).2.Sound :=
      fun batch _ hj => hj.write plan batch
    have keeps := RecordBuffer.Keeps.of_write Journal.Sound hwrite
    exact keeps.actAll (fun _ _ _ _ _ => trivial)
      (c := Crawl.fresh label maxPages frontier j batchSize) h actions

theorem Journal.Sound.foldl_use {j : Journal} (h : j.Sound)
    (plan : Nat → Date × Option Interruption) (uses : List Use) :
    (uses.foldl (Journal.use plan) j).Sound := by
  induction uses generalizing j with
  | nil => exact h
  | cons use uses ih => exact ih (h.use plan use)

/-- **No price without a product.** The two tables of a store were missing and were created, under
names that are not the same to the database. From then on batches are written to it, by themselves
or in the course of crawls, each on any day; any of the writes may break off, before anything is
written, in the insert of the products or in that of the prices. A crawl that dies in the middle of
a page is one of which all later writes break off. Then each price row has a product row for the same
shop and number. Each record of a batch that was accepted has such a row, and a price row for the day
of the batch. -/
theorem no_price_without_product {s s' : Store}
    (product : s.database.find? s.productTable = none)
    (price : s.database.find? s.priceTable = none)
    (distinct : Database.sameName s.productTable s.priceTable = false)
    (created : s.createTables = (.ok (), s')) (plan : Nat → Date × Option Interruption)
    (uses : List Use) :
    let j := uses.foldl (Journal.use plan) { store := s' }
    ∃ products prices, j.store.Holds products prices ∧
      (∀ row ∈ prices, ∃ product ∈ products,
        product.shop = row.shop ∧ product.pid = row.pid) ∧
      ∀ write ∈ j.accepted, ∀ r ∈ write.2,
        (∃ product ∈ products, product.shop = r.shop ∧ product.pid = r.pid) ∧
        ∃ row ∈ prices, row.shop = r.shop ∧ row.pid = r.pid ∧ row.scrapedAt = write.1.text := by
  intro j
  have hempty : Journal.Sound { store := s' } :=
    ⟨[], [], Store.holds_createTables product price distinct created,
      fun key hkey => absurd hkey List.not_mem_nil, fun write hwrite => absurd hwrite List.not_mem_nil⟩
  obtain ⟨products, prices, hholds, horphans, haccepted⟩ := hempty.foldl_use plan uses
  have hproduct : ∀ key ∈ products.map ProductRow.key,
      ∃ product ∈ products, product.shop = key.shop ∧ product.pid = key.pid := by
    intro key hkey
    obtain ⟨product, hproduct, rfl⟩ := List.mem_map.1 hkey
    exact ⟨product, hproduct, rfl, rfl⟩
  refine ⟨products, prices, hholds, fun row hrow => ?_, fun write hwrite r hr => ⟨?_, ?_⟩⟩
  · exact hproduct _ (horphans row.key (List.mem_map_of_mem hrow))
  · exact hproduct _ (haccepted write hwrite r hr).1
  · obtain ⟨row, hrow, hkey⟩ := List.mem_map.1 (haccepted write hwrite r hr).2
    have hsame : row.shop = r.shop ∧ row.pid = r.pid ∧ row.scrapedAt = write.1.text := by
      simpa [PriceRow.key, ProductRecord.priceKey, ProductRecord.productKey, and_assoc] using hkey
    exact ⟨row, hrow, hsame⟩

/-- A bell whose first write loses the price, and then a bell and a lamp. -/
theorem bell_priced_when_written_again :
    let day : Date := ⟨2026, 10, 16, by decide⟩
    let bell : ProductRecord := ⟨"shop", "1", "Bell", "/1", none, 99, none, true, "CZK"⟩
    let lamp : ProductRecord := ⟨"shop", "2", "Lamp", "/2", none, 249, some 299, false, "CZK"⟩
    let s : Store := ⟨{}, "products", "prices", by decide, by decide⟩
    let plan (n : Nat) : Date × Option Interruption := (day, [.prices (.missingTable "prices")][n]?)
    let j := [Use.write [bell], Use.write [bell, lamp]].foldl (Journal.use plan)
      { store := s.createTables.2 }
    s.database.find? s.productTable = none ∧ s.database.find? s.priceTable = none ∧
      Database.sameName s.productTable s.priceTable = false ∧
      s.createTables = (.ok (), s.createTables.2) ∧ j.accepted.length = 1 ∧
      ∃ products prices, j.store.Holds products prices ∧
        (∀ row ∈ prices, ∃ product ∈ products,
          product.shop = row.shop ∧ product.pid = row.pid) ∧
        ∀ write ∈ j.accepted, ∀ r ∈ write.2,
          (∃ product ∈ products, product.shop = r.shop ∧ product.pid = r.pid) ∧
          ∃ row ∈ prices,
            row.shop = r.shop ∧ row.pid = r.pid ∧ row.scrapedAt = write.1.text := by
  intro day bell lamp s plan j
  have distinct : Database.sameName s.productTable s.priceTable = false := by decide +kernel
  have created : s.createTables = (.ok (), s.createTables.2) :=
    Prod.ext (by decide +kernel) rfl
  have haccepted : j.accepted.length = 1 := by decide +kernel
  exact ⟨rfl, rfl, distinct, created, haccepted,
    no_price_without_product rfl rfl distinct created plan
      [Use.write [bell], Use.write [bell, lamp]]⟩

end PriceTracker
