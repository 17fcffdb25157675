import PriceTracker.Proofs.Crawl.Handover
import PriceTracker.Proofs.Delivery.Prices
import PriceTracker.Proofs.Storage.Growth

/-!
# Records are stored as they are

What a product block gives can be stored, and nothing of it is lost or changed on the way. Its
prices are amounts, which a table takes and keeps bit for bit, so the price row of a record is
`PriceRow.ofRecord` (`IsRead.priceRow?_eq`). A batch of such records is always written, and the row
of each key can be read back (`read_records_stored`).
-/

namespace PriceTracker

open Storage

/-- The price row of a record, with all that it says of the price. -/
def Storage.PriceRow.ofRecord (day : Date) (r : ProductRecord) : PriceRow where
  shop := r.shop
  pid := r.pid
  scrapedAt := day.text
  currentPrice := r.currentPrice
  originalPrice := r.originalPrice
  inStock := r.inStock

namespace ProductRecord

theorem IsRead.isAmount {r : ProductRecord} (h : r.IsRead) :
    IsAmount r.currentPrice ∧ ∀ x ∈ r.originalPrice, IsAmount x := by
  obtain ⟨raw, hraw⟩ := h
  exact isAmount_of_ofRaw hraw

/-- **The price row that is kept of a record says what the record says.** -/
theorem IsRead.priceRow?_eq {r : ProductRecord} (h : r.IsRead) (day : Date) :
    r.priceRow? day = some (PriceRow.ofRecord day r) := by
  obtain ⟨hcurrent, horiginal⟩ := h.isAmount
  have hkept : r.originalPrice.bind storedReal? = r.originalPrice := by
    cases hprice : r.originalPrice with
    | none => rfl
    | some x => exact (horiginal x hprice).storedReal?_eq
  rw [priceRow?, Snapshot.row?, Snapshot.ofRecord]
  dsimp only
  rw [hcurrent.storedReal?_eq, hkept]
  rfl

theorem mapM_priceRow?_of_isRead {records : List ProductRecord} (read : ∀ r ∈ records, r.IsRead)
    (day : Date) : records.mapM (priceRow? day) = some (records.map (PriceRow.ofRecord day)) := by
  induction records with
  | nil => rfl
  | cons r records ih =>
    obtain ⟨hr, hrecords⟩ := List.forall_mem_cons.1 read
    rw [List.mapM_cons, hr.priceRow?_eq day, ih hrecords]
    rfl

end ProductRecord

/-! ## Reading rows back -/

namespace Storage.Store

variable {s : Store} {products : List ProductRow} {prices : List PriceRow}

/-- The row of a shop and a number in the product table, if there is one. -/
def productRow? (s : Store) (key : ProductKey) : Option ProductRow :=
  (s.database.productRows? s.productTable).bind
    (·.find? fun row => ⟨row.shop, row.pid⟩ = key)

/-- The row of a product and a written day in the price table, if there is one. -/
def priceRow? (s : Store) (key : PriceKey) : Option PriceRow :=
  (s.database.priceRows? s.priceTable).bind
    (·.find? fun row => ⟨⟨row.shop, row.pid⟩, row.scrapedAt⟩ = key)

theorem Holds.productRow?_eq (h : s.Holds products prices) (key : ProductKey) :
    s.productRow? key = products.find? fun row => row.key = key := by
  rw [productRow?, Database.productRows?_eq_some.2 h.products]
  rfl

theorem Holds.priceRow?_eq (h : s.Holds products prices) (key : PriceKey) :
    s.priceRow? key = prices.find? fun row => row.key = key := by
  rw [priceRow?, Database.priceRows?_eq_some.2 h.prices]
  rfl

/-- **Records of product blocks can always be stored, and are read back as they were.** A store has
its two tables, with any rows in them. Any records that product blocks gave are written to it on any
day. None of their current prices is missing, so the write succeeds; it adds the first row of each
new key to either table and says how many. Afterwards each key has the row that it had before, or
else that of the first of the records with this key: the shop, the number, the name, the page and
the picture of the product, and both prices with the same bits, the stock and the written day. -/
theorem read_records_stored (tables : s.Holds products prices) (day : Date)
    {records : List ProductRecord} (read : ∀ r ∈ records, r.IsRead) :
    let productRows : List ProductRow := records.map fun r =>
      { shop := r.shop, pid := r.pid, name := r.name, url := r.url, image := r.imageUrl }
    let priceRows : List PriceRow := records.map fun r =>
      { shop := r.shop, pid := r.pid, scrapedAt := day.text, currentPrice := r.currentPrice,
        originalPrice := r.originalPrice, inStock := r.inStock }
    let newProducts := newRows ProductRow.key products productRows
    let newPrices := newRows PriceRow.key prices priceRows
    (∀ r ∈ records, r.currentPrice.isNaN = false) ∧
      ∃ stored,
        s.writeBatch day records = (.ok ⟨newProducts.length, newPrices.length⟩, stored) ∧
        stored.Holds (products ++ newProducts) (prices ++ newPrices) ∧
        (∀ key, stored.productRow? key =
          (s.productRow? key).or (productRows.find? fun row => ⟨row.shop, row.pid⟩ = key)) ∧
        ∀ key, stored.priceRow? key = (s.priceRow? key).or
          (priceRows.find? fun row => ⟨⟨row.shop, row.pid⟩, row.scrapedAt⟩ = key) := by
  intro productRows priceRows newProducts newPrices
  have hrows := ProductRecord.mapM_priceRow?_of_isRead read day
  obtain ⟨db, hwrite, hholds⟩ := writeBatch_of_holds tables hrows
  refine ⟨fun r hr => (read r hr).isAmount.1.isNaN, _, hwrite, hholds, fun key => ?_, fun key => ?_⟩
  · rw [hholds.productRow?_eq, tables.productRow?_eq, find?_append_newRows]
    rfl
  · rw [hholds.priceRow?_eq, tables.priceRow?_eq, find?_append_newRows]
    rfl

/-- Two blocks of one product, of which the first is on sale, and one of another. -/
theorem bell_and_lamp_stored :
    let bell : RawProduct :=
      { pid := "1", name := " Bell ", url := "/1", imageUrl := "/bell.png",
        currentPrice := "99,50", originalPrice := "120", inStock := true }
    let gong : RawProduct := { pid := "1", name := "Gong", url := "/2", currentPrice := "80" }
    let lamp : RawProduct := { pid := "2", name := "Lamp", url := "/3", currentPrice := "1 290,-" }
    let records := [bell, gong, lamp].filterMap fun raw => (ProductRecord.ofRaw raw).toOption
    let day : Date := ⟨2026, 10, 16, by decide⟩
    let first : ProductKey := ⟨"bikero-cz", "1"⟩
    blank.Holds [] [] ∧ (∀ r ∈ records, r.IsRead) ∧ ∃ stored,
      blank.writeBatch day records = (.ok ⟨2, 2⟩, stored) ∧
        stored.productRow? first = some
          { shop := "bikero-cz", pid := "1", name := "Bell", url := "/1", image := "/bell.png" } ∧
        (stored.priceRow? ⟨first, day.text⟩).map PriceRow.currentPrice = some 99.5 ∧
        (stored.priceRow? ⟨first, day.text⟩).map PriceRow.originalPrice = some (some 120) ∧
        (stored.priceRow? ⟨first, day.text⟩).map PriceRow.inStock = some true := by
  intro bell gong lamp records day first
  have read : ∀ r ∈ records, r.IsRead := by
    intro r hr
    obtain ⟨raw, -, hraw⟩ := List.mem_filterMap.1 hr
    cases h : ProductRecord.ofRaw raw with
    | error => simp [h, Except.toOption] at hraw
    | ok made =>
      obtain rfl : made = r := by simpa [h, Except.toOption] using hraw
      exact ⟨raw, h⟩
  obtain ⟨-, stored, hwrite, hholds, hproduct, hprice⟩ := read_records_stored holds_blank day read
  have hcount : (⟨(newRows ProductRow.key [] (records.map ProductRow.ofRecord)).length,
      (newRows PriceRow.key [] (records.map (PriceRow.ofRecord day))).length⟩ : WriteCount) =
        ⟨2, 2⟩ := by
    decide +kernel
  refine ⟨holds_blank, read, stored, ?_, ?_, ?_, ?_, ?_⟩
  · exact hwrite.trans (congrArg (fun n => (Except.ok n, stored)) hcount)
  · rw [hproduct]
    decide +kernel
  · rw [hprice]
    decide +kernel
  · rw [hprice]
    decide +kernel
  · rw [hprice]
    decide +kernel

end Storage.Store

end PriceTracker
