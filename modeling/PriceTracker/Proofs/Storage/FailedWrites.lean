import PriceTracker.Proofs.Storage.RowByRow

/-!
# Failed writes

Each insert is one unit: if it fails, the store is as it was before, whether there is no table to
insert into or some row, at whatever place, cannot be kept (`insertProducts_fails_iff`,
`insertSnapshots_fails_iff`). A batch is two such units. So a write that fails has either done
nothing, or inserted the products and no prices, and the error names the table at which it ended
(`failed_writes_leave_tables`).

The price table of such a write is as it was if it is a table of its own. Nothing keeps a store from
having one name for both of its tables, and then the products that were inserted are in the price
table (`failed_write_to_one_table`).
-/

namespace PriceTracker.Storage.Store

variable {s s' : Store} {day : Date} {records : List ProductRecord}

/-! ## Inserts -/

theorem insertProducts_of_no_table (h : s.database.productRows? s.productTable = none) :
    ∃ cause, ∀ rows,
      s.insertProducts rows = (if rows = [] then .ok 0 else .error cause, s) := by
  obtain ⟨fault, hfault⟩ := @Database.insertProducts_of_ne s.productTable s.database
    fun old hold => by simp [Database.productRows?_eq_some.2 hold] at h
  refine ⟨.database fault, fun rows => ?_⟩
  rw [insertProducts, Database.insertAll_of_refused hfault, onDatabase]
  split <;> rfl

theorem insertSnapshots_of_no_table (h : s.database.priceRows? s.priceTable = none) :
    ∃ cause, ∀ snapshots,
      s.insertSnapshots snapshots = (if snapshots = [] then .ok 0 else .error cause, s) := by
  obtain ⟨fault, hfault⟩ := @Database.insertSnapshots_of_ne s.priceTable s.database
    fun old hold => by simp [Database.priceRows?_eq_some.2 hold] at h
  refine ⟨.database fault, fun snapshots => ?_⟩
  rw [insertSnapshots, Database.insertAll_of_refused hfault, onDatabase]
  split <;> rfl

/-- An insert of products fails if there is something to insert and no table to insert it into. -/
theorem insertProducts_fails_iff {rows : List ProductRow} :
    (∃ cause, s.insertProducts rows = (.error cause, s)) ↔
      rows ≠ [] ∧ s.database.productRows? s.productTable = none := by
  cases htable : s.database.productRows? s.productTable with
  | some old =>
    obtain ⟨db, hdb, -⟩ := insertProducts_of_products (Database.productRows?_eq_some.1 htable) rows
    simp [hdb]
  | none =>
    obtain ⟨cause, hcause⟩ := insertProducts_of_no_table htable
    by_cases hnil : rows = [] <;> simp [hcause, hnil]

/-- An insert of snapshots fails also if one of them cannot be kept. -/
theorem insertSnapshots_fails_iff {snapshots : List Snapshot} :
    (∃ cause, s.insertSnapshots snapshots = (.error cause, s)) ↔
      snapshots ≠ [] ∧ (s.database.priceRows? s.priceTable = none ∨
        ∃ x ∈ snapshots, x.currentPrice.isNaN = true) := by
  rw [← mapM_row?_eq_none_iff]
  cases htable : s.database.priceRows? s.priceTable with
  | some old =>
    replace htable := Database.priceRows?_eq_some.1 htable
    cases hrows : snapshots.mapM Snapshot.row? with
    | none =>
      obtain ⟨fault, hfault⟩ :=
        (Database.inserts_insertSnapshots s.priceTable).insertAll_of_none htable hrows
      have hne : snapshots ≠ [] := by
        rintro rfl
        simp at hrows
      refine iff_of_true ⟨.database fault, ?_⟩ ⟨hne, Or.inr rfl⟩
      rw [insertSnapshots, onDatabase, hfault]
      rfl
    | some rows =>
      obtain ⟨db, hdb, -⟩ := insertSnapshots_of_prices htable hrows
      simp [hdb]
  | none =>
    obtain ⟨cause, hcause⟩ := insertSnapshots_of_no_table htable
    by_cases hnil : snapshots = [] <;> simp [hcause, hnil]

/-- All prices of an insert that succeeds are numbers. -/
theorem isNaN_of_insertSnapshots_ok {snapshots : List Snapshot} {n : Nat}
    (h : s.insertSnapshots snapshots = (.ok n, s')) :
    ∀ x ∈ snapshots, x.currentPrice.isNaN = false := by
  intro x hx
  by_contra hnan
  obtain ⟨cause, hcause⟩ := insertSnapshots_fails_iff.2
    ⟨List.ne_nil_of_mem hx, Or.inr ⟨x, hx, by simpa using hnan⟩⟩
  rw [hcause] at h
  cases h

/-- An insert of products that does not fail leaves all other tables alone. -/
theorem sameBut_of_insertProducts_ok {rows : List ProductRow} {n : Nat}
    (h : s.insertProducts rows = (.ok n, s')) :
    s.database.SameBut s.productTable s'.database := by
  cases htable : s.database.productRows? s.productTable with
  | some old =>
    obtain ⟨db, hdb, -, hsame⟩ :=
      insertProducts_of_products (Database.productRows?_eq_some.1 htable) rows
    obtain ⟨-, rfl⟩ := Prod.mk.inj (hdb.symm.trans h)
    exact hsame
  | none =>
    -- There was nothing to insert.
    obtain ⟨cause, hcause⟩ := insertProducts_of_no_table htable
    obtain ⟨-, rfl⟩ := Prod.mk.inj ((hcause rows).symm.trans h)
    exact fun _ _ => rfl

/-! ## Batches -/

/-- A batch fails in one of its inserts, and what was done before stays. -/
theorem insertProducts_of_writeBatch_error {e : WriteError}
    (h : s.writeBatch day records = (.error e, s')) :
    (e.table = s.productTable ∧
      s.insertProducts (records.map ProductRow.ofRecord) = (.error e.cause, s')) ∨
    (e.table = s.priceTable ∧
      ∃ n, s.insertProducts (records.map ProductRow.ofRecord) = (.ok n, s')) := by
  have hnames : (s.insertProducts (records.map ProductRow.ofRecord)).2.productTable =
      s.productTable ∧
      (s.insertProducts (records.map ProductRow.ofRecord)).2.priceTable = s.priceTable := ⟨rfl, rfl⟩
  rw [writeBatch] at h
  cases hproducts : s.insertProducts (records.map ProductRow.ofRecord) with
  | mk answer between =>
    rw [hproducts] at h hnames
    obtain ⟨hproduct, hprice⟩ := hnames
    cases answer with
    | error cause =>
      obtain ⟨he, rfl⟩ := Prod.mk.inj h
      obtain rfl := Except.error.inj he
      exact Or.inl ⟨hproduct, rfl⟩
    | ok n =>
      dsimp only at h
      cases hprices : between.insertSnapshots (records.map (Snapshot.ofRecord day)) with
      | mk answer after =>
        rw [hprices] at h
        cases answer with
        | error cause =>
          obtain rfl := eq_of_insertSnapshots_error hprices
          obtain ⟨he, rfl⟩ := Prod.mk.inj h
          obtain rfl := Except.error.inj he
          exact Or.inr ⟨hprice, n, rfl⟩
        | ok m => simp at h

/-- **A failed insert leaves the tables as they were, and a failed batch names the table at which it
ended.** If that is the price table, the products of the batch are inserted and the price table is
as it was, unless both names are those of one table. -/
theorem failed_writes_leave_tables (s : Store) :
    (∀ rows, (∀ cause s', s.insertProducts rows = (.error cause, s') → s' = s) ∧
      ((∃ cause, s.insertProducts rows = (.error cause, s)) ↔
        rows ≠ [] ∧ s.database.productRows? s.productTable = none)) ∧
    (∀ snapshots, (∀ cause s', s.insertSnapshots snapshots = (.error cause, s') → s' = s) ∧
      ((∃ cause, s.insertSnapshots snapshots = (.error cause, s)) ↔
        snapshots ≠ [] ∧ (s.database.priceRows? s.priceTable = none ∨
          ∃ x ∈ snapshots, x.currentPrice.isNaN = true))) ∧
    ∀ day records e s', s.writeBatch day records = (.error e, s') →
      (e.table = s.productTable ∧ s' = s) ∨
      (e.table = s.priceTable ∧
        (∃ n, s.insertProducts (records.map ProductRow.ofRecord) = (.ok n, s')) ∧
        (Database.sameName s.priceTable s.productTable = false →
          s'.database.find? s.priceTable = s.database.find? s.priceTable)) := by
  refine ⟨fun rows => ⟨fun _ _ => eq_of_insertProducts_error, insertProducts_fails_iff⟩,
    fun snapshots => ⟨fun _ _ => eq_of_insertSnapshots_error, insertSnapshots_fails_iff⟩,
    fun day records e s' h => ?_⟩
  obtain ⟨htable, hproducts⟩ | ⟨htable, n, hproducts⟩ := insertProducts_of_writeBatch_error h
  · exact Or.inl ⟨htable, eq_of_insertProducts_error hproducts⟩
  · exact Or.inr ⟨htable, ⟨n, hproducts⟩, sameBut_of_insertProducts_ok hproducts s.priceTable⟩

/-- In a store with one name for both tables, the products of a write that fails at the prices are
in the price table. -/
theorem failed_write_to_one_table :
    let day : Date := ⟨2026, 10, 16, by decide⟩
    let bell : ProductRecord := ⟨"shop", "1", "Bell", "/1", none, 99, none, true, "CZK"⟩
    let s : Store := (createTables ⟨{}, "products", "products", by decide, by decide⟩).2
    ∃ e s', s.writeBatch day [bell] = (.error e, s') ∧
      s'.database.find? s.priceTable ≠ s.database.find? s.priceTable ∧
      ¬((e.table = s.productTable ∧
          s'.database.find? s.productTable = s.database.find? s.productTable ∧
          s'.database.find? s.priceTable = s.database.find? s.priceTable) ∨
        (e.table = s.priceTable ∧
          s'.database.find? s.priceTable = s.database.find? s.priceTable ∧
          ∃ n s'', s.insertProducts [ProductRow.ofRecord bell] = (.ok n, s'') ∧
            s'.database.find? s.productTable = s''.database.find? s.productTable)) := by
  intro day bell s
  have herror : (s.writeBatch day [bell]).1 =
      .error ⟨"products", .database (.noSuchColumn "products" "scrapedAt")⟩ := by decide +kernel
  have hempty : (s.database.find? s.priceTable).map Table.size = some 0 := by decide +kernel
  have hfull : ((s.writeBatch day [bell]).2.database.find? s.priceTable).map Table.size =
    some 1 := by decide +kernel
  have hne : (s.writeBatch day [bell]).2.database.find? s.priceTable ≠
      s.database.find? s.priceTable := by
    intro hsame
    rw [hsame, hempty] at hfull
    exact absurd hfull (by decide)
  refine ⟨_, _, Prod.ext herror rfl, hne, ?_⟩
  rintro (⟨-, -, hsame⟩ | ⟨-, hsame, -⟩)
  · exact hne hsame
  · exact hne hsame

end PriceTracker.Storage.Store
