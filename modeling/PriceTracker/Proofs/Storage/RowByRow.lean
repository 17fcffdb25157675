import Mathlib.Data.Finset.Card
import PriceTracker.Proofs.Storage.Creation
import PriceTracker.Proofs.Storage.Growth

/-!
# Row by row

Rows are sent to the database in pieces of a few hundred, one statement for each piece. This comes
to the same as one call for each row (`insertAll_eq_oneByOne`), and the answer is the number of keys
that the table did not have (`length_newRows`). So it does not matter to a store how its rows are
cut into pieces, nor where in them a key is repeated (`many_rows_are_inserted_one_by_one`).

For prices this needs snapshots that can be kept. One that cannot fails the whole insert, while
single calls would have kept the rows in front of it.
-/

namespace PriceTracker.Storage

/-! ## One call for each item -/

/-- One call of an insert for each item, up to the first that fails; what they count is added up. -/
def oneByOne {ι σ ε : Type} (insert : ι → σ → Except ε Nat × σ) : List ι → σ → Except ε Nat × σ
  | [], s => (.ok 0, s)
  | item :: items, s =>
    match insert item s with
    | (.error cause, s) => (.error cause, s)
    | (.ok n, s) =>
      let rest := oneByOne insert items s
      (rest.1.map (n + ·), rest.2)

/-- Calls that fail anyway fail at the first one. -/
theorem oneByOne_of_refused {ι σ ε : Type} {insert : ι → σ → Except ε Nat × σ} {s : σ} {cause : ε}
    (refused : ∀ item, insert item s = (.error cause, s)) (items : List ι) :
    oneByOne insert items s = (if items = [] then .ok 0 else .error cause, s) := by
  cases items with
  | nil => rfl
  | cons item items => rw [oneByOne, refused, if_neg (List.cons_ne_nil _ _)]

namespace Store

/-- The names of the tables stay the same from call to call. -/
theorem oneByOne_onDatabase {ι : Type} {insert : ι → Store → Except StorageError Nat × Store}
    {onItem : ι → Database → Except DatabaseFault Nat × Database} {s : Store}
    (h : ∀ item db, insert item { s with database := db } =
      ({ s with database := db } : Store).onDatabase (onItem item db))
    (items : List ι) (db : Database) :
    oneByOne insert items { s with database := db } =
      s.onDatabase (oneByOne onItem items db) := by
  induction items generalizing db with
  | nil => rfl
  | cons item items ih =>
    rw [oneByOne, oneByOne, h, onDatabase]
    obtain ⟨answer, between⟩ := onItem item db
    cases answer with
    | error fault => rfl
    | ok n =>
      dsimp only [Except.mapError]
      rw [ih, onDatabase, onDatabase]
      cases (oneByOne onItem items between).1 <;> rfl

end Store

/-! ## Pieces and single rows -/

namespace Database.Inserts

variable {ι ρ κ : Type} [DecidableEq κ]
  {statement : List ι → Database → Except DatabaseFault (Nat × Database)} {name : String}
  {wrap : List ρ → Table} {key : ρ → κ} {row? : ι → Option ρ}

theorem insertAll_eq_oneByOne_of_table (h : Inserts statement name wrap key row?) {db : Database}
    {old rows : List ρ} {items : List ι} (table : db.find? name = some (wrap old))
    (hrows : items.mapM row? = some rows) :
    db.insertAll statement items =
      oneByOne (fun item db => db.insertAll statement [item]) items db := by
  induction items generalizing db old rows with
  | nil =>
    rw [h.insertAll_eq_of_some table hrows]
    obtain rfl : [] = rows := by simpa using hrows
    simp [oneByOne]
  | cons item items ih =>
    have hall := hrows
    obtain ⟨row, rest, hrow, hrest, rfl⟩ := mapM_cons_eq_some_iff.1 hrows
    have hfirst : [item].mapM row? = some [row] := by simp [hrow]
    have htable := find?_replace_self (wrap (insertNew key old row)) table
    rw [oneByOne, h.insertAll_eq_of_some table hfirst, h.insertAll_eq_of_some table hall]
    simp only [List.foldl_cons, List.foldl_nil, List.cons_ne_nil, if_false]
    rw [← ih htable hrest, h.insertAll_eq_of_some htable hrest]
    have hle₁ : old.length ≤ (insertNew key old row).length :=
      (prefix_insertNew key old row).length_le
    have hle₂ : (insertNew key old row).length ≤
        (rest.foldl (insertNew key) (insertNew key old row)).length :=
      (prefix_foldl_insertNew _ rest).length_le
    refine Prod.ext (congrArg Except.ok ?_) ?_
    · dsimp only
      omega
    · dsimp only
      split
      · next hnil =>
        obtain rfl : [] = rest := by simpa [hnil] using hrest
        rfl
      · rw [replace_replace]

/-- **Rows in pieces are added like single rows**, also where they are all refused. -/
theorem insertAll_eq_oneByOne (h : Inserts statement name wrap key row?) {db : Database}
    (refused : (∀ old, db.find? name ≠ some (wrap old)) →
      ∃ fault, ∀ items, statement items db = .error fault)
    {rows : List ρ} {items : List ι} (hrows : items.mapM row? = some rows) :
    db.insertAll statement items =
      oneByOne (fun item db => db.insertAll statement [item]) items db := by
  by_cases htable : ∃ old, db.find? name = some (wrap old)
  · obtain ⟨old, htable⟩ := htable
    exact h.insertAll_eq_oneByOne_of_table htable hrows
  · obtain ⟨fault, hfault⟩ := refused fun old hold => htable ⟨old, hold⟩
    have hsingle : ∀ item, db.insertAll statement [item] = (.error fault, db) := by
      intro item
      rw [insertAll_of_refused hfault, if_neg (List.cons_ne_nil _ _)]
    rw [insertAll_of_refused hfault, oneByOne_of_refused hsingle]

end Database.Inserts

/-! ## Keys that are new -/

section

variable {ρ κ : Type} [DecidableEq κ] {key : ρ → κ}

/-- The keys of some rows that a table does not have yet. -/
def newKeys (key : ρ → κ) (old rows : List ρ) : Finset κ :=
  (rows.map key).toFinset \ (old.map key).toFinset

/-- There is one new row for each new key. -/
theorem length_newRows (old rows : List ρ) :
    (newRows key old rows).length = (newKeys key old rows).card := by
  have hnodup : ((newRows key old rows).map key).Nodup :=
    (nodup_map_firstBy rows).sublist (List.filter_sublist.map key)
  have hkeys : ((newRows key old rows).map key).toFinset = newKeys key old rows := by
    ext k
    rw [newKeys, Finset.mem_sdiff, List.mem_toFinset, List.mem_toFinset, List.mem_toFinset,
      ← mem_map_firstBy (l := rows), newRows, List.mem_map, List.mem_map]
    constructor
    · rintro ⟨r, hr, rfl⟩
      obtain ⟨hmem, hnew⟩ := List.mem_filter.1 hr
      exact ⟨⟨r, hmem, rfl⟩, of_decide_eq_true hnew⟩
    · rintro ⟨⟨r, hmem, rfl⟩, hnew⟩
      exact ⟨r, List.mem_filter.2 ⟨hmem, decide_eq_true hnew⟩, rfl⟩
  rw [← hkeys, List.toFinset_card_of_nodup hnodup, List.length_map]

end

/-! ## Stores -/

namespace Store

variable {s : Store}

theorem insertProducts_eq_oneByOne (s : Store) (rows : List ProductRow) :
    s.insertProducts rows = oneByOne (fun row => insertProducts [row]) rows s := by
  have hstore := @oneByOne_onDatabase _ (fun row => insertProducts [row]) _ s
    (fun _ _ => rfl) rows s.database
  refine Eq.trans ?_ hstore.symm
  rw [insertProducts, (Database.inserts_insertProducts s.productTable).insertAll_eq_oneByOne
    Database.insertProducts_of_ne (Database.mapM_some_eq rows)]

theorem insertSnapshots_eq_oneByOne (s : Store) {snapshots : List Snapshot} {rows : List PriceRow}
    (hrows : snapshots.mapM Snapshot.row? = some rows) :
    s.insertSnapshots snapshots =
      oneByOne (fun snapshot => insertSnapshots [snapshot]) snapshots s := by
  have hstore := @oneByOne_onDatabase _ (fun snapshot => insertSnapshots [snapshot]) _ s
    (fun _ _ => rfl) snapshots s.database
  refine Eq.trans ?_ hstore.symm
  rw [insertSnapshots, (Database.inserts_insertSnapshots s.priceTable).insertAll_eq_oneByOne
    Database.insertSnapshots_of_ne hrows]

theorem countProducts_of_products {old : List ProductRow}
    (h : s.database.find? s.productTable = some (.products old)) :
    s.countProducts = .ok old.length := by
  rw [countProducts, Database.count, h]
  rfl

theorem countSnapshots_of_prices {old : List PriceRow}
    (h : s.database.find? s.priceTable = some (.prices old)) :
    s.countSnapshots = .ok old.length := by
  rw [countSnapshots, Database.count, h]
  rfl

/-- **Many rows are inserted like one after the other.** So a table takes the first row of each key
that it does not have, and the answer is how many keys these are, which is by how much the count of
the table's rows has grown. Snapshots must have prices that are numbers. -/
theorem many_rows_are_inserted_one_by_one (s : Store) :
    (∀ rows : List ProductRow,
      s.insertProducts rows = oneByOne (fun row => insertProducts [row]) rows s ∧
      ∀ old, s.database.productRows? s.productTable = some old →
        ∃ s', s.insertProducts rows = (.ok (newKeys ProductRow.key old rows).card, s') ∧
          s'.database.productRows? s.productTable = some (old ++ newRows ProductRow.key old rows) ∧
          s.countProducts = .ok old.length ∧
          s'.countProducts = .ok (old.length + (newKeys ProductRow.key old rows).card)) ∧
    ∀ snapshots : List Snapshot, (∀ x ∈ snapshots, x.currentPrice.isNaN = false) →
      s.insertSnapshots snapshots =
        oneByOne (fun snapshot => insertSnapshots [snapshot]) snapshots s ∧
      ∀ old, s.database.priceRows? s.priceTable = some old →
        ∃ rows s', snapshots.mapM Snapshot.row? = some rows ∧
          s.insertSnapshots snapshots = (.ok (newKeys PriceRow.key old rows).card, s') ∧
          s'.database.priceRows? s.priceTable = some (old ++ newRows PriceRow.key old rows) ∧
          s.countSnapshots = .ok old.length ∧
          s'.countSnapshots = .ok (old.length + (newKeys PriceRow.key old rows).card) := by
  refine ⟨fun rows => ⟨s.insertProducts_eq_oneByOne rows, fun old hold => ?_⟩,
    fun snapshots hnumbers => ?_⟩
  · have htable := Database.productRows?_eq_some.1 hold
    obtain ⟨db, hdb, htable', -⟩ := insertProducts_of_products htable rows
    rw [length_newRows] at hdb
    rw [foldl_insertNew] at htable'
    refine ⟨_, hdb, Database.productRows?_eq_some.2 htable', countProducts_of_products htable, ?_⟩
    rw [countProducts_of_products htable', List.length_append, length_newRows]
  · obtain ⟨rows, hrows⟩ := exists_mapM_row?_iff.2 hnumbers
    refine ⟨s.insertSnapshots_eq_oneByOne hrows, fun old hold => ?_⟩
    have htable := Database.priceRows?_eq_some.1 hold
    obtain ⟨db, hdb, htable', -⟩ := insertSnapshots_of_prices htable hrows
    rw [length_newRows] at hdb
    rw [foldl_insertNew] at htable'
    refine ⟨rows, _, hrows, hdb, Database.priceRows?_eq_some.2 htable',
      countSnapshots_of_prices htable, ?_⟩
    rw [countSnapshots_of_prices htable', List.length_append, length_newRows]

/-- Each table has a row of a bell. Of three products two are new, as the bell is known. Of three
prices one is new, which comes twice. -/
theorem known_bell_not_inserted_again :
    let bell : ProductRow := ⟨"shop", "1", "Bell", "/bell", none⟩
    let day : Date := ⟨2026, 10, 16, by decide⟩
    let price : PriceRow := ⟨"shop", "1", day.text, 99, none, true⟩
    let db : Database :=
      { tables := [⟨"products", .products [bell]⟩, ⟨"prices", .prices [price]⟩] }
    let s : Store := ⟨db, "products", "prices", by decide, by decide⟩
    let products : List ProductRow := [⟨"shop", "2", "Lamp", "/lamp", none⟩,
      ⟨"shop", "1", "Gong", "/gong", none⟩, ⟨"shop", "3", "Horn", "/horn", none⟩]
    let later : Date := ⟨2026, 10, 17, by decide⟩
    let snapshots : List Snapshot := [⟨"shop", "1", later, 80, some 99, true⟩,
      ⟨"shop", "1", day, 80, none, true⟩, ⟨"shop", "1", later, 70, none, false⟩]
    (∀ x ∈ snapshots, x.currentPrice.isNaN = false) ∧
      (∃ s', s.insertProducts products = (.ok 2, s') ∧ s.countProducts = .ok 1 ∧
        s'.countProducts = .ok 3) ∧
      ∃ s', s.insertSnapshots snapshots = (.ok 1, s') ∧ s.countSnapshots = .ok 1 ∧
        s'.countSnapshots = .ok 2 := by
  intro bell day price db s products later snapshots
  have hname : Database.sameName "products" "prices" = false := by decide +kernel
  have holds : s.Holds [bell] [price] :=
    ⟨by simp [s, db, Database.find?], by simp [s, db, Database.find?, hname]⟩
  have hnumbers : ∀ x ∈ snapshots, x.currentPrice.isNaN = false := by
    simp only [snapshots, List.forall_mem_cons]
    decide +kernel
  obtain ⟨hproducts, hprices⟩ := many_rows_are_inserted_one_by_one s
  obtain ⟨s₁, hs₁, -, hold, hnew⟩ := (hproducts products).2 [bell]
    (Database.productRows?_eq_some.2 holds.products)
  obtain ⟨rows, s₂, hrows, hs₂, -, hold', hnew'⟩ := (hprices snapshots hnumbers).2 [price]
    (Database.priceRows?_eq_some.2 holds.prices)
  have hcard : (newKeys ProductRow.key [bell] products).card = 2 := by decide +kernel
  have hcard' : (newKeys PriceRow.key [price] rows).card = 1 := by
    rw [← Database.filterMap_of_mapM hrows]
    decide +kernel
  rw [hcard] at hs₁ hnew
  rw [hcard'] at hs₂ hnew'
  exact ⟨hnumbers, ⟨s₁, hs₁, hold, hnew⟩, s₂, hs₂, hold', hnew'⟩

end Store

end PriceTracker.Storage
