import Mathlib.Data.List.Forall2
import PriceTracker.Proofs.Storage.Creation

/-!
# Growing databases

Nothing that the store does removes or changes a row. Tables are created empty and grow by the first
row of each new key, so what they hold is determined by the inserts that succeeded.

* `Insertion` is an insert that succeeded, and `productsFor` and `pricesFor` are the rows that
  inserts gave to one table;
* `Database.Grows` relates a database, inserts and the database after them; it composes
  (`Grows.trans`);
* `grows_createTables`, `Store.grows_insertProducts` and `Store.grows_insertSnapshots`: it holds of
  all that changes a database, whether it succeeds or stops half-way;
* `Grows.productRows?_eq` and `Grows.priceRows?_eq`: so the tables of a database that was empty hold
  the first of the inserted rows for each key.
-/

namespace PriceTracker.Storage

/-! ## Inserts -/

/-- An insert that succeeded, with the table that it was for. -/
inductive Insertion where
  | products (table : String) (rows : List ProductRow)
  | prices (table : String) (snapshots : List Snapshot)

/-- The product rows that an insert gives to the table of a name. -/
def Insertion.productsFor (name : String) : Insertion → List ProductRow
  | .products table rows => if Database.sameName table name then rows else []
  | .prices _ _ => []

/-- The price rows that an insert gives to the table of a name. -/
def Insertion.pricesFor (name : String) : Insertion → List PriceRow
  | .products _ _ => []
  | .prices table snapshots =>
    if Database.sameName table name then snapshots.filterMap Snapshot.row? else []

/-- The product rows that inserts give to the table of a name, in order. -/
def productsFor (name : String) (insertions : List Insertion) : List ProductRow :=
  insertions.flatMap (Insertion.productsFor name)

/-- The price rows that inserts give to the table of a name, in order. -/
def pricesFor (name : String) (insertions : List Insertion) : List PriceRow :=
  insertions.flatMap (Insertion.pricesFor name)

/-- The snapshots that an insert has for the table of a name. -/
def Insertion.snapshotsFor (name : String) : Insertion → List Snapshot
  | .products _ _ => []
  | .prices table snapshots => if Database.sameName table name then snapshots else []

/-- The snapshots that inserts have for the table of a name, in order. -/
def snapshotsFor (name : String) (insertions : List Insertion) : List Snapshot :=
  insertions.flatMap (Insertion.snapshotsFor name)

/-- All current prices of the insert are numbers. -/
def Insertion.IsPriced : Insertion → Prop
  | .products _ _ => True
  | .prices _ snapshots => ∀ x ∈ snapshots, x.currentPrice.isNaN = false

theorem productsFor_append (name : String) (insertions more : List Insertion) :
    productsFor name (insertions ++ more) = productsFor name insertions ++ productsFor name more :=
  List.flatMap_append

theorem pricesFor_append (name : String) (insertions more : List Insertion) :
    pricesFor name (insertions ++ more) = pricesFor name insertions ++ pricesFor name more :=
  List.flatMap_append

@[simp] theorem productsFor_singleton (name : String) (insertion : Insertion) :
    productsFor name [insertion] = insertion.productsFor name :=
  List.flatMap_singleton _ _

@[simp] theorem pricesFor_singleton (name : String) (insertion : Insertion) :
    pricesFor name [insertion] = insertion.pricesFor name :=
  List.flatMap_singleton _ _

theorem forall₂_filterMap_row? {snapshots : List Snapshot}
    (h : ∀ x ∈ snapshots, x.currentPrice.isNaN = false) :
    List.Forall₂ Snapshot.IsKeptAs snapshots (snapshots.filterMap Snapshot.row?) := by
  induction snapshots with
  | nil => exact .nil
  | cons x snapshots ih =>
    obtain ⟨hx, hrest⟩ := List.forall_mem_cons.1 h
    cases hrow : x.row? with
    | none =>
      rw [Snapshot.row?_eq_none_iff.1 hrow] at hx
      cases hx
    | some row =>
      rw [List.filterMap_cons_some hrow]
      exact .cons (Snapshot.isKeptAs_of_row? hrow) (ih hrest)

/-- **The price rows that inserts give to a table say what was inserted.** -/
theorem forall₂_pricesFor {insertions : List Insertion} (h : ∀ i ∈ insertions, i.IsPriced)
    (name : String) :
    List.Forall₂ Snapshot.IsKeptAs (snapshotsFor name insertions) (pricesFor name insertions) := by
  induction insertions with
  | nil => exact .nil
  | cons insertion insertions ih =>
    obtain ⟨hfirst, hrest⟩ := List.forall_mem_cons.1 h
    rw [snapshotsFor, pricesFor, List.flatMap_cons, List.flatMap_cons]
    refine List.rel_append ?_ (ih hrest)
    cases insertion with
    | products table rows => exact .nil
    | prices table snapshots =>
      rw [Insertion.snapshotsFor, Insertion.pricesFor]
      split
      · exact forall₂_filterMap_row? hfirst
      · exact .nil

/-! ## One table -/

namespace Table

/-- The table after rows of its own kind were added to it. -/
def add (products : List ProductRow) (prices : List PriceRow) : Table → Table
  | .products rows => .products (products.foldl (insertNew ProductRow.key) rows)
  | .prices rows => .prices (prices.foldl (insertNew PriceRow.key) rows)

@[simp] theorem add_nil (t : Table) : t.add [] [] = t := by
  cases t <;> rfl

theorem add_add (t : Table) (products products' : List ProductRow)
    (prices prices' : List PriceRow) :
    (t.add products prices).add products' prices' =
      t.add (products ++ products') (prices ++ prices') := by
  cases t <;> simp only [add, List.foldl_append]

/-- Whether rows are of the kind of the table. -/
def Fits (products : List ProductRow) (prices : List PriceRow) : Table → Prop
  | .products _ => prices = []
  | .prices _ => products = []

theorem fits_nil (t : Table) : t.Fits [] [] := by
  cases t <;> rfl

theorem Fits.append {products products' : List ProductRow} {prices prices' : List PriceRow}
    {t : Table} (h : t.Fits products prices)
    (h' : (t.add products prices).Fits products' prices') :
    t.Fits (products ++ products') (prices ++ prices') := by
  cases t with
  | products => exact List.append_eq_nil_iff.2 ⟨h, h'⟩
  | prices => exact List.append_eq_nil_iff.2 ⟨h, h'⟩

/-- What becomes of a table, which may not be there, while some rows are added: it stays away, is
created empty, or was there. None of the rows is for a table that is not there or is of the other
kind. -/
inductive Grows (products : List ProductRow) (prices : List PriceRow) :
    Option Table → Option Table → Prop where
  | absent (hproducts : products = []) (hprices : prices = []) : Grows products prices none none
  | created {empty : Table} (h : empty.size = 0) (fits : empty.Fits products prices) :
      Grows products prices none (some (empty.add products prices))
  | kept {t : Table} (fits : t.Fits products prices) :
      Grows products prices (some t) (some (t.add products prices))

theorem grows_refl (t : Option Table) : Grows [] [] t t := by
  cases t with
  | none => exact .absent rfl rfl
  | some t =>
    have hkept : Grows [] [] (some t) (some (t.add [] [])) := .kept t.fits_nil
    rwa [add_nil] at hkept

theorem Grows.trans {products products' : List ProductRow} {prices prices' : List PriceRow}
    {a b c : Option Table} (h₁ : Grows products prices a b) (h₂ : Grows products' prices' b c) :
    Grows (products ++ products') (prices ++ prices') a c := by
  cases h₁ with
  | absent hproducts hprices =>
    rw [hproducts, hprices]
    exact h₂
  | created h fits =>
    cases h₂ with
    | kept fits' =>
      rw [add_add]
      exact .created h (fits.append fits')
  | kept fits =>
    cases h₂ with
    | kept fits' =>
      rw [add_add]
      exact .kept (fits.append fits')

/-- A table that was there is the same but for what was added. -/
theorem Grows.eq_of_some {products : List ProductRow} {prices : List PriceRow} {t : Table}
    {t' : Option Table} (h : Grows products prices (some t) t') :
    t' = some (t.add products prices) := by
  cases h
  rfl

/-- A table that was not there holds nothing but what was added. -/
theorem Grows.eq_of_none {products : List ProductRow} {prices : List PriceRow} {t : Table}
    (h : Grows products prices none (some t)) :
    ∃ empty : Table, empty.size = 0 ∧ t = empty.add products prices := by
  cases h with
  | created hempty fits => exact ⟨_, hempty, rfl⟩

end Table

/-! ## Databases -/

namespace Database

/-- All tables of the first database are in the second one, with the rows that they had in front;
new tables were empty at first. What was added are the rows of these inserts whose keys were new. -/
def Grows (db : Database) (insertions : List Insertion) (db' : Database) : Prop :=
  ∀ name, Table.Grows (productsFor name insertions) (pricesFor name insertions) (db.find? name)
    (db'.find? name)

variable {db db' db'' : Database} {insertions more : List Insertion} {name : String}

theorem grows_refl (db : Database) : db.Grows [] db :=
  fun _ => Table.grows_refl _

theorem Grows.trans (h₁ : db.Grows insertions db') (h₂ : db'.Grows more db'') :
    db.Grows (insertions ++ more) db'' := by
  intro name
  rw [productsFor_append, pricesFor_append]
  exact (h₁ name).trans (h₂ name)

/-! ### Creating tables -/

theorem grows_createTable {empty : Table} (hempty : empty.size = 0)
    (h : createTable name empty db = .ok db') : db.Grows [] db' := by
  cases hfind : db.find? name with
  | some t =>
    rw [createTable, hfind] at h
    split at h
    · simp at h
    · obtain rfl : db = db' := by simpa using h
      exact grows_refl db
  | none =>
    intro other
    rw [find?_createTable h hfind]
    cases db.find? other with
    | some t => exact Table.grows_refl (some t)
    | none =>
      cases sameName name other with
      | true =>
        have hcreated : Table.Grows [] [] none (some (empty.add [] [])) :=
          .created hempty empty.fits_nil
        rwa [Table.add_nil] at hcreated
      | false => exact Table.grows_refl none

theorem grows_createIndex {table : String} (h : createIndex name table db = .ok db') :
    db.Grows [] db' := by
  intro other
  rw [find?_createIndex h]
  exact Table.grows_refl _

theorem grows_createTables (productTable priceTable : String) (db : Database) :
    db.Grows [] (db.createTables productTable priceTable).2 := by
  refine runAll_keeps (fun statement hstatement between db' h hgrows => ?_) (grows_refl db)
  refine hgrows.trans ?_
  simp only [List.mem_cons, List.not_mem_nil, or_false] at hstatement
  obtain rfl | rfl | rfl := hstatement
  · exact grows_createTable rfl h
  · exact grows_createTable rfl h
  · exact grows_createIndex h

/-! ### Adding rows -/

section

variable {ι ρ κ : Type} [DecidableEq κ]
  {statement : List ι → Database → Except DatabaseFault (Nat × Database)}
  {wrap : List ρ → Table} {key : ρ → κ} {row? : ι → Option ρ} {items : List ι} {n : Nat}

/-- An insert makes its own table grow. It may succeed without one if it has nothing to add. -/
theorem Inserts.grows (inserts : Inserts statement name wrap key row?) {insertion : Insertion}
    (refused : (∀ old, db.find? name ≠ some (wrap old)) →
      ∃ fault, ∀ items, statement items db = .error fault)
    (here : ∀ other, sameName name other = true → ∀ old rows, items.mapM row? = some rows →
      (wrap old).Fits (insertion.productsFor other) (insertion.pricesFor other) ∧
        (wrap old).add (insertion.productsFor other) (insertion.pricesFor other) =
          wrap (rows.foldl (insertNew key) old))
    (elsewhere : ∀ other, sameName name other = false ∨ items = [] →
      insertion.productsFor other = [] ∧ insertion.pricesFor other = [])
    (h : db.insertAll statement items = (.ok n, db')) : db.Grows [insertion] db' := by
  intro other
  rw [productsFor_singleton, pricesFor_singleton]
  by_cases htable : ∃ old, db.find? name = some (wrap old)
  · obtain ⟨old, htable⟩ := htable
    cases hrows : items.mapM row? with
    | none =>
      obtain ⟨fault, hfault⟩ := inserts.insertAll_of_none htable hrows
      simp [hfault] at h
    | some rows =>
      obtain ⟨changed, hchanged, htable', hsame⟩ := inserts.insertAll_of_some htable hrows
      obtain ⟨-, rfl⟩ := Prod.mk.inj (hchanged.symm.trans h)
      cases hname : sameName name other with
      | true =>
        obtain ⟨hfits, hadd⟩ := here other hname old rows hrows
        rw [← find?_congr hname, ← find?_congr hname, htable, htable', ← hadd]
        exact .kept hfits
      | false =>
        obtain ⟨hproducts, hprices⟩ := elsewhere other (Or.inl hname)
        rw [hproducts, hprices, hsame other (sameName_comm name other ▸ hname)]
        exact Table.grows_refl _
  · obtain ⟨fault, hfault⟩ := refused fun old hold => htable ⟨old, hold⟩
    have hrefused := insertAll_of_refused hfault items
    rw [h] at hrefused
    obtain ⟨hanswer, rfl⟩ := Prod.mk.inj hrefused
    have hnil : items = [] := by
      by_contra hne
      simp [hne] at hanswer
    obtain ⟨hproducts, hprices⟩ := elsewhere other (Or.inr hnil)
    rw [hproducts, hprices]
    exact Table.grows_refl _

end

theorem grows_insertProducts {rows : List ProductRow} {n : Nat}
    (h : db.insertAll (insertProducts name) rows = (.ok n, db')) :
    db.Grows [.products name rows] db' := by
  refine (inserts_insertProducts name).grows insertProducts_of_ne ?_ ?_ h
  · intro other hname old all hall
    obtain rfl : rows = all := by simpa [mapM_some_eq] using hall
    simp [Insertion.productsFor, Insertion.pricesFor, Table.Fits, Table.add, hname]
  · rintro other (hname | rfl)
    · simp [Insertion.productsFor, Insertion.pricesFor, hname]
    · simp [Insertion.productsFor, Insertion.pricesFor]

theorem filterMap_of_mapM {α β : Type} {f : α → Option β} {l : List α} {ys : List β}
    (h : l.mapM f = some ys) : l.filterMap f = ys := by
  induction l generalizing ys with
  | nil => simpa using h
  | cons x l ih =>
    obtain ⟨y, zs, hy, hzs, rfl⟩ := mapM_cons_eq_some_iff.1 h
    rw [List.filterMap_cons_some hy, ih hzs]

theorem grows_insertSnapshots {snapshots : List Snapshot} {n : Nat}
    (h : db.insertAll (insertSnapshots name) snapshots = (.ok n, db')) :
    db.Grows [.prices name snapshots] db' := by
  refine (inserts_insertSnapshots name).grows insertSnapshots_of_ne ?_ ?_ h
  · intro other hname old rows hrows
    simp [Insertion.productsFor, Insertion.pricesFor, Table.Fits, Table.add, hname,
      filterMap_of_mapM hrows]
  · rintro other (hname | rfl)
    · simp [Insertion.productsFor, Insertion.pricesFor, hname]
    · simp [Insertion.productsFor, Insertion.pricesFor]

/-! ### What the tables hold -/

theorem productRows?_eq_some {rows : List ProductRow} :
    db.productRows? name = some rows ↔ db.find? name = some (.products rows) := by
  unfold productRows?
  split <;> simp_all

theorem priceRows?_eq_some {rows : List PriceRow} :
    db.priceRows? name = some rows ↔ db.find? name = some (.prices rows) := by
  unfold priceRows?
  split <;> simp_all

/-- **The rows of a table stay in front.** -/
theorem Grows.exists_productRows? (h : db.Grows insertions db') {rows : List ProductRow}
    (hrows : db.productRows? name = some rows) :
    ∃ new, db'.productRows? name = some (rows ++ new) := by
  have hname := h name
  rw [productRows?_eq_some.1 hrows] at hname
  refine ⟨newRows ProductRow.key rows (productsFor name insertions), ?_⟩
  rw [productRows?_eq_some, hname.eq_of_some, Table.add, foldl_insertNew]

theorem Grows.exists_priceRows? (h : db.Grows insertions db') {rows : List PriceRow}
    (hrows : db.priceRows? name = some rows) :
    ∃ new, db'.priceRows? name = some (rows ++ new) := by
  have hname := h name
  rw [priceRows?_eq_some.1 hrows] at hname
  refine ⟨newRows PriceRow.key rows (pricesFor name insertions), ?_⟩
  rw [priceRows?_eq_some, hname.eq_of_some, Table.add, foldl_insertNew]

theorem foldl_insertNew_nil {ρ κ : Type} [DecidableEq κ] {key : ρ → κ} (rows : List ρ) :
    rows.foldl (insertNew key) [] = firstBy key rows := by
  rw [foldl_insertNew, newRows_nil, List.nil_append]

/-- **A product table holds the first inserted row of each key**, and there was none for a table that
is not there. -/
theorem Grows.productRows?_eq (h : ({} : Database).Grows insertions db) (name : String) :
    (db.productRows? name).getD [] = firstBy ProductRow.key (productsFor name insertions) := by
  have hname : Table.Grows _ _ none (db.find? name) := h name
  rw [productRows?]
  generalize db.find? name = t at hname ⊢
  cases hname with
  | absent hproducts =>
    rw [hproducts]
    rfl
  | @created empty hempty fits =>
    cases empty with
    | products old =>
      obtain rfl := List.length_eq_zero_iff.1 hempty
      exact foldl_insertNew_nil _
    | prices old =>
      replace fits : productsFor name insertions = [] := fits
      rw [fits]
      rfl

/-- **A price table holds the first inserted row of each key**, and there was none for a table that
is not there. -/
theorem Grows.priceRows?_eq (h : ({} : Database).Grows insertions db) (name : String) :
    (db.priceRows? name).getD [] = firstBy PriceRow.key (pricesFor name insertions) := by
  have hname : Table.Grows _ _ none (db.find? name) := h name
  rw [priceRows?]
  generalize db.find? name = t at hname ⊢
  cases hname with
  | absent _ hprices =>
    rw [hprices]
    rfl
  | @created empty hempty fits =>
    cases empty with
    | products old =>
      replace fits : pricesFor name insertions = [] := fits
      rw [fits]
      rfl
    | prices old =>
      obtain rfl := List.length_eq_zero_iff.1 hempty
      exact foldl_insertNew_nil _

end Database

/-! ## Stores -/

namespace Store

variable {s s' : Store} {n : Nat}

theorem database_of_onDatabase_ok {α : Type} {result : Except DatabaseFault α × Database} {a : α}
    (h : s.onDatabase result = (.ok a, s')) : result = (.ok a, s'.database) := by
  obtain ⟨answer, db⟩ := result
  obtain ⟨hanswer, rfl⟩ := Prod.mk.inj h
  cases answer with
  | error => simp [Except.mapError] at hanswer
  | ok => simpa [Except.mapError] using hanswer

theorem grows_createTables (s : Store) : s.database.Grows [] s.createTables.2.database :=
  Database.grows_createTables _ _ _

theorem grows_insertProducts {rows : List ProductRow} (h : s.insertProducts rows = (.ok n, s')) :
    s.database.Grows [.products s.productTable rows] s'.database :=
  Database.grows_insertProducts (database_of_onDatabase_ok h)

theorem grows_insertSnapshots {snapshots : List Snapshot}
    (h : s.insertSnapshots snapshots = (.ok n, s')) :
    s.database.Grows [.prices s.priceTable snapshots] s'.database :=
  Database.grows_insertSnapshots (database_of_onDatabase_ok h)

end Store

end PriceTracker.Storage
