import PriceTracker.Proofs.Storage.Insertion

/-!
# Creating tables

`find?_createTable` and `find?_createIndex` say which tables there are after a table or an index
was created. So the two tables of a store are there, and empty, once they are created in a database
that had neither (`Store.holds_createTables`).
-/

namespace PriceTracker.Storage

namespace Database

/-- A table that was missing is empty once it is created, and the others are as before. -/
theorem find?_createTable {name : String} {empty : Table} {db db' : Database}
    (h : createTable name empty db = .ok db') (new : db.find? name = none) (other : String) :
    db'.find? other = (db.find? other).or (if sameName name other then some empty else none) := by
  rw [createTable, new] at h
  split at h
  · simp at h
  · split at h
    · next hold => simp at hold
    · split at h
      · simp at h
      · obtain rfl := Except.ok.inj h
        simp only [find?, List.find?_append, List.find?_singleton, Option.map_or]
        congr 1
        split <;> simp_all

theorem find?_createIndex {name table : String} {db db' : Database}
    (h : createIndex name table db = .ok db') (other : String) :
    db'.find? other = db.find? other := by
  unfold createIndex at h
  split at h
  · simp at h
  · split at h
    · simp at h
    · split at h <;> obtain rfl := Except.ok.inj h <;> rfl

theorem runAll_cons_ok {statement : Database → Except DatabaseFault Database}
    {rest : List (Database → Except DatabaseFault Database)} {db db' : Database}
    (h : runAll (statement :: rest) db = (.ok (), db')) :
    ∃ between, statement db = .ok between ∧ runAll rest between = (.ok (), db') := by
  rw [runAll] at h
  split at h
  · simp at h
  · next between hbetween => exact ⟨between, hbetween, h⟩

/-- What each statement keeps, all of them keep, also when one fails and the rest is left out. -/
theorem runAll_keeps {statements : List (Database → Except DatabaseFault Database)}
    {P : Database → Prop}
    (h : ∀ statement ∈ statements, ∀ db db', statement db = .ok db' → P db → P db')
    {db : Database} (hdb : P db) : P (runAll statements db).2 := by
  induction statements generalizing db with
  | nil => exact hdb
  | cons statement statements ih =>
    obtain ⟨hfirst, hrest⟩ := List.forall_mem_cons.1 h
    rw [runAll]
    split
    · exact hdb
    · next db' hdb' => exact ih hrest (hfirst db db' hdb' hdb)

end Database

namespace Store

/-- Tables that were missing are there and empty once they are created. -/
theorem holds_createTables {s s' : Store} (product : s.database.find? s.productTable = none)
    (price : s.database.find? s.priceTable = none)
    (names : Database.sameName s.productTable s.priceTable = false)
    (h : s.createTables = (.ok (), s')) : s'.Holds [] [] := by
  generalize hrun : s.database.createTables s.productTable s.priceTable = result at h
  obtain ⟨result, db⟩ := result
  rw [createTables, hrun] at h
  cases result with
  | error fault => simp [onDatabase, Except.mapError] at h
  | ok =>
    obtain ⟨-, rfl⟩ := Prod.mk.inj h
    obtain ⟨db₁, hdb₁, hrun⟩ := Database.runAll_cons_ok hrun
    obtain ⟨db₂, hdb₂, hrun⟩ := Database.runAll_cons_ok hrun
    obtain ⟨db₃, hdb₃, hrun⟩ := Database.runAll_cons_ok hrun
    obtain rfl : db₃ = db := congrArg Prod.snd hrun
    have hfind₁ := Database.find?_createTable hdb₁ product
    have hprice₁ : db₁.find? s.priceTable = none := by
      rw [hfind₁, price, names]
      rfl
    have hfind₂ := Database.find?_createTable hdb₂ hprice₁
    have hindex := Database.find?_createIndex hdb₃
    exact ⟨(hindex _).trans (by simp [hfind₂, hfind₁, product]),
      (hindex _).trans (by simp [hfind₂, hprice₁])⟩

/-- An empty store, with both tables. -/
def blank : Store :=
  (createTables ⟨{}, "products", "prices", by decide, by decide⟩).2

theorem holds_blank : blank.Holds [] [] :=
  holds_createTables (s := ⟨{}, "products", "prices", by decide, by decide⟩) rfl rfl
    (by decide +kernel) (Prod.ext (by decide +kernel) rfl)

end Store

end PriceTracker.Storage
