import PriceTracker.Storage.Database

/-!
# The store

A store is a database together with the names of the two tables that a crawl writes to. The tables
need not exist: `Store.createTables` makes them, and `Store.verify` tells whether they are there.

* `Store.insertProducts` and `Store.insertSnapshots` add what is new and skip what is there;
* `Store.writeBatch` writes records of one day, the products first.
-/

namespace PriceTracker.Storage

/-- A database with the names of its product table and its price table. -/
structure Store where
  database : Database
  productTable : String
  priceTable : String
  productTable_valid : isIdentifier productTable = true
  priceTable_valid : isIdentifier priceTable = true

namespace Store

/-- The store on a database, if both names are plain and the database could be opened. -/
def connect (database : Except DatabaseFault Database) (productTable priceTable : String) :
    Except StorageError Store :=
  if hProduct : isIdentifier productTable = true then
    if hPrice : isIdentifier priceTable = true then
      match database with
      | .ok db => .ok ⟨db, productTable, priceTable, hProduct, hPrice⟩
      | .error fault => .error (.database fault)
    else .error (.invalidIdentifier priceTable)
  else .error (.invalidIdentifier productTable)

/-- An operation of the database on behalf of the store. -/
def onDatabase {α : Type} (s : Store) (result : Except DatabaseFault α × Database) :
    Except StorageError α × Store :=
  (result.1.mapError .database, { s with database := result.2 })

/-- Creates the two tables where they are missing. -/
def createTables (s : Store) : Except StorageError Unit × Store :=
  s.onDatabase (s.database.createTables s.productTable s.priceTable)

/-- Whether both tables are there; otherwise the first that is missing. -/
def verify (s : Store) : Except StorageError Unit :=
  if !s.database.hasTable s.productTable then .error (.missingTable s.productTable)
  else if !s.database.hasTable s.priceTable then .error (.missingTable s.priceTable)
  else .ok ()

/-- Adds product rows and counts the new ones. -/
def insertProducts (rows : List ProductRow) (s : Store) : Except StorageError Nat × Store :=
  s.onDatabase (s.database.insertAll (Database.insertProducts s.productTable) rows)

/-- Adds the price rows of snapshots and counts the new ones. -/
def insertSnapshots (rows : List Snapshot) (s : Store) : Except StorageError Nat × Store :=
  s.onDatabase (s.database.insertAll (Database.insertSnapshots s.priceTable) rows)

/-! ## Statistics -/

/-- The number of product rows. -/
def countProducts (s : Store) : Except StorageError Nat :=
  (s.database.count s.productTable).mapError .database

/-- The number of price rows. -/
def countSnapshots (s : Store) : Except StorageError Nat :=
  (s.database.count s.priceTable).mapError .database

/-- The latest kept day. -/
def latestDay (s : Store) : Except StorageError (Option Date) :=
  match s.database.greatestDay? s.priceTable with
  | .error fault => .error (.database fault)
  | .ok none => .ok none
  | .ok (some text) =>
    match Date.read text with
    | .error cause => .error (.invalidDay text cause)
    | .ok day => .ok (some day)

/-- What the store holds, in numbers. -/
structure Statistics where
  productTable : String
  priceTable : String
  products : Nat
  snapshots : Nat
  latest : Option Date

/-- The numbers of the store. -/
def statistics (s : Store) : Except StorageError Statistics := do
  return {
    productTable := s.productTable
    priceTable := s.priceTable
    products := ← s.countProducts
    snapshots := ← s.countSnapshots
    latest := ← s.latestDay }

/-! ## Batches -/

/-- How many rows a batch added. -/
structure WriteCount where
  products : Nat
  snapshots : Nat
  deriving DecidableEq, Repr

/-- Writes records of one day: first their products, then their prices. If the prices fail, the
products stay written. -/
def writeBatch (day : Date) (records : List ProductRecord) (s : Store) :
    Except WriteError WriteCount × Store :=
  match s.insertProducts (records.map ProductRow.ofRecord) with
  | (.error cause, s) => (.error ⟨s.productTable, cause⟩, s)
  | (.ok products, s) =>
    match s.insertSnapshots (records.map (Snapshot.ofRecord day)) with
    | (.error cause, s) => (.error ⟨s.priceTable, cause⟩, s)
    | (.ok snapshots, s) => (.ok ⟨products, snapshots⟩, s)

end Store

end PriceTracker.Storage
