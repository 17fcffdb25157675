import PriceTracker.Storage.Error
import PriceTracker.Storage.Identifier
import PriceTracker.Storage.Row

/-!
# The database

A database holds tables of product rows or of price rows and the indexes on them. Tables and
indexes share one space of names, in which the case of ASCII letters does not count and names
starting with `sqlite_` belong to the database itself. Rows stay in the order in which they were
added.

A statement either fails or gives the changed database. Texts between double quotes that are no
column read as texts, so a price column that is asked of a table of product rows has its own name
as value in every row.
-/

namespace PriceTracker.Storage

/-- The rows of a table. -/
inductive Table where
  | products (rows : List ProductRow)
  | prices (rows : List PriceRow)

/-- The number of rows. -/
def Table.size : Table → Nat
  | .products rows => rows.length
  | .prices rows => rows.length

/-- A named table, under the spelling of the name that it was created with. -/
structure NamedTable where
  name : String
  table : Table

/-- An index, with the table it is on. -/
structure Index where
  name : String
  table : String
  deriving DecidableEq, Repr

/-- The tables and the indexes. -/
structure Database where
  tables : List NamedTable := []
  indexes : List Index := []
  deriving Inhabited

namespace Database

/-! ## Names -/

/-- Whether two names are the same to the database. -/
def sameName (a b : String) : Bool :=
  foldName a == foldName b

/-- A name that belongs to the database itself. -/
def isReserved (name : String) : Bool :=
  (foldName name).startsWith "sqlite_"

/-- How many entries the table of this name has, if it is one that lists what the database holds:
the tables, each with the index of its key, and the other indexes. The list of what is kept for one
session only is empty. -/
def catalogSize? (db : Database) (name : String) : Option Nat :=
  let name := foldName name
  if name == "sqlite_master" || name == "sqlite_schema" then
    some (2 * db.tables.length + db.indexes.length)
  else if name == "sqlite_temp_master" || name == "sqlite_temp_schema" then some 0
  else none

/-- The table of a name. -/
def find? (db : Database) (name : String) : Option Table :=
  (db.tables.find? (sameName ·.name name)).map (·.table)

/-- Whether there is an index of the name. -/
def hasIndex (db : Database) (name : String) : Bool :=
  db.indexes.any (sameName ·.name name)

/-- Whether a table was created under exactly this spelling. -/
def hasTable (db : Database) (name : String) : Bool :=
  db.tables.any (·.name == name)

/-- The fault of a change to a table which is not there, or which lists what is there. -/
def absent (db : Database) (name : String) : DatabaseFault :=
  if (db.catalogSize? name).isSome then .readOnlyTable name else .noSuchTable name

/-! ## Tables -/

/-- Puts other rows into the table of a name. -/
def replace (db : Database) (name : String) (table : Table) : Database :=
  { db with
    tables := db.tables.map fun t => if sameName t.name name then { t with table } else t }

/-- Creates an empty table, unless there is a table of the name. -/
def createTable (name : String) (empty : Table) (db : Database) : Except DatabaseFault Database :=
  if isReserved name then .error (.reservedName name)
  else if (db.find? name).isSome then .ok db
  else if db.hasIndex name then .error (.nameTaken name)
  else .ok { db with tables := db.tables ++ [⟨name, empty⟩] }

/-- Creates an index on a table, unless there is an index of the name. -/
def createIndex (name table : String) (db : Database) : Except DatabaseFault Database :=
  if (db.find? table).isNone then .error (.noSuchTable table)
  else if (db.find? name).isSome then .error (.nameTaken name)
  else if db.hasIndex name then .ok db
  else .ok { db with indexes := db.indexes ++ [⟨name, table⟩] }

/-- Removes a table and its indexes. -/
def dropTable (name : String) (db : Database) : Except DatabaseFault Database :=
  if (db.find? name).isNone then .error (db.absent name)
  else .ok {
    tables := db.tables.filter (!sameName ·.name name)
    indexes := db.indexes.filter (!sameName ·.table name) }

/-- Carries out statements in order up to the first that fails. What was done before it stays. -/
def runAll : List (Database → Except DatabaseFault Database) → Database →
    Except DatabaseFault Unit × Database
  | [], db => (.ok (), db)
  | statement :: rest, db =>
    match statement db with
    | .error fault => (.error fault, db)
    | .ok db => runAll rest db

/-- The name of the index on the days of a price table. -/
def dayIndexName (priceTable : String) : String :=
  s!"idx_{priceTable}_scraped_at"

/-- Creates a product table, a price table, and the index on its days. -/
def createTables (productTable priceTable : String) (db : Database) :
    Except DatabaseFault Unit × Database :=
  runAll [createTable productTable (.products []), createTable priceTable (.prices []),
    createIndex (dayIndexName priceTable) priceTable] db

/-! ## Adding rows -/

/-- Adds product rows in order, skipping those whose key is there; counts the new ones. -/
def insertProducts (name : String) (rows : List ProductRow) (db : Database) :
    Except DatabaseFault (Nat × Database) :=
  match db.find? name with
  | none => .error (db.absent name)
  | some (.prices _) => .error (.noSuchColumn name "name")
  | some (.products old) =>
    let all := rows.foldl (insertNew ProductRow.key) old
    .ok (all.length - old.length, db.replace name (.products all))

/-- Adds the price rows of snapshots in order, skipping those whose key is there; counts the new
ones. A snapshot without a current price fails them all. -/
def insertSnapshots (name : String) (snapshots : List Snapshot) (db : Database) :
    Except DatabaseFault (Nat × Database) :=
  match db.find? name with
  | none => .error (db.absent name)
  | some (.products _) => .error (.noSuchColumn name "scrapedAt")
  | some (.prices old) =>
    match snapshots.mapM Snapshot.row? with
    | none => .error (.missingValue name "currentPrice")
    | some rows =>
      let all := rows.foldl (insertNew PriceRow.key) old
      .ok (all.length - old.length, db.replace name (.prices all))

/-- Adds a price row, whose key may not be there. -/
def addPriceRow (name : String) (row : PriceRow) (db : Database) : Except DatabaseFault Database :=
  match db.find? name with
  | none => .error (db.absent name)
  | some (.products _) => .error (.noSuchColumn name "scrapedAt")
  | some (.prices old) =>
    if old.any (PriceRow.key · = row.key) then .error (.keyExists name)
    else .ok (db.replace name (.prices (old ++ [row])))

/-- The most rows that one statement adds. -/
def rowsPerStatement : Nat := 500

/-- Consecutive pieces of a list, all but the last of the given length. -/
def pieces {α : Type} (size : Nat) (xs : List α) : List (List α) :=
  if _h : 0 < size ∧ xs ≠ [] then xs.take size :: pieces size (xs.drop size) else []
termination_by xs.length
decreasing_by
  have := List.length_pos_iff.2 _h.2
  simp only [List.length_drop]
  omega

/-- Adds rows with one statement for each piece of the list, and counts the new ones. If a
statement fails, nothing is added. -/
def insertAll {ρ : Type} (statement : List ρ → Database → Except DatabaseFault (Nat × Database))
    (rows : List ρ) (db : Database) : Except DatabaseFault Nat × Database :=
  let step (done : Nat × Database) (piece : List ρ) : Except DatabaseFault (Nat × Database) := do
    let (count, db) ← statement piece done.2
    return (done.1 + count, db)
  match (pieces rowsPerStatement rows).foldlM step (0, db) with
  | .ok (count, changed) => (.ok count, changed)
  | .error fault => (.error fault, db)

/-! ## Asking -/

/-- The number of rows of a table. -/
def count (db : Database) (name : String) : Except DatabaseFault Nat :=
  match db.find? name with
  | some table => .ok table.size
  | none =>
    match db.catalogSize? name with
    | some size => .ok size
    | none => .error (.noSuchTable name)

/-- The greatest of some texts, in the order of their code points. -/
def greatest? (texts : List String) : Option String :=
  texts.foldl (fun best t =>
    match best with
    | none => some t
    | some b => if b < t then some t else some b) none

/-- The greatest kept day of a table, if it has rows. -/
def greatestDay? (db : Database) (name : String) : Except DatabaseFault (Option String) :=
  match db.find? name with
  | some (.prices rows) => .ok (greatest? (rows.map (·.scrapedAt)))
  | some (.products rows) => .ok (greatest? (rows.map fun _ => "scrapedAt"))
  | none =>
    match db.catalogSize? name with
    | some size => .ok (if size = 0 then none else some "scrapedAt")
    | none => .error (.noSuchTable name)

/-- The rows of a table of product rows. -/
def productRows? (db : Database) (name : String) : Option (List ProductRow) :=
  match db.find? name with
  | some (.products rows) => some rows
  | _ => none

/-- The rows of a table of price rows. -/
def priceRows? (db : Database) (name : String) : Option (List PriceRow) :=
  match db.find? name with
  | some (.prices rows) => some rows
  | _ => none

end Database

end PriceTracker.Storage
