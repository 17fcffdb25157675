import PriceTracker.Calendar.Reading

/-!
# Storage errors
-/

namespace PriceTracker.Storage

/-- Why the database refuses a statement. -/
inductive DatabaseFault where
  /-- The file cannot be opened. -/
  | cannotOpen (path : String)
  /-- There is no table of the name. -/
  | noSuchTable (name : String)
  /-- The table lacks a column. -/
  | noSuchColumn (table : String) (column : String)
  /-- The table belongs to the database itself. -/
  | readOnlyTable (name : String)
  /-- The name starts in the way of the database's own names. -/
  | reservedName (name : String)
  /-- A table and an index cannot share a name. -/
  | nameTaken (name : String)
  /-- A column that must have a value would have none. -/
  | missingValue (table : String) (column : String)
  /-- A row with the same key exists. -/
  | keyExists (table : String)
  deriving DecidableEq, Repr

/-- The wording of the fault. -/
def DatabaseFault.message : DatabaseFault → String
  | .cannotOpen path => s!"unable to open database file: {path}"
  | .noSuchTable name => s!"no such table: {name}"
  | .noSuchColumn table column => s!"table {table} has no column named {column}"
  | .readOnlyTable name => s!"table {name} may not be modified"
  | .reservedName name => s!"object name reserved for internal use: {name}"
  | .nameTaken name => s!"there is already another object named {name}"
  | .missingValue table column => s!"NOT NULL constraint failed: {table}.{column}"
  | .keyExists table => s!"UNIQUE constraint failed: {table}"

/-- Why an operation of the store fails. -/
inductive StorageError where
  /-- A table that should be there is not. -/
  | missingTable (name : String)
  /-- A table name is no plain identifier. -/
  | invalidIdentifier (name : String)
  /-- A kept day is no date. -/
  | invalidDay (text : String) (cause : DateError)
  /-- The database refuses. -/
  | database (fault : DatabaseFault)
  deriving DecidableEq, Repr

/-- The wording of the error. -/
def StorageError.message : StorageError → String
  | .missingTable name => s!"Table {name} does not exist"
  | .invalidIdentifier name => s!"Invalid table name: '{name}'"
  | .invalidDay text cause => s!"Invalid stored value: scrapedAt '{text}': {cause.message}"
  | .database fault => s!"SQLite error: {fault.message}"

/-- A batch that could not be written, with the table that refused it. -/
structure WriteError where
  table : String
  cause : StorageError
  deriving DecidableEq, Repr

/-- The wording of the error. -/
def WriteError.message (e : WriteError) : String :=
  s!"Write to table '{e.table}' failed: {e.cause.message}"

end PriceTracker.Storage
