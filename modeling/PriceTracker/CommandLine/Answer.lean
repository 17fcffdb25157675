import PriceTracker.CommandLine.Arguments
import PriceTracker.Crawl.Start
import PriceTracker.Report
import PriceTracker.Settings.Load

/-!
# Answers

What the program answers to its arguments: texts on the standard output and the standard error, and
an exit code, which is zero for success, one for a failure and two for arguments that are refused.
`answer` also gives the database back in the state in which the program leaves it.
-/

namespace PriceTracker.CommandLine

open Storage (Database DatabaseFault Store StorageError)

/-- What the program says. -/
structure Answer where
  exitCode : Nat := 0
  /-- The text on the standard output. -/
  output : String := ""
  /-- The lines on the standard error. -/
  errors : List String := []
  deriving DecidableEq, Repr, Inhabited

/-! ## Failures -/

/-- A failure with its causes, each behind the one it is the cause of. -/
structure Failure where
  message : String
  causes : List String := []
  deriving DecidableEq, Repr

/-- The lines of a cause, the later ones set in below the first. -/
def indented (first later : String) (cause : String) : List String :=
  match cause.splitOn "\n" with
  | [] => [first]
  | line :: lines => (first ++ line) :: lines.map (later ++ ·)

/-- The lines of causes: a single one is not numbered. -/
def causeLines : List String → List String
  | [] => []
  | [cause] => ["", "Caused by:"] ++ indented "    " "    " cause
  | causes =>
    ["", "Caused by:"] ++
      (causes.zipIdx.map fun (cause, i) => indented s!"    {i}: " "       " cause).flatten

/-- The lines of a failure. -/
def Failure.lines (f : Failure) : List String :=
  (s!"Error: {f.message}").splitOn "\n" ++ causeLines f.causes

/-- The answer of a program that fails after some output. -/
def Answer.ofFailure (output : List String) (f : Failure) : Answer where
  exitCode := 1
  output := Report.text output
  errors := f.lines

/-- The answer of a program that succeeds. -/
def Answer.ofOutput (output : List String) : Answer where
  output := Report.text output

/-- An error of the store and what caused it. -/
def storageCauses : StorageError → List String
  | .database fault => [StorageError.message (.database fault), fault.message]
  | error => [error.message]

/-- An error of the settings and what caused it. -/
def settingsCauses : SettingsError → List String
  | .missingFile => [SettingsError.missingFile.message, "No such file or directory (os error 2)"]
  | .fileNotText => [SettingsError.fileNotText.message, "stream did not contain valid UTF-8"]
  | error => [error.message]

/-- What caused a crawl to fail. -/
def crawlCauses : CrawlFailure → List String
  | .storage cause => storageCauses cause
  | .badHeader =>
    ["builder error: failed to parse header value", "failed to parse header value"]
  | .badUrl cause => [cause.message]
  | .run (.write (.refused error)) => storageCauses error.cause
  | .run _ => []

/-! ## What the program does -/

/-- What the program meets: the sources of its settings, the databases under their connections,
the site it crawls and the day. -/
structure Surroundings where
  environment : Environment := {}
  /-- The file of environment variables, if there is one. -/
  environmentFile : Option (List UInt8) := none
  /-- The content of a file. -/
  file : String → Option (List UInt8) := fun _ => none
  /-- The database of a connection; a new one is empty. -/
  database : String → Except DatabaseFault Database
  site : Site := {}
  day : Date

/-- Where the settings come from. -/
def Surroundings.sources (w : Surroundings) (o : Options) : Settings.Sources where
  environment := w.environment
  environmentFile := w.environmentFile
  settingsFile := o.settingsFile.map w.file

/-- Opens the store of the settings. -/
def openStore (d : DatabaseSettings) (database : Except DatabaseFault Database) :
    Except Failure Store :=
  (Store.connect database d.productTable d.priceTable).mapError fun e =>
    ⟨s!"Failed to open database {d.connection}", storageCauses e⟩

/-- Creates the tables. -/
def createTables (d : DatabaseSettings) (database : Except DatabaseFault Database) :
    Answer × Except DatabaseFault Database :=
  match openStore d database with
  | .error failure => (.ofFailure [] failure, database)
  | .ok store =>
    match store.createTables with
    | (.error e, store) =>
      (.ofFailure [] ⟨"Failed to create the product tables", storageCauses e⟩, .ok store.database)
    | (.ok (), store) => (.ofOutput (Report.tablesReady d), .ok store.database)

/-- The numbers of the store, if both tables are there. -/
def storeReport (d : DatabaseSettings) (database : Except DatabaseFault Database) :
    Except Failure (List String) := do
  let store ← openStore d database
  store.verify.mapError fun e => ⟨e.message, (storageCauses e).drop 1⟩
  let statistics ← store.statistics.mapError fun e =>
    let failure := CrawlFailure.storage e
    ⟨failure.message, crawlCauses failure⟩
  return Report.store statistics

/-- Shows the numbers of the store. -/
def showStore (d : DatabaseSettings) (database : Except DatabaseFault Database) : Answer :=
  let before := Report.databaseInUse d.connection
  match storeReport d database with
  | .error failure => .ofFailure before failure
  | .ok lines => .ofOutput (before ++ lines)

/-- Crawls the site. -/
def crawl (s : Settings) (categories : List Url) (site : Site) (day : Date)
    (database : Except DatabaseFault Database) : Answer × Except DatabaseFault Database :=
  match Crawl.fill s categories site day none database with
  | (some (.ok tally), database) => (.ofOutput (Report.tally tally), database)
  | (some (.error failure), database) =>
    (.ofFailure [] ⟨failure.message, crawlCauses failure⟩, database)
  | (none, database) => (.ofFailure [] ⟨"The crawl did not end", []⟩, database)

/-- Does what the options say, under checked settings. A dry run opens no database. -/
def perform (o : Options) (s : Settings) (w : Surroundings) : Answer × Option Database :=
  if o.dryRun then (.ofOutput (Report.dryRun s o.categories), none)
  else
    let database := w.database s.database.connection
    let (reply, database) :=
      if o.stats then (showStore s.database database, database)
      else if o.initSchema then createTables s.database database
      else crawl s o.categories w.site w.day database
    (reply, database.toOption)

/-- The name and version of the program. -/
def versionText : String := "bikero-scraper 1.0.0"

/-- The help text. -/
def helpText : List String :=
  ["A price tracker for the bikero.cz catalog",
    "",
    "Usage: bikero-scraper [OPTIONS]",
    "",
    "Options:",
    "  -c, --config <FILE>   Path to an optional TOML settings file",
    "  -v, --verbose...      Increase logging verbosity (-v, -vv, -vvv)",
    "  -q, --quiet           Suppress non-error output",
    "      --dry-run         Validate configuration and show what would be crawled without crawling",
    "      --stats           Show row counts from the database and exit",
    "      --init-schema     Create the product and price tables if missing and exit",
    "      --category <URL>  Crawl only this category listing (repeatable), skipping discovery",
    "  -h, --help            Print help",
    "  -V, --version         Print version"]

/-- What the program answers, with the connection and the database that it leaves, if it came to
open one. -/
def answer (arguments : List String) (w : Surroundings) : Answer × Option (String × Database) :=
  match readArguments arguments with
  | .error e => ({ exitCode := 2, errors := [s!"error: {e.message}"] }, none)
  | .ok .help => (.ofOutput helpText, none)
  | .ok .version => (.ofOutput [versionText], none)
  | .ok (.run o) =>
    match Settings.load (w.sources o) with
    | .error e => (.ofFailure [] ⟨"Failed to load configuration", settingsCauses e⟩, none)
    | .ok s =>
      let (reply, database) := perform o s w
      (reply, database.map (s.database.connection, ·))

end PriceTracker.CommandLine
