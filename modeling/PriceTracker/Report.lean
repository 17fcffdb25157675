import PriceTracker.Crawl.Tally
import PriceTracker.Settings.Basic
import PriceTracker.Storage.Store
import PriceTracker.Url.Basic

/-!
# Reports

What the program prints: the tally of a crawl, the numbers of the store, the settings of a dry run,
and the note that the tables are there. A report is a list of lines.
-/

namespace PriceTracker.Report

/-- The text of lines, each with its end. -/
def text (lines : List String) : String :=
  String.join (lines.map (· ++ "\n"))

/-- The tally of a crawl. -/
def tally (t : Tally) : List String :=
  ["=== Crawl Statistics ===",
    "",
    "Pages:",
    s!"  Categories discovered: {t.categoriesDiscovered}",
    s!"  Pages parsed: {t.pagesParsed}",
    s!"  Pages failed: {t.pagesFailed}",
    "",
    "Products:",
    s!"  Records extracted: {t.recordsExtracted}",
    s!"  Records dropped: {t.recordsDropped}",
    s!"  Records written: {t.recordsWritten} in {t.batchesWritten} batches"]

/-- The database that is in use. -/
def databaseInUse (connection : String) : List String :=
  [s!"Database: {connection}", ""]

/-- The numbers of the store. -/
def store (s : Storage.Store.Statistics) : List String :=
  let latest := match s.latest with
    | some day => day.text
    | none => "never"
  ["=== Store Statistics ===",
    "",
    s!"  Products ({s.productTable}): {s.products}",
    s!"  Price snapshots ({s.priceTable}): {s.snapshots}",
    s!"  Latest scrape: {latest}"]

/-- The pages that a crawl would begin at. -/
def beginning (startUrl : String) : List Url → List String
  | [] => [s!"✓ Would discover categories from {startUrl}"]
  | urls =>
    s!"✓ Would crawl {urls.length} given categories:" :: urls.map fun url => s!"  * {url.toString}"

/-- What a crawl would do under the settings. -/
def dryRun (s : Settings) (categories : List Url) : List String :=
  let pages := match s.crawl.maxPages with
    | some n => toString n
    | none => "unlimited"
  ["=== Bikero Scraper Dry Run ===",
    "",
    "Database:",
    s!"  Connection: {s.database.connection}",
    s!"  Product table: {s.database.productTable}",
    s!"  Price table: {s.database.priceTable}",
    "",
    "Crawler Configuration:",
    s!"  Start URL: {s.crawl.startUrl}",
    s!"  Batch size: {s.crawl.batchSize}",
    s!"  Request delay: {s.crawl.requestDelay}ms",
    s!"  Max pages: {pages}",
    s!"  In-stock label: {s.crawl.inStockLabel}",
    "",
    "User Agent:",
    s!"  {s.agent.header}",
    "",
    "✓ Configuration is valid"] ++ beginning s.crawl.startUrl categories

/-- The tables are there. -/
def tablesReady (d : DatabaseSettings) : List String :=
  [s!"✓ Tables '{d.productTable}' and '{d.priceTable}' are ready in {d.connection}"]

end PriceTracker.Report
