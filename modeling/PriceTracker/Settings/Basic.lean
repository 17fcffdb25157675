/-!
# Settings

The settings of a crawl in three groups: where the rows go, how the site is crawled, and how the
crawler names itself. Each group of the crawl has defaults for what a settings file leaves out.
-/

namespace PriceTracker

/-- Where the rows go. -/
structure DatabaseSettings where
  /-- The path of the database file, or `:memory:`. -/
  connection : String
  productTable : String
  priceTable : String
  deriving DecidableEq, Repr, Inhabited

/-- How the site is crawled. -/
structure CrawlSettings where
  /-- The page that leads to all categories. -/
  startUrl : String := "https://www.bikero.cz/vyrobci-c56882/"
  /-- How many records are written at a time. -/
  batchSize : Nat := 10
  /-- The least time between two requests, in milliseconds. -/
  requestDelay : Nat := 250
  /-- The number of pages after which the crawl stops. -/
  maxPages : Option Nat := none
  /-- The availability text of a product in stock. -/
  inStockLabel : String := "Skladem"
  deriving DecidableEq, Repr, Inhabited

/-- How the crawler names itself. -/
structure AgentSettings where
  name : String := "bikero-scraper"
  version : String := "1.0.0"
  /-- A page about the crawler. -/
  contactUrl : Option String := none
  deriving DecidableEq, Repr, Inhabited

/-- The value of the User-Agent header: `name/version`, or `name/version (+contact)`. -/
def AgentSettings.header (a : AgentSettings) : String :=
  match a.contactUrl with
  | some url => s!"{a.name}/{a.version} (+{url})"
  | none => s!"{a.name}/{a.version}"

/-- A header value may hold no control character but the tab. -/
def isHeaderValue (s : String) : Bool :=
  s.toList.all fun c => c == '\t' || (0x20 ≤ c.toNat && c.toNat != 0x7F)

/-- All settings. -/
structure Settings where
  database : DatabaseSettings
  crawl : CrawlSettings := {}
  agent : AgentSettings := {}
  deriving DecidableEq, Repr, Inhabited

end PriceTracker
