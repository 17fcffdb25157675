import PriceTracker.Crawl.Site
import PriceTracker.Settings.Validation

/-!
# Starting a crawl

A crawl starts on a database in which both tables are there, with a name that can be sent in a
header. It begins at the start page of the settings, or at given category pages. If it cannot
start, the database stays as it is and no page is asked for.

* `Crawl.start` sets a crawl up;
* `Crawl.fill` sets one up, runs it on a site and gives back the database.
-/

namespace PriceTracker

open Storage (Database DatabaseFault Store StorageError)

/-- Why a crawl gives no tally. -/
inductive CrawlFailure where
  /-- The store cannot be used. -/
  | storage (cause : StorageError)
  /-- The name of the crawler cannot be sent. -/
  | badHeader
  /-- The start page is no URL. -/
  | badUrl (cause : Url.ParseError)
  /-- The run ended early. -/
  | run (cause : RunFailure)
  deriving DecidableEq, Repr

/-- The wording of the failure. -/
def CrawlFailure.message : CrawlFailure → String
  | .storage cause => s!"Storage error: {cause.message}"
  | .badHeader => "HTTP client error: builder error: failed to parse header value"
  | .badUrl cause => s!"URL parse error: {cause.message}"
  | .run cause => cause.message

namespace Crawl

/-- The crawl that settings ask for, on a database. -/
def start (settings : Settings) (categories : List Url)
    (database : Except DatabaseFault Database) : Except CrawlFailure (Crawl Store) := do
  let d := settings.database
  let store ← (Store.connect database d.productTable d.priceTable).mapError .storage
  store.verify.mapError .storage
  if !isHeaderValue settings.agent.header then throw .badHeader
  let crawl := ofSettings settings.crawl store
  if categories.isEmpty then
    let root ← (Url.parse settings.crawl.startUrl).mapError .badUrl
    return crawl.seedRoot root
  else return crawl.seedCategories categories

/-- Crawls a site on a day, to be stopped at a time if one is given. The result goes with the
database afterwards, if there is one. -/
def fill (settings : Settings) (categories : List Url) (site : Site) (day : Date)
    (stop : Option Nat) (database : Except DatabaseFault Database) :
    Option (Except CrawlFailure Tally) × Except DatabaseFault Database :=
  match start settings categories database with
  | .error failure => (some (.error failure), database)
  | .ok crawl =>
    let (result, crawl) := crawl.runOn site (storeSink day) stop
    (result.map (·.mapError .run), .ok crawl.buffer.sink.database)

/-- A crawl that cannot start leaves the database as it is. -/
theorem fill_of_start_eq_error {settings : Settings} {categories : List Url} {site : Site}
    {day : Date} {stop : Option Nat} {database : Except DatabaseFault Database}
    {failure : CrawlFailure} (h : start settings categories database = .error failure) :
    fill settings categories site day stop database = (some (.error failure), database) := by
  simp [fill, h]

end Crawl

end PriceTracker
