/-!
# Crawl stages

A crawl goes from the root page, whose category links it collects, to the listing pages, which
lead to each other through their pagination links, and then ends. `CrawlStage.canFollow` is the
order of the stages.
-/

namespace PriceTracker

/-- A stage of the crawl; for a queued page, the way it will be read. -/
inductive CrawlStage where
  /-- No page has been asked for. -/
  | start
  /-- The root page, read for category links. -/
  | categoryDiscovery
  /-- A listing page, read for products and pagination links. -/
  | productExtraction
  /-- The crawl is over. -/
  | done
  deriving DecidableEq, Repr, Inhabited

namespace CrawlStage

/-- The last stage. -/
def isTerminal (s : CrawlStage) : Bool :=
  s == .done

/-- The stages that a page can be read in. -/
def handlesPages (s : CrawlStage) : Bool :=
  s == .categoryDiscovery || s == .productExtraction

/-- Whether a crawl may go on from the first stage to the second. -/
def canFollow : CrawlStage → CrawlStage → Bool
  | .start, next => next != .start
  | .categoryDiscovery, next => next != .start
  | .productExtraction, next => next == .productExtraction || next == .done
  | .done, _ => false

/-- The written name of the stage. -/
def label : CrawlStage → String
  | .start => "start"
  | .categoryDiscovery => "category_discovery"
  | .productExtraction => "product_extraction"
  | .done => "done"

/-- The stage of a written name. -/
def ofLabel? : String → Option CrawlStage
  | "start" => some .start
  | "category_discovery" => some .categoryDiscovery
  | "product_extraction" => some .productExtraction
  | "done" => some .done
  | _ => none

end CrawlStage

end PriceTracker
