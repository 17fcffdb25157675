/-!
# The tally of a crawl

What a crawl counts on its way. The numbers of batches and records written are taken over from the
record buffer when the crawl ends.
-/

namespace PriceTracker

/-- The counters of a crawl. -/
structure Tally where
  /-- Category pages that the root page led to. -/
  categoriesDiscovered : Nat := 0
  /-- Pages that were fetched and read. -/
  pagesParsed : Nat := 0
  /-- Pages that could not be fetched. -/
  pagesFailed : Nat := 0
  /-- Product blocks that gave a record. -/
  recordsExtracted : Nat := 0
  /-- Product blocks that gave none. -/
  recordsDropped : Nat := 0
  /-- Batches written. -/
  batchesWritten : Nat := 0
  /-- Records written. -/
  recordsWritten : Nat := 0
  deriving DecidableEq, Repr, Inhabited

/-- The pages that were asked for and answered, well or badly. -/
def Tally.pagesVisited (t : Tally) : Nat :=
  t.pagesParsed + t.pagesFailed

end PriceTracker
