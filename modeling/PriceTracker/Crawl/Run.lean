import PriceTracker.Catalog
import PriceTracker.Crawl.Buffer
import PriceTracker.Crawl.Frontier
import PriceTracker.Crawl.Tally
import PriceTracker.Settings.Basic
import PriceTracker.Web.Reply

/-!
# The crawl

A crawl takes pages from its frontier, one at a time. The root page is read for category links,
listing pages for products, which go to the record buffer, and for pagination links; all links go
to the frontier. A run ends when the frontier is empty or the page limit is reached, when a batch
cannot be written, or when it is stopped from outside.

* `Crawl.await` is the only part of a page's work that takes time, and so the only part in which a
  run can be stopped once it has taken the page.
* `Crawl.read` is all that a fetched page does to the crawl, in no time.
* `Crawl.step` is one turn of the loop and `Crawl.runFor` a bounded number of turns.

Times are in milliseconds.
-/

namespace PriceTracker

/-- Why a run ended early. -/
inductive RunFailure where
  /-- A batch was not accepted. -/
  | write (failure : WriteFailure)
  /-- The run was stopped with this many records not written. -/
  | aborted (pending : Nat)
  deriving DecidableEq, Repr

/-- The wording of the failure. -/
def RunFailure.message : RunFailure → String
  | .write (.refused error) => error.message
  | .write .crashed => "The sink broke down"
  | .aborted pending => s!"Crawl aborted with {pending} buffered records not written"

/-- A crawl that writes to a sink of state `σ`. -/
structure Crawl (σ : Type) where
  /-- The availability text of a product in stock. -/
  label : String
  /-- The number of visited pages after which the crawl ends. -/
  maxPages : Option Nat := none
  frontier : Frontier
  buffer : RecordBuffer σ
  stage : CrawlStage := .start
  tally : Tally := {}
  /-- The time since the crawl was set up. -/
  clock : Nat := 0
  /-- The requests so far and their times, in order. -/
  requests : List (Url × Nat) := []

namespace Crawl

variable {σ : Type}

/-! ## Setting up -/

/-- A crawl of the given parts that has done nothing yet. -/
def fresh (label : String) (maxPages : Option Nat) (frontier : Frontier) (sink : σ)
    (batchSize : Nat) : Crawl σ where
  label
  maxPages
  frontier
  buffer := .empty sink batchSize

/-- A crawl with nothing to do yet. -/
def ofSettings (s : CrawlSettings) (sink : σ) : Crawl σ :=
  fresh s.inStockLabel s.maxPages { delay := s.requestDelay } sink s.batchSize

/-- Queues the root page. -/
def seedRoot (url : Url) (c : Crawl σ) : Crawl σ :=
  { c with frontier := c.frontier.push ⟨url, .categoryDiscovery⟩ }

/-- Queues listing pages. -/
def seedCategories (urls : List Url) (c : Crawl σ) : Crawl σ :=
  { c with frontier := c.frontier.pushAll (urls.map fun url => ⟨url, .productExtraction⟩) }

/-- Hands the collected records to the sink, and tells how many. -/
def flush (s : Sink σ) (c : Crawl σ) : Except WriteFailure Nat × Crawl σ :=
  let (result, buffer) := c.buffer.flush s
  (result, { c with buffer })

/-! ## Ending -/

/-- Takes the numbers of batches and records written over from the buffer. -/
def settle (c : Crawl σ) : Crawl σ :=
  { c with tally := { c.tally with
      batchesWritten := c.buffer.batches
      recordsWritten := c.buffer.records } }

/-- Ends the crawl: writes what is left, unless the sink does not accept it. -/
def finish (s : Sink σ) (c : Crawl σ) : Except RunFailure Tally × Crawl σ :=
  match c.flush s with
  | (.error failure, c) => (.error (.write failure), c)
  | (.ok _, c) =>
    let c := { c with stage := .done }.settle
    (.ok c.tally, c)

/-- Ends the crawl and leaves the collected records unwritten. -/
def abort (c : Crawl σ) : Except RunFailure Tally × Crawl σ :=
  (.error (.aborted c.buffer.pending.length), { c with stage := .done }.settle)

/-! ## Reading a page -/

/-- Queues the category pages that a root page leads to, and counts the new ones. -/
def discover (urls : List Url) (c : Crawl σ) : Crawl σ :=
  let next := c.seedCategories urls
  { next with tally := { c.tally with
      categoriesDiscovered :=
        c.tally.categoriesDiscovered + (next.frontier.seen.length - c.frontier.seen.length) } }

/-- Collects the records of product blocks in order, up to the first batch that is not accepted. -/
def collect (s : Sink σ) :
    List (Except ExtractionError ProductRecord) → Crawl σ → Except WriteFailure Unit × Crawl σ
  | [], c => (.ok (), c)
  | .error _ :: blocks, c =>
    collect s blocks
      { c with tally := { c.tally with recordsDropped := c.tally.recordsDropped + 1 } }
  | .ok r :: blocks, c =>
    let tally := { c.tally with recordsExtracted := c.tally.recordsExtracted + 1 }
    match c.buffer.append s r with
    | (.ok _, buffer) => collect s blocks { c with tally, buffer }
    | (.error failure, buffer) => (.error failure, { c with tally, buffer })

/-- Counts a fetched page. -/
def countPage (c : Crawl σ) : Crawl σ :=
  { c with tally := { c.tally with pagesParsed := c.tally.pagesParsed + 1 } }

/-- What a fetched page does to the crawl. The pagination links of a page are queued after its
records are collected, and so not at all if a batch is not accepted. -/
def read (s : Sink σ) (task : CrawlTask) (page : String) (c : Crawl σ) :
    Except WriteFailure Unit × Crawl σ :=
  let c := c.countPage
  if task.stage == .categoryDiscovery then
    (.ok (), c.discover (Catalog.categories page task.url))
  else
    let listing := Catalog.listing c.label page task.url
    match c.collect s listing.products with
    | (.ok (), c) => (.ok (), c.seedCategories listing.nextPages)
    | failed => failed

/-- What the answer to a request does to the crawl. A page that could not be fetched is only
counted. -/
def receive (s : Sink σ) (task : CrawlTask) (body : Except FetchError String) (c : Crawl σ) :
    Except WriteFailure Unit × Crawl σ :=
  match body with
  | .ok page => c.read s task page
  | .error _ => (.ok (), { c with tally := { c.tally with pagesFailed := c.tally.pagesFailed + 1 } })

/-! ## Time -/

/-- Whether the run has to stop at the time. -/
def isStopped (stop : Option Nat) (time : Nat) : Bool :=
  stop.any (· ≤ time)

/-- Waits until the time, unless the run has to stop by then; then there is nothing, and it is the
time of the stop. Waiting for a time that has come cannot be stopped. -/
def waitUntil (stop : Option Nat) (time : Nat) (c : Crawl σ) : Option Unit × Crawl σ :=
  match stop with
  | some stop =>
    if c.clock < time && stop ≤ time then (none, { c with clock := stop })
    else (some (), { c with clock := time })
  | none => (some (), { c with clock := time })

/-- Asks for a page. -/
def request (url : Url) (c : Crawl σ) : Crawl σ :=
  { c with
    frontier := c.frontier.letThrough c.clock
    requests := c.requests ++ [(url, c.clock)] }

/-- Waits for the turn of the task, asks for its page and waits for the answer, unless the run is
stopped on the way. -/
def await (web : Web) (stop : Option Nat) (task : CrawlTask) (c : Crawl σ) :
    Option (Except FetchError String) × Crawl σ :=
  let c := { c with stage := task.stage }
  match c.waitUntil stop (c.frontier.turn c.clock) with
  | (none, c) => (none, c)
  | (some (), c) =>
    let c := c.request task.url
    let reply := web task.url
    match c.waitUntil stop (c.clock + reply.delay) with
    | (none, c) => (none, c)
    | (some (), c) => (some reply.body, c)

/-! ## Running -/

/-- Whether as many pages were visited as the limit admits. -/
def limitReached (c : Crawl σ) : Bool :=
  c.maxPages.any (· ≤ c.tally.pagesVisited)

/-- Works on a task: `none` if the run goes on. A task of a stage that reads no pages is left
out. -/
def perform (web : Web) (s : Sink σ) (stop : Option Nat) (task : CrawlTask) (c : Crawl σ) :
    Option (Except RunFailure Tally) × Crawl σ :=
  if isStopped stop c.clock then
    let (result, c) := c.abort
    (some result, c)
  else if !task.stage.handlesPages then (none, c)
  else
    match c.await web stop task with
    | (none, c) =>
      let (result, c) := c.abort
      (some result, c)
    | (some body, c) =>
      match c.receive s task body with
      | (.ok (), c) => (none, c)
      | (.error failure, c) => (some (.error (.write failure)), c)

/-- One turn of the loop: `none` if the run goes on. -/
def step (web : Web) (s : Sink σ) (stop : Option Nat) (c : Crawl σ) :
    Option (Except RunFailure Tally) × Crawl σ :=
  match c.frontier.next?, c.limitReached with
  | some (task, frontier), false => perform web s stop task { c with frontier }
  | _, _ =>
    let (result, c) := c.finish s
    (some result, c)

/-- At most so many turns of the loop: `none` if the run has not ended by then. -/
def runFor (web : Web) (s : Sink σ) (stop : Option Nat) :
    Nat → Crawl σ → Option (Except RunFailure Tally) × Crawl σ
  | 0, c => (none, c)
  | turns + 1, c =>
    match c.step web s stop with
    | (none, c) => runFor web s stop turns c
    | ended => ended

/-- Runs the crawl for at most so many turns, to be stopped at a time if one is given. A crawl that
is over stays as it is. -/
def run (web : Web) (s : Sink σ) (stop : Option Nat) (turns : Nat) (c : Crawl σ) :
    Option (Except RunFailure Tally) × Crawl σ :=
  if c.stage.isTerminal then (some (.ok c.tally), c) else runFor web s stop turns c

/-! ## Lemmas -/

/-- More turns do not change a run that has ended. -/
theorem runFor_add_of_ended {web : Web} {s : Sink σ} {stop : Option Nat} {turns : Nat}
    {c d : Crawl σ} {result : Except RunFailure Tally} (more : Nat)
    (h : runFor web s stop turns c = (some result, d)) :
    runFor web s stop (turns + more) c = (some result, d) := by
  induction turns generalizing c with
  | zero => simp [runFor] at h
  | succ turns ih =>
    rw [Nat.succ_add, runFor]
    rw [runFor] at h
    split at h
    · exact ih h
    · next ended hne =>
      cases hstep : c.step web s stop with
      | mk r c' =>
        cases r with
        | none => exact absurd hstep (hne c')
        | some r => simpa [hstep] using h

end Crawl

end PriceTracker
