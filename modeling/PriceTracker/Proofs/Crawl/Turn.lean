import PriceTracker.Crawl.Run
import PriceTracker.Proofs.Delivery.Ledger

/-!
# One turn of a crawl

What the parts of a turn do to a crawl, said once, so that no other module unfolds them.

* `await_eq_some` and `await_eq_none`: a page that is waited for changes the time, the stage and
  the requests only;
* `collect_snd`: the product blocks of a page are appended to the buffer one by one, as far as
  `RecordBuffer.consumed` goes;
* `read_root`, `read_listing`: a root page is read for links, any other for products and links;
* `buffer_receive`, `frontier_receive_of_ok`: a page changes the buffer by appends and the frontier
  by the tasks that it leads to;
* `finish_outcome` and `turn_of_step`: the ways in which the end of a crawl and a turn can go.
-/

namespace PriceTracker

/-! ## What a page holds -/

namespace CrawlTask

/-- The tasks that the answer to the request of a task leads to. -/
def leadsTo (task : CrawlTask) : Except FetchError String → List CrawlTask
  | .error _ => []
  | .ok page =>
    let urls :=
      if task.stage == .categoryDiscovery then Catalog.categories page task.url
      else (Catalog.listing "" page task.url).nextPages
    urls.map fun url => ⟨url, .productExtraction⟩

/-- The product blocks in the answer to the request of a task. A root page is not read for
products. -/
def blocks (label : String) (task : CrawlTask) :
    Except FetchError String → List (Except ExtractionError ProductRecord)
  | .error _ => []
  | .ok page =>
    if task.stage == .categoryDiscovery then []
    else (Catalog.listing label page task.url).products

variable {task : CrawlTask}

theorem leadsTo_root (h : task.stage = .categoryDiscovery) (page : String) :
    task.leadsTo (.ok page) =
      (Catalog.categories page task.url).map fun url => ⟨url, .productExtraction⟩ := by
  simp only [leadsTo, h, beq_self_eq_true, if_true]

/-- The label tells which products are in stock and does not matter to the links. -/
theorem leadsTo_listing (h : task.stage ≠ .categoryDiscovery) (label page : String) :
    task.leadsTo (.ok page) =
      (Catalog.listing label page task.url).nextPages.map
        fun url => ⟨url, .productExtraction⟩ := by
  rw [leadsTo, if_neg (by simpa using h)]
  rfl

theorem blocks_root (h : task.stage = .categoryDiscovery) (label page : String) :
    task.blocks label (.ok page) = [] := by
  simp only [blocks, h, beq_self_eq_true, if_true]

theorem blocks_listing (h : task.stage ≠ .categoryDiscovery) (label page : String) :
    task.blocks label (.ok page) = (Catalog.listing label page task.url).products := by
  rw [blocks, if_neg (by simpa using h)]

end CrawlTask

/-- Links lead to listing pages only. -/
theorem CrawlTask.stage_of_mem_leadsTo {task next : CrawlTask} {body : Except FetchError String}
    (h : next ∈ task.leadsTo body) : next.stage = .productExtraction := by
  cases body with
  | error e => exact absurd h List.not_mem_nil
  | ok page =>
    obtain ⟨url, -, rfl⟩ := List.mem_map.1 h
    rfl

/-- The records among product blocks. -/
def recordsOf (blocks : List (Except ExtractionError ProductRecord)) : List ProductRecord :=
  blocks.filterMap Except.toOption

/-- How many product blocks give no record. -/
def droppedOf (blocks : List (Except ExtractionError ProductRecord)) : Nat :=
  blocks.countP (!·.isOk)

section

variable (r : ProductRecord) (e : ExtractionError)
  (blocks : List (Except ExtractionError ProductRecord))

@[simp] theorem recordsOf_nil : recordsOf [] = [] := rfl

@[simp] theorem recordsOf_ok_cons : recordsOf (.ok r :: blocks) = r :: recordsOf blocks := rfl

@[simp] theorem recordsOf_error_cons : recordsOf (.error e :: blocks) = recordsOf blocks := rfl

@[simp] theorem droppedOf_nil : droppedOf [] = 0 := rfl

@[simp] theorem droppedOf_ok_cons : droppedOf (.ok r :: blocks) = droppedOf blocks :=
  List.countP_cons_of_neg (by simp [Except.isOk, Except.toBool])

@[simp] theorem droppedOf_error_cons : droppedOf (.error e :: blocks) = droppedOf blocks + 1 :=
  List.countP_cons_of_pos rfl

end

namespace RecordBuffer

variable {σ : Type}

/-- The product blocks that a buffer is offered: all, or those up to the record whose append
fails. -/
def consumed (s : Sink σ) : List (Except ExtractionError ProductRecord) → RecordBuffer σ →
    List (Except ExtractionError ProductRecord)
  | [], _ => []
  | .error e :: blocks, b => .error e :: consumed s blocks b
  | .ok r :: blocks, b =>
    .ok r :: match b.append s r with
      | (.ok _, b) => consumed s blocks b
      | (.error _, _) => []

theorem consumed_prefix (s : Sink σ) (blocks : List (Except ExtractionError ProductRecord))
    (b : RecordBuffer σ) : b.consumed s blocks <+: blocks := by
  induction blocks generalizing b with
  | nil => exact List.prefix_rfl
  | cons block blocks ih =>
    cases block with
    | error e => exact List.cons_prefix_cons.2 ⟨rfl, ih b⟩
    | ok r =>
      refine List.cons_prefix_cons.2 ⟨rfl, ?_⟩
      split
      · exact ih _
      · exact List.nil_prefix

end RecordBuffer

namespace Crawl

variable {σ : Type} {web : Web} {s : Sink σ} {stop : Option Nat} {task : CrawlTask}
  {body : Except FetchError String}

/-! ## Collecting records -/

theorem collect_snd (s : Sink σ) (blocks : List (Except ExtractionError ProductRecord))
    (c : Crawl σ) :
    (c.collect s blocks).2 = { c with
      tally := { c.tally with
        recordsExtracted :=
          c.tally.recordsExtracted + (recordsOf (c.buffer.consumed s blocks)).length
        recordsDropped := c.tally.recordsDropped + droppedOf (c.buffer.consumed s blocks) }
      buffer := c.buffer.after s ((recordsOf (c.buffer.consumed s blocks)).map .append) } := by
  induction blocks generalizing c with
  | nil => rfl
  | cons block blocks ih =>
    cases block with
    | error e =>
      rw [collect, ih, RecordBuffer.consumed]
      simp [Nat.add_comm, Nat.add_assoc]
    | ok r =>
      rw [collect, RecordBuffer.consumed]
      cases happ : c.buffer.append s r with
      | mk result b =>
        have hb : c.buffer.perform s (.append r) = b := by simp [RecordBuffer.perform, happ]
        cases result with
        | ok =>
          simp only [ih]
          simp [hb, Nat.add_comm, Nat.add_assoc]
        | error => simp [hb]

/-- If no append fails, all blocks are worked on. -/
theorem consumed_of_collect_ok {blocks : List (Except ExtractionError ProductRecord)} {c : Crawl σ}
    (h : (c.collect s blocks).1 = .ok ()) : c.buffer.consumed s blocks = blocks := by
  induction blocks generalizing c with
  | nil => rfl
  | cons block blocks ih =>
    cases block with
    | error e =>
      rw [collect] at h
      rw [RecordBuffer.consumed]
      have hrest := ih h
      exact congrArg _ hrest
    | ok r =>
      rw [collect] at h
      rw [RecordBuffer.consumed]
      split at h
      · next happ => simpa [happ] using ih h
      · simp at h

/-- With a sink that accepts all, no append fails. -/
theorem collect_of_acceptsAll (h : s.AcceptsAll)
    (blocks : List (Except ExtractionError ProductRecord)) (c : Crawl σ) :
    (c.collect s blocks).1 = .ok () := by
  induction blocks generalizing c with
  | nil => rfl
  | cons block blocks ih =>
    cases block with
    | error e => exact ih _
    | ok r =>
      obtain ⟨due, hdue⟩ := RecordBuffer.append_of_acceptsAll h r c.buffer
      rw [collect]
      split
      · exact ih _
      · next happ => simp [happ] at hdue

/-! ## Waiting for a page -/

/-- The crawl without the oldest task of its frontier. -/
def taken (c : Crawl σ) : Crawl σ :=
  { c with frontier := c.frontier.rest }

/-- The crawl at the time when the answer to the request of a task is there. -/
def answered (web : Web) (task : CrawlTask) (c : Crawl σ) : Crawl σ :=
  let turn := c.frontier.turn c.clock
  { c with
    stage := task.stage
    frontier := c.frontier.letThrough turn
    clock := turn + (web task.url).delay
    requests := c.requests ++ [(task.url, turn)] }

/-- Waiting changes the time only, and nothing else can come of it but a stop. -/
theorem waitUntil_eq_some {time : Nat} {c d : Crawl σ}
    (h : c.waitUntil stop time = (some (), d)) : d = { c with clock := time } := by
  unfold waitUntil at h
  split at h
  · split at h
    · simp at h
    · exact (Prod.mk.inj h).2.symm
  · exact (Prod.mk.inj h).2.symm

theorem waitUntil_eq_none {time : Nat} {c d : Crawl σ} (h : c.waitUntil stop time = (none, d)) :
    d = { c with clock := d.clock } ∧ stop = some d.clock := by
  unfold waitUntil at h
  split at h
  · split at h
    · obtain ⟨-, rfl⟩ := Prod.mk.inj h
      exact ⟨rfl, rfl⟩
    · simp at h
  · simp at h

/-- A page that was waited for is what the web answers. -/
theorem await_eq_some {c d : Crawl σ} (h : c.await web stop task = (some body, d)) :
    body = (web task.url).body ∧ d = c.answered web task := by
  unfold await at h
  dsimp only at h
  split at h
  · simp at h
  · next hturn =>
    split at h
    · simp at h
    · next hreply =>
      obtain ⟨hbody, rfl⟩ := Prod.mk.inj h
      rw [waitUntil_eq_some hreply, waitUntil_eq_some hturn]
      exact ⟨(Option.some.inj hbody).symm, rfl⟩

/-- A run that is stopped in a page has asked for it or has not, and has done nothing else. -/
theorem await_eq_none {c d : Crawl σ} (h : c.await web stop task = (none, d)) :
    d = { c with stage := task.stage, clock := d.clock } ∨
      d = { c.answered web task with clock := d.clock } := by
  unfold await at h
  dsimp only at h
  split at h
  · next hturn =>
    obtain ⟨-, rfl⟩ := Prod.mk.inj h
    exact Or.inl (waitUntil_eq_none hturn).1
  · next hturn =>
    split at h
    · next hreply =>
      obtain ⟨-, rfl⟩ := Prod.mk.inj h
      refine Or.inr ?_
      rw [waitUntil_eq_some hturn] at hreply
      exact (waitUntil_eq_none hreply).1
    · simp at h

/-- Without a stop, every page is waited for. -/
theorem await_none (web : Web) (task : CrawlTask) (c : Crawl σ) :
    c.await web none task = (some (web task.url).body, c.answered web task) := rfl

/-! ## Reading a page -/

theorem label_countPage (c : Crawl σ) : c.countPage.label = c.label := rfl

/-- A root page is read for its links only. -/
theorem read_root (s : Sink σ) (hroot : task.stage = .categoryDiscovery) (page : String)
    (c : Crawl σ) :
    c.read s task page = (.ok (), c.countPage.discover (Catalog.categories page task.url)) := by
  simp only [read, hroot, beq_self_eq_true, if_true]

/-- Any other page is read for its products and then, unless a batch is not accepted, for its
links. -/
theorem read_listing (s : Sink σ) (hroot : task.stage ≠ .categoryDiscovery) (page : String)
    (c : Crawl σ) :
    let listing := Catalog.listing c.label page task.url
    let collected := c.countPage.collect s listing.products
    c.read s task page = (collected.1,
      if collected.1.isOk then collected.2.seedCategories listing.nextPages else collected.2) := by
  have hstage : ¬(task.stage == .categoryDiscovery) = true := by simpa using hroot
  rw [read, if_neg hstage, label_countPage]
  dsimp only
  cases c.countPage.collect s (Catalog.listing c.label page task.url).products with
  | mk result d => cases result <;> rfl

/-- The product blocks of a page that are worked on. -/
def consumed (s : Sink σ) (task : CrawlTask) (body : Except FetchError String) (c : Crawl σ) :
    List (Except ExtractionError ProductRecord) :=
  c.buffer.consumed s (task.blocks c.label body)

theorem consumed_prefix (s : Sink σ) (task : CrawlTask) (body : Except FetchError String)
    (c : Crawl σ) : c.consumed s task body <+: task.blocks c.label body :=
  RecordBuffer.consumed_prefix s _ _

/-- A page changes the counters, the buffer by appends, and, unless a batch is not accepted, the
frontier by the tasks that it leads to. -/
theorem receive_snd (s : Sink σ) (task : CrawlTask) (body : Except FetchError String)
    (c : Crawl σ) :
    (c.receive s task body).2 = { c with
      tally := (c.receive s task body).2.tally
      frontier :=
        if (c.receive s task body).1.isOk then c.frontier.pushAll (task.leadsTo body)
        else c.frontier
      buffer := c.buffer.after s ((recordsOf (c.consumed s task body)).map .append) } := by
  cases body with
  | error e => rfl
  | ok page =>
    by_cases hroot : task.stage = .categoryDiscovery
    · rw [receive, read_root s hroot, consumed, CrawlTask.blocks_root hroot,
        CrawlTask.leadsTo_root hroot]
      generalize Catalog.categories page task.url = urls
      rfl
    · rw [receive, read_listing s hroot, consumed, CrawlTask.blocks_listing hroot,
        CrawlTask.leadsTo_listing hroot c.label]
      generalize Catalog.listing c.label page task.url = listing
      simp only [collect_snd]
      cases c.countPage.collect s listing.products with
      | mk result d => cases result <;> rfl

/-- The counters of pages and product blocks go up by what the page brings; those of batches and
records written stay. -/
theorem tally_receive (s : Sink σ) (task : CrawlTask) (body : Except FetchError String)
    (c : Crawl σ) :
    (c.receive s task body).2.tally = { c.tally with
      categoriesDiscovered := (c.receive s task body).2.tally.categoriesDiscovered
      pagesParsed := c.tally.pagesParsed + if body.isOk then 1 else 0
      pagesFailed := c.tally.pagesFailed + if body.isOk then 0 else 1
      recordsExtracted :=
        c.tally.recordsExtracted + (recordsOf (c.consumed s task body)).length
      recordsDropped := c.tally.recordsDropped + droppedOf (c.consumed s task body) } := by
  cases body with
  | error e => rfl
  | ok page =>
    by_cases hroot : task.stage = .categoryDiscovery
    · rw [receive, read_root s hroot, consumed, CrawlTask.blocks_root hroot]
      rfl
    · rw [receive, read_listing s hroot, consumed, CrawlTask.blocks_listing hroot]
      generalize Catalog.listing c.label page task.url = listing
      simp only [collect_snd]
      cases c.countPage.collect s listing.products with
      | mk result d => cases result <;> rfl

/-- Each record that is given to the buffer is counted. -/
theorem recordsExtracted_receive (s : Sink σ) (task : CrawlTask)
    (body : Except FetchError String) (c : Crawl σ) :
    (c.receive s task body).2.tally.recordsExtracted =
      c.tally.recordsExtracted + (recordsOf (c.consumed s task body)).length := by
  rw [tally_receive]

/-- A page counts as visited, whether it was fetched or not. -/
theorem pagesVisited_receive (s : Sink σ) (task : CrawlTask) (body : Except FetchError String)
    (c : Crawl σ) :
    (c.receive s task body).2.tally.pagesVisited = c.tally.pagesVisited + 1 := by
  rw [tally_receive]
  cases body with
  | error e => exact (Nat.add_assoc _ _ _).symm
  | ok page => exact Nat.add_right_comm _ _ _

/-- A page that is not cut short by a failing batch is worked on to its end. -/
theorem consumed_of_receive_ok {c : Crawl σ} (h : (c.receive s task body).1 = .ok ()) :
    c.consumed s task body = task.blocks c.label body := by
  cases body with
  | error e => rfl
  | ok page =>
    by_cases hroot : task.stage = .categoryDiscovery
    · rw [consumed, CrawlTask.blocks_root hroot, RecordBuffer.consumed]
    · rw [receive, read_listing s hroot] at h
      rw [consumed, CrawlTask.blocks_listing hroot]
      generalize Catalog.listing c.label page task.url = listing at h ⊢
      have hall : c.countPage.buffer.consumed s listing.products = listing.products :=
        consumed_of_collect_ok h
      exact hall

/-- With a sink that accepts all, no page is cut short. -/
theorem receive_of_acceptsAll (h : s.AcceptsAll) (task : CrawlTask)
    (body : Except FetchError String) (c : Crawl σ) : (c.receive s task body).1 = .ok () := by
  cases body with
  | error e => rfl
  | ok page =>
    by_cases hroot : task.stage = .categoryDiscovery
    · rw [receive, read_root s hroot]
    · rw [receive, read_listing s hroot]
      generalize Catalog.listing c.label page task.url = listing
      have hcollect := collect_of_acceptsAll h listing.products c.countPage
      exact hcollect

theorem buffer_receive (s : Sink σ) (task : CrawlTask) (body : Except FetchError String)
    (c : Crawl σ) :
    (c.receive s task body).2.buffer =
      c.buffer.after s ((recordsOf (c.consumed s task body)).map .append) := by
  rw [receive_snd]

theorem requests_receive (s : Sink σ) (task : CrawlTask) (body : Except FetchError String)
    (c : Crawl σ) : (c.receive s task body).2.requests = c.requests := by
  rw [receive_snd]

theorem label_receive (s : Sink σ) (task : CrawlTask) (body : Except FetchError String)
    (c : Crawl σ) : (c.receive s task body).2.label = c.label := by
  rw [receive_snd]

theorem maxPages_receive (s : Sink σ) (task : CrawlTask) (body : Except FetchError String)
    (c : Crawl σ) : (c.receive s task body).2.maxPages = c.maxPages := by
  rw [receive_snd]

theorem stage_receive (s : Sink σ) (task : CrawlTask) (body : Except FetchError String)
    (c : Crawl σ) : (c.receive s task body).2.stage = c.stage := by
  rw [receive_snd]

theorem clock_receive (s : Sink σ) (task : CrawlTask) (body : Except FetchError String)
    (c : Crawl σ) : (c.receive s task body).2.clock = c.clock := by
  rw [receive_snd]

theorem frontier_receive_of_ok {c d : Crawl σ} (h : c.receive s task body = (.ok (), d)) :
    d.frontier = c.frontier.pushAll (task.leadsTo body) := by
  have hd := congrArg Crawl.frontier (receive_snd s task body c)
  rw [h] at hd
  exact hd

theorem frontier_receive_of_error {c d : Crawl σ} {failure : WriteFailure}
    (h : c.receive s task body = (.error failure, d)) : d.frontier = c.frontier := by
  have hd := congrArg Crawl.frontier (receive_snd s task body c)
  rw [h] at hd
  exact hd

end Crawl

/-! ## Ending -/

namespace Crawl

variable {σ : Type} {s : Sink σ}

/-- The ways in which the end of a crawl can go. -/
inductive FinishOutcome (s : Sink σ) (c : Crawl σ) : Except RunFailure Tally × Crawl σ → Prop where
  /-- The last batch is not accepted, and the crawl is not over. -/
  | refused {failure : WriteFailure} {b : RecordBuffer σ}
      (flush : c.buffer.flush s = (.error failure, b)) :
      FinishOutcome s c (.error (.write failure), { c with buffer := b })
  /-- Everything is written. -/
  | written {n : Nat} {b : RecordBuffer σ} (flush : c.buffer.flush s = (.ok n, b)) :
      FinishOutcome s c (.ok { c with buffer := b }.settle.tally,
        { c with buffer := b, stage := .done }.settle)

theorem finish_outcome {c : Crawl σ} {result : Except RunFailure Tally × Crawl σ}
    (h : c.finish s = result) : FinishOutcome s c result := by
  subst h
  rw [finish, flush]
  cases hflush : c.buffer.flush s with
  | mk answer b =>
    cases answer with
    | error failure => exact .refused hflush
    | ok n => exact .written hflush

/-- The end of a crawl changes the buffer, the stage and the counters of what is written. -/
theorem finish_snd (s : Sink σ) (c : Crawl σ) :
    (c.finish s).2 = { c with
      buffer := (c.finish s).2.buffer
      stage := (c.finish s).2.stage
      tally := { c.tally with
        batchesWritten := (c.finish s).2.tally.batchesWritten
        recordsWritten := (c.finish s).2.tally.recordsWritten } } := by
  generalize hf : c.finish s = result
  cases finish_outcome hf <;> rfl

theorem finish_of_acceptsAll (h : s.AcceptsAll) (c : Crawl σ) :
    ∃ tally, (c.finish s).1 = .ok tally := by
  obtain ⟨n, hn⟩ := RecordBuffer.flush_of_acceptsAll h c.buffer
  generalize hf : c.finish s = result
  cases finish_outcome hf with
  | refused hflush => simp [hflush] at hn
  | written => exact ⟨_, rfl⟩

end Crawl

/-! ## The ways in which a turn can go -/

/-- A page that was fetched or found missing, and what was done with it. -/
structure Visit where
  task : CrawlTask
  /-- What the web answered. -/
  body : Except FetchError String
  /-- The product blocks that were worked on. -/
  blocks : List (Except ExtractionError ProductRecord)
  /-- Whether all batches were accepted. -/
  outcome : Except WriteFailure Unit

/-- The records that a visit gave to the buffer, in order. -/
def Visit.handed (v : Visit) : List ProductRecord :=
  recordsOf v.blocks

namespace Crawl

variable {σ : Type} {web : Web} {s : Sink σ} {stop : Option Nat}

/-- What becomes of the answer to the request of a task, in the crawl that has it. -/
def visit (s : Sink σ) (task : CrawlTask) (body : Except FetchError String) (c : Crawl σ) :
    Visit where
  task
  body
  blocks := c.consumed s task body
  outcome := (c.receive s task body).1

/-- The page that is visited in the next turn, if the turn gets that far. -/
def visit? (web : Web) (s : Sink σ) (stop : Option Nat) (c : Crawl σ) : Option Visit :=
  match c.frontier.queue with
  | [] => none
  | task :: _ =>
    if c.limitReached || isStopped stop c.clock || !task.stage.handlesPages then none
    else
      match c.taken.await web stop task with
      | (none, _) => none
      | (some body, d) => some (d.visit s task body)

/-- The ways in which a turn can go, with the page that is visited: `none` stands for a run that
goes on. -/
inductive Turn (web : Web) (s : Sink σ) (stop : Option Nat) (c : Crawl σ) :
    Option Visit → Option (Except RunFailure Tally) × Crawl σ → Prop where
  /-- No page is left, or no more may be visited. -/
  | finished (h : c.frontier.queue = [] ∨ c.limitReached = true) :
      Turn web s stop c none (some (c.finish s).1, (c.finish s).2)
  /-- The run is stopped before it turns to the task that it took. -/
  | stopped {task : CrawlTask} {rest : List CrawlTask} (next : c.frontier.queue = task :: rest)
      (limit : c.limitReached = false) (h : isStopped stop c.clock = true) :
      Turn web s stop c none (some c.taken.abort.1, c.taken.abort.2)
  /-- The task is of a stage that reads no pages. -/
  | skipped {task : CrawlTask} {rest : List CrawlTask} (next : c.frontier.queue = task :: rest)
      (limit : c.limitReached = false) (stage : task.stage.handlesPages = false) :
      Turn web s stop c none (none, c.taken)
  /-- The run is stopped while it waits for the page. -/
  | interrupted {task : CrawlTask} {rest : List CrawlTask} {d : Crawl σ}
      (next : c.frontier.queue = task :: rest) (limit : c.limitReached = false)
      (stage : task.stage.handlesPages = true) (await : c.taken.await web stop task = (none, d)) :
      Turn web s stop c none (some d.abort.1, d.abort.2)
  /-- The page is there, or known to be missing, and everything in it is worked on. -/
  | visited {task : CrawlTask} {rest : List CrawlTask} {d : Crawl σ}
      (next : c.frontier.queue = task :: rest) (limit : c.limitReached = false)
      (stage : task.stage.handlesPages = true)
      (receive : (c.taken.answered web task).receive s task (web task.url).body = (.ok (), d)) :
      Turn web s stop c (some ((c.taken.answered web task).visit s task (web task.url).body))
        (none, d)
  /-- A batch with records of the page is not accepted. -/
  | failed {task : CrawlTask} {rest : List CrawlTask} {failure : WriteFailure} {d : Crawl σ}
      (next : c.frontier.queue = task :: rest) (limit : c.limitReached = false)
      (stage : task.stage.handlesPages = true)
      (receive :
        (c.taken.answered web task).receive s task (web task.url).body = (.error failure, d)) :
      Turn web s stop c (some ((c.taken.answered web task).visit s task (web task.url).body))
        (some (.error (.write failure)), d)

theorem step_of_finished {c : Crawl σ} (h : c.frontier.queue = [] ∨ c.limitReached = true) :
    c.step web s stop = (some (c.finish s).1, (c.finish s).2) := by
  obtain hqueue | hlimit := h
  · simp [step, Frontier.next?, hqueue]
  · simp [step, hlimit]

theorem step_of_next {c : Crawl σ} {task : CrawlTask} {rest : List CrawlTask}
    (next : c.frontier.queue = task :: rest) (limit : c.limitReached = false) :
    c.step web s stop = perform web s stop task c.taken := by
  simp [step, limit, Frontier.next?, next, taken]

theorem turn_of_step {c : Crawl σ} {visit : Option Visit}
    {result : Option (Except RunFailure Tally) × Crawl σ} (hv : c.visit? web s stop = visit)
    (h : c.step web s stop = result) : Turn web s stop c visit result := by
  subst hv h
  cases hqueue : c.frontier.queue with
  | nil =>
    rw [step_of_finished (Or.inl hqueue), visit?, hqueue]
    exact .finished (Or.inl hqueue)
  | cons task rest =>
    cases hlimit : c.limitReached with
    | true =>
      simp only [step_of_finished (Or.inr hlimit), visit?, hqueue, hlimit, Bool.true_or, if_true]
      exact .finished (Or.inr hlimit)
    | false =>
      rw [step_of_next hqueue hlimit, perform]
      simp only [visit?, hqueue, hlimit, Bool.false_or]
      cases hstop : isStopped stop c.clock with
      | true =>
        rw [if_pos (show isStopped stop c.taken.clock = true from hstop), Bool.true_or]
        exact .stopped hqueue hlimit hstop
      | false =>
        have htaken : ¬isStopped stop c.taken.clock = true := by simp [taken, hstop]
        rw [if_neg htaken, Bool.false_or]
        cases hstage : task.stage.handlesPages with
        | false => exact .skipped hqueue hlimit hstage
        | true =>
          simp only [Bool.not_true, Bool.false_eq_true, if_false]
          cases hawait : c.taken.await web stop task with
          | mk body d =>
            cases body with
            | none => exact .interrupted hqueue hlimit hstage hawait
            | some body =>
              obtain ⟨rfl, rfl⟩ := await_eq_some hawait
              dsimp only
              cases hreceive : receive s task (web task.url).body (c.taken.answered web task) with
              | mk result e =>
                cases result with
                | ok => exact .visited hqueue hlimit hstage hreceive
                | error => exact .failed hqueue hlimit hstage hreceive

end Crawl

end PriceTracker
