import PriceTracker.Proofs.Crawl.Coverage
import PriceTracker.Proofs.Crawl.Recast
import PriceTracker.Proofs.Crawl.Reliable

/-!
# Tuning

The batch size and the delay between requests change when records are written and when pages are
asked for, and so does the time that the pages take to answer. As long as no batch is refused, they
change nothing else. Two crawls that differ in these are compared turn by turn:

* `Frontier.SamePages` relates frontiers with the same pages, whatever their times are;
* `Alike` relates crawls that are alike but for times and for what is written already;
* `alike_step` and `alike_runFor`: with sinks that take all batches they stay alike, and they end in
  the same turn;
* `tuning_changes_batches_only`: so they make the same requests and leave the same tables.
-/

namespace PriceTracker

/-! ## Frontiers -/

namespace Frontier

/-- The same pages wait, and the same were queued. -/
structure SamePages (f g : Frontier) : Prop where
  queue : g.queue = f.queue
  seen : g.seen = f.seen

variable {f g : Frontier}

theorem SamePages.push (h : SamePages f g) (task : CrawlTask) :
    SamePages (f.push task) (g.push task) := by
  have hnew : g.isNew task = f.isNew task := by rw [isNew, isNew, h.seen]
  cases hf : f.isNew task with
  | true =>
    rw [hf] at hnew
    refine ⟨?_, ?_⟩
    · rw [queue_push_of_isNew hnew, queue_push_of_isNew hf, h.queue]
    · rw [seen_push_of_isNew hnew, seen_push_of_isNew hf, h.seen]
  | false =>
    rw [hf] at hnew
    rw [push_of_not_isNew hnew, push_of_not_isNew hf]
    exact h

theorem SamePages.pushAll (h : SamePages f g) (tasks : List CrawlTask) :
    SamePages (f.pushAll tasks) (g.pushAll tasks) := by
  induction tasks generalizing f g with
  | nil => exact h
  | cons task tasks ih => exact ih (h.push task)

end Frontier

namespace Crawl

open RecordBuffer Storage

variable {σ τ : Type} {log : σ → List (List ProductRecord)} {s : Sink σ} {task : CrawlTask}

/-! ## Seeding -/

/-- The crawl with first pages queued, as often as one likes. -/
def seeded (seedings : List Seeding) (c : Crawl σ) : Crawl σ :=
  seedings.foldl (fun c seeding => seeding.start c) c

theorem seeded_eq (seedings : List Seeding) (c : Crawl σ) :
    c.seeded seedings = { c with frontier := (c.seeded seedings).frontier } := by
  induction seedings generalizing c with
  | nil => rfl
  | cons seeding seedings ih =>
    have hrest : c.seeded (seeding :: seedings) = (seeding.start c).seeded seedings := rfl
    rw [hrest, ih]
    cases seeding <;> rfl

/-- Seeding looks neither at the limit nor at the sink. -/
theorem seeded_recast (limit : Option Nat) (view : τ → σ) (seedings : List Seeding) (c : Crawl τ) :
    (c.seeded seedings).recast limit view = (c.recast limit view).seeded seedings := by
  induction seedings generalizing c with
  | nil => rfl
  | cons seeding seedings ih =>
    have hstart : (seeding.start c).recast limit view = seeding.start (c.recast limit view) := by
      cases seeding <;> rfl
    exact (ih (seeding.start c)).trans (congrArg (seeded seedings) hstart)

theorem seeded_through (view : τ → σ) (seedings : List Seeding) (c : Crawl τ) :
    (c.seeded seedings).through view = (c.through view).seeded seedings := by
  have hmaxPages : (c.seeded seedings).maxPages = c.maxPages := by rw [seeded_eq]
  rw [through, through, hmaxPages, seeded_recast]

/-! ## Crawls that are alike -/

/-- The pages that a root page puts on the frontier are counted. -/
theorem categoriesDiscovered_receive (s : Sink σ) (task : CrawlTask)
    (body : Except FetchError String) (c : Crawl σ) :
    (c.receive s task body).2.tally.categoriesDiscovered = c.tally.categoriesDiscovered +
      if task.stage = .categoryDiscovery then
        (c.frontier.pushAll (task.leadsTo body)).seen.length - c.frontier.seen.length
      else 0 := by
  cases body with
  | error e =>
    have hnone : (c.frontier.pushAll (task.leadsTo (.error e))).seen.length -
      c.frontier.seen.length = 0 := Nat.sub_self _
    rw [hnone, ite_self]
    rfl
  | ok page =>
    by_cases hroot : task.stage = .categoryDiscovery
    · rw [receive, read_root s hroot, if_pos hroot, CrawlTask.leadsTo_root hroot]
      rfl
    · rw [receive, read_listing s hroot, if_neg hroot]
      generalize Catalog.listing c.label page task.url = listing
      simp only [collect_snd]
      cases c.countPage.collect s listing.products with
      | mk result d => cases result <;> rfl

/-- Two crawls with the same pages before and behind them, which were given the same records. -/
structure Alike (log : σ → List (List ProductRecord)) (c i : Crawl σ) : Prop where
  label : i.label = c.label
  maxPages : i.maxPages = c.maxPages
  pages : c.frontier.SamePages i.frontier
  visited : i.visited = c.visited
  /-- All counters but those of what is written. -/
  tally : i.tally = { c.tally with
    batchesWritten := i.tally.batchesWritten
    recordsWritten := i.tally.recordsWritten }
  ledger : i.buffer.ledger log = c.buffer.ledger log

namespace Alike

variable {c d i j : Crawl σ}

theorem pagesVisited (h : Alike log c i) : i.tally.pagesVisited = c.tally.pagesVisited := by
  rw [h.tally]
  rfl

theorem limitReached (h : Alike log c i) : i.limitReached = c.limitReached := by
  rw [Crawl.limitReached, Crawl.limitReached, h.maxPages, h.pagesVisited]

theorem start (h : Alike log c i) (seeding : Seeding) :
    Alike log (seeding.start c) (seeding.start i) := by
  cases seeding with
  | root url =>
    exact ⟨h.label, h.maxPages, h.pages.push _, h.visited, h.tally, h.ledger⟩
  | categories urls =>
    exact ⟨h.label, h.maxPages, h.pages.pushAll _, h.visited, h.tally, h.ledger⟩

theorem seeded (h : Alike log c i) (seedings : List Seeding) :
    Alike log (c.seeded seedings) (i.seeded seedings) := by
  induction seedings generalizing c i with
  | nil => exact h
  | cons seeding seedings ih => exact ih (h.start seeding)

theorem taken (h : Alike log c i) : Alike log c.taken i.taken where
  label := h.label
  maxPages := h.maxPages
  pages := ⟨congrArg List.tail h.pages.queue, h.pages.seen⟩
  visited := h.visited
  tally := h.tally
  ledger := h.ledger

/-- The answer comes at different times. -/
theorem answered (h : Alike log c i) (web web' : Web) (task : CrawlTask) :
    Alike log (c.answered web task) (i.answered web' task) where
  label := h.label
  maxPages := h.maxPages
  pages := ⟨h.pages.queue, h.pages.seen⟩
  visited := by
    have hvisited : ∀ (web : Web) (c : Crawl σ),
        (c.answered web task).visited = c.visited ++ [task.url] := fun _ _ => List.map_append
    rw [hvisited, hvisited, h.visited]
  tally := h.tally
  ledger := h.ledger

/-- They stay alike if both read the page to its end. -/
theorem receive (h : Alike log c i) (hs : s.Logs log) {body : Except FetchError String}
    (hc : c.receive s task body = (.ok (), d)) (hi : i.receive s task body = (.ok (), j)) :
    Alike log d j := by
  have hallC : c.consumed s task body = task.blocks c.label body :=
    consumed_of_receive_ok (congrArg Prod.fst hc)
  have hallI : i.consumed s task body = task.blocks c.label body :=
    h.label ▸ consumed_of_receive_ok (congrArg Prod.fst hi)
  have hpages := h.pages.pushAll (task.leadsTo body)
  have hcategories := categoriesDiscovered_receive s task body c
  have hcategoriesI := categoriesDiscovered_receive s task body i
  rw [hpages.seen, h.pages.seen, h.tally] at hcategoriesI
  refine ⟨?_, ?_, ?_, ?_, ?_, ?_⟩
  · rw [label_of_receive hi, label_of_receive hc, h.label]
  · obtain rfl : _ = d := congrArg Prod.snd hc
    obtain rfl : _ = j := congrArg Prod.snd hi
    rw [maxPages_receive, maxPages_receive, h.maxPages]
  · rwa [frontier_receive_of_ok hi, frontier_receive_of_ok hc]
  all_goals
    obtain rfl : _ = d := congrArg Prod.snd hc
    obtain rfl : _ = j := congrArg Prod.snd hi
  · rw [Crawl.visited, Crawl.visited, requests_receive, requests_receive]
    exact h.visited
  · rw [tally_receive, tally_receive s task body c, hallC, hallI, hcategories, hcategoriesI,
      h.tally]
  · rw [buffer_receive, buffer_receive, ledger_after hs, ledger_after hs, h.ledger, hallC, hallI]

/-- Writing what is left changes nothing but what is written. -/
theorem finish (h : Alike log c i) (hs : s.Logs log) :
    Alike log (c.finish s).2 (i.finish s).2 := by
  have htally : ∀ c : Crawl σ, (c.finish s).2.tally = { c.tally with
      batchesWritten := (c.finish s).2.tally.batchesWritten
      recordsWritten := (c.finish s).2.tally.recordsWritten } :=
    fun c => congrArg Crawl.tally (finish_snd s c)
  refine ⟨?_, ?_, ?_, ?_, ?_, ?_⟩
  · rw [finish_snd, finish_snd s c]
    exact h.label
  · rw [maxPages_finish, maxPages_finish, h.maxPages]
  · rw [frontier_finish, frontier_finish]
    exact h.pages
  · rw [Crawl.visited, Crawl.visited, requests_finish, requests_finish]
    exact h.visited
  · rw [htally i, htally c, h.tally]
  · rw [ledger_finish hs, ledger_finish hs, h.ledger]

end Alike

/-! ## Runs -/

variable {kind : ProductRecord → Prop} {P Q : RecordBuffer σ → Prop} {web web' : Web}
  {c i : Crawl σ}

/-- The two crawls end in the same turn. -/
theorem alike_step (hs : s.Logs log) (takes : Takes s kind P) (takes' : Takes s kind Q)
    (yields : Catalog.Yields kind) (bodies : ∀ url, (web' url).body = (web url).body)
    (h : Alike log c i) (hP : P c.buffer) (hQ : Q i.buffer) :
    Alike log (c.step web s none).2 (i.step web' s none).2 ∧
      (i.step web' s none).1.isSome = (c.step web s none).1.isSome := by
  cases hqueue : c.frontier.queue with
  | nil =>
    rw [step_of_finished (Or.inl hqueue),
      step_of_finished (Or.inl (h.pages.queue.trans hqueue))]
    exact ⟨h.finish hs, rfl⟩
  | cons task rest =>
    have hqueueI : i.frontier.queue = task :: rest := h.pages.queue.trans hqueue
    cases hlimit : c.limitReached with
    | true =>
      rw [step_of_finished (Or.inr hlimit), step_of_finished (Or.inr (h.limitReached.trans hlimit))]
      exact ⟨h.finish hs, rfl⟩
    | false =>
      have hlimitI : i.limitReached = false := h.limitReached.trans hlimit
      cases hstage : task.stage.handlesPages with
      | false =>
        rw [step_of_skipped hqueue hlimit hstage, step_of_skipped hqueueI hlimitI hstage]
        exact ⟨h.taken, rfl⟩
      | true =>
        -- No batch is refused, so both read the page to its end, wherever they flush.
        obtain ⟨d, hd, hstep⟩ := step_of_takes web takes yields hP hqueue hlimit hstage
        obtain ⟨j, hj, hstepI⟩ := step_of_takes web' takes' yields hQ hqueueI hlimitI hstage
        rw [bodies] at hj
        rw [hstep, hstepI]
        exact ⟨(h.taken.answered web web' task).receive hs hd hj, rfl⟩

/-- **Crawls that are alike stay alike**, and end in the same turn. -/
theorem alike_runFor (hs : s.Logs log) (takes : Takes s kind P) (takes' : Takes s kind Q)
    (yields : Catalog.Yields kind) (bodies : ∀ url, (web' url).body = (web url).body)
    (h : Alike log c i) (hP : P c.buffer) (hQ : Q i.buffer) (turns : Nat) :
    Alike log (c.runFor web s none turns).2 (i.runFor web' s none turns).2 ∧
      (i.runFor web' s none turns).1.isSome = (c.runFor web s none turns).1.isSome := by
  induction turns generalizing c i with
  | zero => exact ⟨h, rfl⟩
  | succ turns ih =>
    obtain ⟨halike, hended⟩ := alike_step hs takes takes' yields bodies h hP hQ
    have hnextP := takes.step yields hP web none
    have hnextQ := takes'.step yields hQ web' none
    rw [runFor, runFor]
    generalize c.step web s none = result at halike hended hnextP
    generalize i.step web' s none = result' at halike hended hnextQ
    obtain ⟨_ | answer, d⟩ := result <;> obtain ⟨_ | answer', j⟩ := result'
    · exact ih halike hnextP hnextQ
    · simp at hended
    · simp at hended
    · exact ⟨halike, rfl⟩

/-- When the first one has ended, the second one has. -/
theorem alike_of_runFor (hs : s.Logs log) (takes : Takes s kind P) (takes' : Takes s kind Q)
    (yields : Catalog.Yields kind) (bodies : ∀ url, (web' url).body = (web url).body)
    (h : Alike log c i) (hP : P c.buffer) (hQ : Q i.buffer) {turns : Nat}
    {result : Except RunFailure Tally} {d : Crawl σ}
    (hrun : c.runFor web s none turns = (some result, d)) :
    ∃ result' j, i.runFor web' s none turns = (some result', j) ∧ Alike log d j := by
  obtain ⟨halike, hended⟩ := alike_runFor hs takes takes' yields bodies h hP hQ turns
  rw [hrun] at halike hended
  generalize i.runFor web' s none turns = ended at halike hended
  obtain ⟨_ | result', j⟩ := ended
  · simp at hended
  · exact ⟨result', j, rfl, halike⟩

/-! ## Runs over a store -/

/-- A sink that breaks off no write is the store, with its calls counted. -/
theorem shows_storeSink (day : Date) :
    (interruptedSink day fun _ => none).Shows (storeSink day) Calls.state :=
  fun _ _ => rfl

/-- A crawl as the settings ask for, over a store whose calls are counted. -/
def counting (settings : CrawlSettings) (seedings : List Seeding) (store : Store) :
    Crawl (Calls Store) :=
  (ofSettings settings { state := store }).seeded seedings

theorem counting_eq (settings : CrawlSettings) (seedings : List Seeding) (store : Store) :
    counting settings seedings store =
      { ofSettings settings ({ state := store } : Calls Store) with
        frontier := (counting settings seedings store).frontier } :=
  seeded_eq _ _

theorem counting_through (settings : CrawlSettings) (seedings : List Seeding) (store : Store) :
    (counting settings seedings store).through Calls.state =
      (ofSettings settings store).seeded seedings :=
  seeded_through _ _ _

theorem writes_counting {store : Store} {products : List ProductRow} {prices : List PriceRow}
    (tables : store.Holds products prices) (day : Date) (settings : CrawlSettings)
    (seedings : List Seeding) :
    (counting settings seedings store).buffer.Writes day store products prices 0 := by
  rw [counting_eq]
  exact writes_empty tables settings.batchSize

/-- Two crawls with settings that differ in their tuning are alike when they begin. -/
theorem alike_counting (settings : CrawlSettings) (batchSize requestDelay : Nat)
    (seedings : List Seeding) (store store' : Store) :
    Alike Calls.accepted (counting settings seedings store)
      (counting { settings with batchSize, requestDelay } seedings store') := by
  have hfresh : Alike Calls.accepted (ofSettings settings ({ state := store } : Calls Store))
      (ofSettings { settings with batchSize, requestDelay } { state := store' }) :=
    ⟨rfl, rfl, ⟨rfl, rfl⟩, rfl, rfl, rfl⟩
  exact hfresh.seeded seedings

/-- When a run over a store is to the end, it has written all records that the visits handed over,
and the store without the counted calls does the same. -/
theorem written_of_runFor {day : Date} {store : Store} {products : List ProductRow}
    {prices : List PriceRow} (tables : store.Holds products prices) {web : Web}
    {settings : CrawlSettings} {seedings : List Seeding} {turns : Nat}
    {result : Except RunFailure Tally} {d : Crawl (Calls Store)}
    (hrun : (counting settings seedings store).runFor web (interruptedSink day fun _ => none) none
      turns = (some result, d)) :
    let start := (ofSettings settings store).seeded seedings
    start.run web (storeSink day) none turns = (some (.ok d.tally), d.through Calls.state) ∧
      d.buffer.ledger Calls.accepted =
        (start.visits web (storeSink day) none turns).flatMap Visit.handed ∧
      d.tally.recordsWritten = (d.buffer.ledger Calls.accepted).length ∧
      ∃ rows, (d.buffer.ledger Calls.accepted).mapM (ProductRecord.priceRow? day) = some rows ∧
        d.buffer.sink.state.Holds
          (products ++ newRows ProductRow.key products
            ((d.buffer.ledger Calls.accepted).map ProductRow.ofRecord))
          (prices ++ newRows PriceRow.key prices rows) := by
  intro start
  have hstart : start = (counting settings seedings store).through Calls.state :=
    (counting_through settings seedings store).symm
  have writes := writes_counting tables day settings seedings
  have hcounting := counting_eq settings seedings store
  generalize counting settings seedings store = c at hrun hstart writes hcounting
  have going : c.Going := by
    rw [hcounting]
    exact ⟨rfl, rfl, rfl⟩
  have counted : c.buffer.CountsLog Calls.accepted ∧ c.buffer.ledger Calls.accepted = [] := by
    rw [hcounting]
    exact ⟨⟨rfl, rfl⟩, rfl⟩
  have logs := logs_interruptedSink day fun _ => none
  have takes := takes_writes day store products prices 0
  obtain ⟨rfl, settled, pending⟩ := settled_of_takes takes Catalog.yields_priced going writes hrun
  have hwrites := takes.of_runFor Catalog.yields_priced writes hrun
  have hcounted := (keeps_countsLog logs).of_runFor (fun _ _ _ _ _ => trivial) counted.1 hrun
  have hledger := (delivers_runFor logs web none turns c).ledger
  rw [hrun, counted.2, List.nil_append] at hledger
  refine ⟨?_, ?_, settled.recordsWritten_eq hcounted pending,
    hwrites.reflects.holds_of_pending_nil rfl pending⟩
  · rw [hstart, run_through (shows_storeSink day), going.run_eq, hrun]
  · rw [hstart, visits_through (shows_storeSink day)]
    exact hledger

/-- **Tuning changes the number of batches only.** Two stores have the same rows in their two
tables. A site whose links lead to finitely many pages is crawled twice on one day, with the same
first pages, to the end; the settings differ in the batch size and in the delay between requests at
most, and each page has the same content both times but may take any time to answer. Then the same
pages are asked for in the same order, and the tallies agree in all but the number of batches. The
tables hold the same rows in the same order: those that they had, and the first row of each new key
among the records that the visits handed over. -/
theorem tuning_changes_batches_only (day : Date) {store store' : Store}
    {products : List ProductRow} {prices : List PriceRow} (tables : store.Holds products prices)
    (tables' : store'.Holds products prices) {web web' : Web}
    (bodies : ∀ url, (web' url).body = (web url).body) {keys : Finset String}
    (finite : ∀ url, ∀ link ∈ Site.linksOf url (web url), link.pageKey ∈ keys)
    (settings : CrawlSettings) (batchSize requestDelay : Nat) (seedings : List Seeding) :
    let start := (ofSettings settings store).seeded seedings
    let tuned := (ofSettings { settings with batchSize, requestDelay } store').seeded seedings
    ∃ turns tally tally' d e,
      start.run web (storeSink day) none turns = (some (.ok tally), d) ∧
      tuned.run web' (storeSink day) none turns = (some (.ok tally'), e) ∧
      e.visited = d.visited ∧ tally' = { tally with batchesWritten := tally'.batchesWritten } ∧
      let handed := (start.visits web (storeSink day) none turns).flatMap Visit.handed
      ∃ rows, handed.mapM (ProductRecord.priceRow? day) = some rows ∧
        let products' := products ++ newRows ProductRow.key products
          (handed.map ProductRow.ofRecord)
        let prices' := prices ++ newRows PriceRow.key prices rows
        d.buffer.sink.Holds products' prices' ∧ e.buffer.sink.Holds products' prices' := by
  intro start tuned
  obtain ⟨result, d, hrun, -⟩ := runFor_of_closed (closed_of_keys finite)
    (interruptedSink day fun _ => none) none (c := counting settings seedings store)
    (fun _ _ => trivial) (Nat.lt_succ_self _)
  obtain ⟨result', e, hrun', halike⟩ := alike_of_runFor (logs_interruptedSink day fun _ => none)
    (takes_writes day store products prices 0) (takes_writes day store' products prices 0)
    Catalog.yields_priced bodies (alike_counting settings batchSize requestDelay seedings _ _)
    (writes_counting tables day _ _) (writes_counting tables' day _ _) hrun
  obtain ⟨hd, hledger, hwritten, rows, hrows, hholds⟩ := written_of_runFor tables hrun
  obtain ⟨he, -, hwritten', rows', hrows', hholds'⟩ := written_of_runFor tables' hrun'
  -- They were given the same records, and have written all of them.
  rw [halike.ledger] at hwritten' hrows' hholds'
  obtain rfl : rows = rows' := Option.some.inj (hrows.symm.trans hrows')
  have htally := halike.tally
  rw [hwritten', ← hwritten] at htally
  rw [hledger] at hrows hholds hholds'
  exact ⟨_, d.tally, e.tally, _, _, hd, he, halike.visited, htally, rows, hrows, hholds, hholds'⟩

/-- Two pages with a bell each, which answer at once or after some time, crawled with batches of one
record and with larger ones. -/
theorem tuning_of_two_bells :
    let a : Url := { scheme := "http", host := some (.name "a"), path := .segments [""] }
    let b : Url := { a with path := .segments ["b"] }
    let web (delay : Nat) : Web := fun _ => { body := .ok (shelf [("1", "Bell")]), delay }
    let day : Date := ⟨2026, 10, 16, by decide⟩
    let start := (ofSettings { batchSize := 1, requestDelay := 0 } Store.blank).seeded
      [.root a, .categories [b]]
    let tuned := (ofSettings { batchSize := 10, requestDelay := 250 } Store.blank).seeded
      [.root a, .categories [b]]
    Store.blank.Holds [] [] ∧ (∀ url, (web 70 url).body = (web 0 url).body) ∧
      (∀ url, ∀ link ∈ Site.linksOf url (web 0 url), link.pageKey ∈ (∅ : Finset String)) ∧
      ∃ turns tally tally' d e,
        start.run (web 0) (storeSink day) none turns = (some (.ok tally), d) ∧
        tuned.run (web 70) (storeSink day) none turns = (some (.ok tally'), e) ∧
        e.visited = d.visited ∧ tally' = { tally with batchesWritten := tally'.batchesWritten } ∧
        let handed := (start.visits (web 0) (storeSink day) none turns).flatMap Visit.handed
        ∃ rows, handed.mapM (ProductRecord.priceRow? day) = some rows ∧
          let products' := [] ++ newRows ProductRow.key [] (handed.map ProductRow.ofRecord)
          let prices' := [] ++ newRows PriceRow.key [] rows
          d.buffer.sink.Holds products' prices' ∧ e.buffer.sink.Holds products' prices' := by
  intro a b web day start tuned
  have bodies : ∀ url, (web 70 url).body = (web 0 url).body := fun _ => rfl
  have finite := bell_links ∅ 0
  exact ⟨Store.holds_blank, bodies, finite, tuning_changes_batches_only day Store.holds_blank
    Store.holds_blank bodies finite { batchSize := 1, requestDelay := 0 } 10 250
    [.root a, .categories [b]]⟩

end Crawl

end PriceTracker
