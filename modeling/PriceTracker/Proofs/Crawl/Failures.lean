import PriceTracker.Proofs.Crawl.PageLimit

/-!
# Failed pages

A page that cannot be fetched is counted and left behind. A run in which the pages of some URLs fail
is compared with the run in which these pages are there, but hold no product and no link:

* `Web.Mends` relates the two webs, and `Tally.excuse` is a tally in which some of the failed pages
  count as parsed;
* `receive_excuse`: for a crawl a failed page and a bare one differ in these counters only;
* `Excuses` relates the two runs, `excuses_step` carries it through a turn and `excuses_runFor`
  through a run: same requests, same times, same calls of the sink;
* `refused_or_stopped`: so nothing but a refused batch or a stop from outside makes a run fail.
-/

namespace PriceTracker

/-! ## Pages and webs -/

/-- The page has no product block, no category link and no pagination link. -/
structure Catalog.IsBare (page : String) : Prop where
  products : (Html.parse page).select productBlock = []
  categories : (Html.parse page).select categoryLink = []
  pagination : (Html.parse page).select paginationLink = []

namespace Catalog.IsBare

variable {page : String}

theorem categories_eq (h : IsBare page) (base : Url) : Catalog.categories page base = [] := by
  rw [Catalog.categories, categoriesOf, h.categories]
  rfl

theorem listing_eq (h : IsBare page) (label : String) (base : Url) :
    listing label page base = ⟨[], []⟩ := by
  rw [listing, listingOf, h.products, h.pagination]
  rfl

end Catalog.IsBare

/-- Fetching the pages in `F` fails on the first web; on the second one these pages are bare and take
as long to come. All other pages are the same. -/
structure Web.Mends (web web' : Web) (F : Set Url) : Prop where
  other : ∀ url ∉ F, web' url = web url
  delay : ∀ url ∈ F, (web' url).delay = (web url).delay
  failed : ∀ url ∈ F, ∃ e, (web url).body = .error e
  bare : ∀ url ∈ F, ∃ page, (web' url).body = .ok page ∧ Catalog.IsBare page

theorem Web.Mends.delay_eq {web web' : Web} {F : Set Url} (h : web.Mends web' F) (url : Url) :
    (web' url).delay = (web url).delay := by
  by_cases hurl : url ∈ F
  · exact h.delay url hurl
  · rw [h.other url hurl]

/-- The tally in which so many of the failed pages count as parsed. -/
def Tally.excuse (n : Nat) (t : Tally) : Tally :=
  { t with pagesParsed := t.pagesParsed + n, pagesFailed := t.pagesFailed - n }

/-- Of the visits, those of pages in a set. -/
def visitsTo (F : Set Url) [DecidablePred (· ∈ F)] (vs : List Visit) : Nat :=
  vs.countP fun v => v.task.url ∈ F

theorem visitsTo_append (F : Set Url) [DecidablePred (· ∈ F)] (vs ws : List Visit) :
    visitsTo F (vs ++ ws) = visitsTo F vs + visitsTo F ws :=
  List.countP_append

theorem visitsTo_singleton (F : Set Url) [DecidablePred (· ∈ F)] (v : Visit) :
    visitsTo F [v] = if v.task.url ∈ F then 1 else 0 := by
  simp [visitsTo, List.countP_singleton]

namespace Crawl

open RecordBuffer

variable {σ : Type} {web web' : Web} {s : Sink σ} {stop : Option Nat} {task : CrawlTask}
  {c d : Crawl σ} {n : Nat}

/-! ## The parts of a turn -/

/-- The crawl whose tally counts so many of the failed pages as parsed. -/
def excuse (n : Nat) (c : Crawl σ) : Crawl σ :=
  { c with tally := c.tally.excuse n }

/-- As many pages are visited, so the limit is reached at the same time. -/
theorem limitReached_excuse (h : n ≤ c.tally.pagesFailed) :
    (c.excuse n).limitReached = c.limitReached := by
  have hvisited : (c.excuse n).tally.pagesVisited = c.tally.pagesVisited := by
    simp only [Tally.pagesVisited, excuse, Tally.excuse]
    omega
  have hmaxPages : (c.excuse n).maxPages = c.maxPages := rfl
  rw [limitReached, limitReached, hvisited, hmaxPages]

theorem collect_excuse (s : Sink σ) (blocks : List (Except ExtractionError ProductRecord))
    (n : Nat) (c : Crawl σ) :
    (c.excuse n).collect s blocks = ((c.collect s blocks).1, (c.collect s blocks).2.excuse n) := by
  induction blocks generalizing c with
  | nil => rfl
  | cons block blocks ih =>
    cases block with
    | error e =>
      rw [collect, collect]
      exact ih { c with tally := { c.tally with recordsDropped := c.tally.recordsDropped + 1 } }
    | ok r =>
      have hbuffer : (c.excuse n).buffer = c.buffer := rfl
      rw [collect, collect, hbuffer]
      cases c.buffer.append s r with
      | mk result b =>
        cases result with
        | ok => exact ih { c with
            tally := { c.tally with recordsExtracted := c.tally.recordsExtracted + 1 }
            buffer := b }
        | error => rfl

theorem countPage_excuse (n : Nat) (c : Crawl σ) :
    (c.excuse n).countPage = c.countPage.excuse n := by
  simp only [countPage, excuse, Tally.excuse, Nat.add_right_comm]

/-- A page that comes is read in the same way. -/
theorem read_excuse (s : Sink σ) (task : CrawlTask) (page : String) (n : Nat) (c : Crawl σ) :
    (c.excuse n).read s task page =
      ((c.read s task page).1, (c.read s task page).2.excuse n) := by
  by_cases hroot : task.stage = .categoryDiscovery
  · rw [read_root s hroot, read_root s hroot, countPage_excuse]
    rfl
  · have hlabel : (c.excuse n).label = c.label := rfl
    rw [read_listing s hroot, read_listing s hroot]
    dsimp only
    rw [hlabel, countPage_excuse, collect_excuse]
    dsimp only
    cases c.countPage.collect s (Catalog.listing c.label page task.url).products with
    | mk result d => cases result <;> rfl

/-- A bare page is counted and does nothing else. -/
theorem read_of_isBare (s : Sink σ) (task : CrawlTask) {page : String}
    (h : Catalog.IsBare page) (c : Crawl σ) : c.read s task page = (.ok (), c.countPage) := by
  by_cases hroot : task.stage = .categoryDiscovery
  · rw [read_root s hroot, h.categories_eq]
    simp only [discover, seedCategories, List.map_nil, Frontier.pushAll, List.foldl_nil,
      Nat.sub_self, Nat.add_zero]
  · rw [read_listing s hroot, h.listing_eq]
    rfl

section

variable {F : Set Url} [DecidablePred (· ∈ F)]

/-- **To a crawl a failed page and a bare one differ in two counters.** -/
theorem receive_excuse (mends : web.Mends web' F) (s : Sink σ) (task : CrawlTask)
    (h : n ≤ c.tally.pagesFailed) :
    let m := n + if task.url ∈ F then 1 else 0
    let received := c.receive s task (web task.url).body
    (c.excuse n).receive s task (web' task.url).body = (received.1, received.2.excuse m) ∧
      m ≤ received.2.tally.pagesFailed := by
  dsimp only
  by_cases hF : task.url ∈ F
  · obtain ⟨e, he⟩ := mends.failed task.url hF
    obtain ⟨page, hpage, hbare⟩ := mends.bare task.url hF
    rw [if_pos hF, he, hpage, receive, receive, read_of_isBare s task hbare]
    refine ⟨?_, Nat.succ_le_succ h⟩
    simp only [countPage, excuse, Tally.excuse, Nat.add_sub_add_right, Nat.add_assoc]
  · rw [if_neg hF, mends.other task.url hF, Nat.add_zero]
    cases hbody : (web task.url).body with
    | error e =>
      refine ⟨?_, Nat.le_succ_of_le h⟩
      simp only [receive, excuse, Tally.excuse, Nat.sub_add_comm h]
    | ok page =>
      rw [receive, receive, read_excuse]
      refine ⟨rfl, ?_⟩
      have htally := congrArg Tally.pagesFailed (tally_receive s task (.ok page) c)
      rw [receive] at htally
      rw [htally]
      exact h

end

theorem waitUntil_excuse (stop : Option Nat) (time n : Nat) (c : Crawl σ) :
    (c.excuse n).waitUntil stop time =
      ((c.waitUntil stop time).1, (c.waitUntil stop time).2.excuse n) := by
  cases stop with
  | none => rfl
  | some stop =>
    have hclock : (c.excuse n).clock = c.clock := rfl
    rw [waitUntil, waitUntil, hclock]
    by_cases hwait : (c.clock < time && stop ≤ time) = true
    · rw [if_pos hwait, if_pos hwait]
      rfl
    · rw [if_neg hwait, if_neg hwait]
      rfl

/-- The request and the answer, whatever it is, come at the same times. -/
theorem await_excuse {task : CrawlTask} (delay : (web' task.url).delay = (web task.url).delay)
    (stop : Option Nat) (n : Nat) (c : Crawl σ) :
    (c.excuse n).await web' stop task =
      ((c.await web stop task).1.map fun _ => (web' task.url).body,
        (c.await web stop task).2.excuse n) := by
  have hstage : { c.excuse n with stage := task.stage } =
    ({ c with stage := task.stage } : Crawl σ).excuse n := rfl
  rw [await, await, hstage]
  generalize ({ c with stage := task.stage } : Crawl σ) = c
  have hturn : (c.excuse n).frontier.turn (c.excuse n).clock = c.frontier.turn c.clock := rfl
  dsimp only
  rw [hturn, waitUntil_excuse]
  cases c.waitUntil stop (c.frontier.turn c.clock) with
  | mk result d =>
    cases result with
    | none => rfl
    | some =>
      have hrequest : (d.excuse n).request task.url = (d.request task.url).excuse n := rfl
      dsimp only
      rw [hrequest, delay]
      generalize d.request task.url = e
      have hclock : (e.excuse n).clock = e.clock := rfl
      rw [hclock, waitUntil_excuse]
      cases e.waitUntil stop (e.clock + (web task.url).delay) with
      | mk result e => cases result <;> rfl

theorem finish_excuse (s : Sink σ) (n : Nat) (c : Crawl σ) :
    (c.excuse n).finish s = ((c.finish s).1.map (Tally.excuse n), (c.finish s).2.excuse n) := by
  have hflush : (c.excuse n).flush s = ((c.flush s).1, (c.flush s).2.excuse n) := rfl
  rw [finish, finish, hflush]
  cases c.flush s with
  | mk result d => cases result <;> rfl

/-! ## Two runs -/

/-- The second answer and crawl are the first ones with so many failed pages counted as parsed. -/
structure Excuses (n : Nat) (first second : Option (Except RunFailure Tally) × Crawl σ) : Prop where
  answer : second.1 = first.1.map (Except.map (Tally.excuse n))
  crawl : second.2 = first.2.excuse n
  failed : n ≤ first.2.tally.pagesFailed

theorem excuses_finish (h : n ≤ c.tally.pagesFailed) (s : Sink σ) :
    Excuses n (some (c.finish s).1, (c.finish s).2)
      (some ((c.excuse n).finish s).1, ((c.excuse n).finish s).2) := by
  rw [finish_excuse]
  refine ⟨rfl, rfl, ?_⟩
  dsimp only
  rw [finish_snd]
  exact h

theorem excuses_abort (h : n ≤ c.tally.pagesFailed) :
    Excuses n (some c.abort.1, c.abort.2) (some (c.excuse n).abort.1, (c.excuse n).abort.2) :=
  ⟨rfl, rfl, h⟩

section

variable {F : Set Url} [DecidablePred (· ∈ F)]

/-- **The two runs go the same way in a turn.** A failed page that is visited is excused from then
on. -/
theorem excuses_step (mends : web.Mends web' F) (s : Sink σ) (stop : Option Nat)
    (h : n ≤ c.tally.pagesFailed) :
    Excuses (n + visitsTo F (c.visit? web s stop).toList) (c.step web s stop)
      ((c.excuse n).step web' s stop) := by
  have hlimit := limitReached_excuse h
  cases hqueue : c.frontier.queue with
  | nil =>
    have hqueue' : (c.excuse n).frontier.queue = [] := hqueue
    rw [step_of_finished (Or.inl hqueue), step_of_finished (Or.inl hqueue'), visit?, hqueue]
    exact excuses_finish h s
  | cons task rest =>
    have hqueue' : (c.excuse n).frontier.queue = task :: rest := hqueue
    cases hreached : c.limitReached with
    | true =>
      rw [hreached] at hlimit
      rw [step_of_finished (Or.inr hreached), step_of_finished (Or.inr hlimit), visit?, hqueue,
        hreached]
      exact excuses_finish h s
    | false =>
      rw [hreached] at hlimit
      have htaken : (c.excuse n).taken = c.taken.excuse n := rfl
      have hclock : (c.taken.excuse n).clock = c.taken.clock := rfl
      have hclockTaken : c.taken.clock = c.clock := rfl
      rw [step_of_next hqueue hreached, step_of_next hqueue' hlimit, htaken, perform, perform,
        hclock, hclockTaken, visit?, hqueue, hreached]
      dsimp only
      cases hstop : isStopped stop c.clock with
      | true => exact excuses_abort (c := c.taken) h
      | false =>
        cases hstage : task.stage.handlesPages with
        | false => exact ⟨rfl, rfl, h⟩
        | true =>
          simp only [Bool.not_true, Bool.or_self, Bool.false_eq_true, if_false]
          rw [await_excuse (mends.delay_eq task.url)]
          cases hawait : c.taken.await web stop task with
          | mk body d =>
            cases body with
            | none =>
              refine excuses_abort (c := d) ?_
              obtain hd | hd := await_eq_none hawait <;> rw [hd] <;> exact h
            | some body =>
              obtain ⟨rfl, rfl⟩ := await_eq_some hawait
              obtain ⟨hreceive, hfailed⟩ := receive_excuse (c := c.taken.answered web task) mends
                s task h
              dsimp only [Option.map_some]
              rw [hreceive, Option.toList_some, visitsTo_singleton]
              dsimp only [visit]
              generalize c.taken.answered web task = e at hfailed ⊢
              cases hreceived : e.receive s task (web task.url).body with
              | mk result e =>
                rw [hreceived] at hfailed
                cases result <;> exact ⟨rfl, rfl, hfailed⟩

theorem excuses_runFor (mends : web.Mends web' F) (s : Sink σ) (stop : Option Nat)
    (h : n ≤ c.tally.pagesFailed) (turns : Nat) :
    Excuses (n + visitsTo F (c.visits web s stop turns)) (c.runFor web s stop turns)
      ((c.excuse n).runFor web' s stop turns) := by
  induction turns generalizing c n with
  | zero => exact ⟨rfl, rfl, h⟩
  | succ turns ih =>
    have hstep := excuses_step mends s stop h
    rw [runFor, runFor, visits, visitsTo_append, ← Nat.add_assoc]
    generalize n + visitsTo F (c.visit? web s stop).toList = m at hstep ⊢
    generalize (c.excuse n).step web' s stop = step' at hstep ⊢
    cases hresult : c.step web s stop with
    | mk result d =>
      rw [hresult] at hstep
      obtain ⟨answer, e⟩ := step'
      obtain ⟨rfl, rfl, hfailed⟩ := hstep
      cases result with
      | none => exact ih hfailed
      | some => exact ⟨rfl, rfl, hfailed⟩

end

/-! ## What makes a run fail -/

/-- A run that fails goes through its turns. -/
theorem runFor_of_run_eq_error {turns : Nat} {failure : RunFailure}
    (hrun : c.run web s stop turns = (some (.error failure), d)) :
    c.runFor web s stop turns = (some (.error failure), d) := by
  rw [run] at hrun
  split at hrun
  · simp at hrun
  · exact hrun

/-- A run that is not to be stopped is not aborted. -/
theorem exists_stop_of_aborted {turns pending : Nat}
    (hrun : c.runFor web s stop turns = (some (.error (.aborted pending)), d)) :
    ∃ time, stop = some time := by
  cases stop with
  | some time => exact ⟨time, rfl⟩
  | none => exact absurd (congrArg Prod.fst hrun) (runFor_not_aborted web s turns c pending)

/-- **A run fails for two reasons only**: the sink refuses the records that are pending, or the run
is stopped from outside. -/
theorem refused_or_stopped {turns : Nat} {failure : RunFailure}
    (hrun : c.run web s stop turns = (some (.error failure), d)) :
    (∃ refusal state, failure = .write refusal ∧ d.buffer.pending ≠ [] ∧
      s.write d.buffer.pending state = (.error refusal, d.buffer.sink)) ∨
    ∃ time pending, failure = .aborted pending ∧ stop = some time := by
  replace hrun := runFor_of_run_eq_error hrun
  cases failure with
  | aborted pending =>
    obtain ⟨time, hstop⟩ := exists_stop_of_aborted hrun
    exact Or.inr ⟨time, pending, rfl, hstop⟩
  | write refusal =>
    have keeps : Keeps s (fun _ => True) fun _ => True := ⟨fun _ _ => trivial, fun _ => trivial⟩
    obtain ⟨b, -, hflush⟩ := keeps.refused_of_runFor (fun _ _ _ _ _ => trivial) trivial hrun
    refine Or.inl ⟨refusal, b.sink, rfl, ?_⟩
    generalize d.buffer = b' at hflush
    cases flush_outcome hflush with
    | refused hpending write => exact ⟨hpending, write⟩

/-- A run that answers with a tally answers with that of the crawl. -/
theorem tally_of_run_eq_ok {turns : Nat} {tally : Tally}
    (hrun : c.run web s stop turns = (some (.ok tally), d)) : tally = d.tally := by
  rw [run] at hrun
  split at hrun
  · simp only [Prod.mk.injEq, Option.some.injEq, Except.ok.injEq] at hrun
    obtain ⟨rfl, rfl⟩ := hrun
    rfl
  · obtain ⟨-, -, e, -, -, hlast⟩ := exists_last_turn hrun
    rw [step_of_finished (finished_of_step_eq_ok hlast)] at hlast
    generalize hf : e.finish s = ended at hlast
    cases finish_outcome hf with
    | refused => simp at hlast
    | written =>
      simp only [Prod.mk.injEq, Option.some.injEq, Except.ok.injEq] at hlast
      obtain ⟨rfl, rfl⟩ := hlast
      rfl

/-- With a sink that takes all batches, a run that ends answers with the tally. -/
theorem run_eq_ok_of_takes {kind : ProductRecord → Prop} {P : RecordBuffer σ → Prop}
    (takes : Takes s kind P) (yields : Catalog.Yields kind) (hP : P c.buffer) {turns : Nat}
    {result : Except RunFailure Tally} (hrun : c.run web s none turns = (some result, d)) :
    result = .ok d.tally := by
  cases result with
  | ok tally => rw [tally_of_run_eq_ok hrun]
  | error failure =>
    replace hrun := runFor_of_run_eq_error hrun
    cases failure with
    | aborted pending =>
      obtain ⟨time, hstop⟩ := exists_stop_of_aborted hrun
      cases hstop
    | write refusal =>
      obtain ⟨b, hb, hflush⟩ := takes.refused_of_runFor yields hP hrun
      obtain ⟨n, hn⟩ := takes.accepts hb
      simp [hflush] at hn

/-- **Failed pages are contained.** A crawl with any sink, of which nothing needs to be known, is run
on two webs. The pages in `F` cannot be fetched on the first one, for whatever reasons; on the second
one they come after the same time and hold no product and no link. Then both runs leave the crawl
in the same state, with the same requests at the same times, the same buffer and the same state of
the sink, which may have logged all batches that it was given, accepted or not, and both answer the
same: only the visits to pages in `F` count as failed in the first one and as parsed in the second.

So no failed page makes a run fail. A run does so only if the sink refuses the pending records or if
the run is stopped from outside; with a sink that never fails, and without a stop, a run that ends
answers with the tally, whatever was done to the crawl before. -/
theorem failed_pages_are_contained (s : Sink σ) :
    (∀ (c : Crawl σ) (web web' : Web) (F : Set Url) [DecidablePred (· ∈ F)] (stop : Option Nat)
      (turns : Nat), web.Mends web' F →
      let n := visitsTo F (c.visitsIn s (.run web stop turns))
      let first := c.run web s stop turns
      c.run web' s stop turns = (first.1.map (Except.map (Tally.excuse n)), first.2.excuse n) ∧
        n ≤ first.2.tally.pagesFailed) ∧
    (∀ (c d : Crawl σ) (web : Web) (stop : Option Nat) (turns : Nat) (failure : RunFailure),
      c.run web s stop turns = (some (.error failure), d) →
      (∃ refusal state, failure = .write refusal ∧ d.buffer.pending ≠ [] ∧
        s.write d.buffer.pending state = (.error refusal, d.buffer.sink)) ∨
      ∃ time pending, failure = .aborted pending ∧ stop = some time) ∧
    ∀ (state : σ), s.NeverFails state →
      ∀ (label : String) (maxPages : Option Nat) (frontier : Frontier) (batchSize : Nat)
        (actions : List Action) (web : Web) (turns : Nat) (result : Except RunFailure Tally)
        (d : Crawl σ),
      ((fresh label maxPages frontier state batchSize).actAll s actions).run web s none turns =
        (some result, d) → result = .ok d.tally := by
  refine ⟨?_, ?_, ?_⟩
  · intro c web web' F _ stop turns mends
    rw [visitsIn]
    by_cases hstage : c.stage.isTerminal = true
    · rw [if_pos hstage, run_of_isTerminal hstage, run_of_isTerminal hstage]
      exact ⟨rfl, Nat.zero_le _⟩
    · obtain ⟨hanswer, hcrawl, hfailed⟩ :=
        excuses_runFor (c := c) mends s stop (Nat.zero_le _) turns
      rw [Nat.zero_add] at hanswer hcrawl hfailed
      rw [if_neg hstage, run, run, if_neg hstage, if_neg hstage]
      exact ⟨Prod.ext hanswer hcrawl, hfailed⟩
  · intro c d web stop turns failure hrun
    exact refused_or_stopped hrun
  · intro state accepts label maxPages frontier batchSize actions web turns result d hrun
    obtain ⟨P, takes, hP⟩ := accepts.exists_takes
    have hstart : P (fresh label maxPages frontier state batchSize).buffer := hP batchSize
    exact run_eq_ok_of_takes takes Catalog.yields_isRead
      (takes.actAll Catalog.yields_isRead hstart actions) hrun

/-- Two pages, of which the second times out on one web and is empty on the other. -/
theorem bell_crawled_beside_timeout :
    let a : Url := { scheme := "http", host := some (.name "a"), path := .segments [""] }
    let b : Url := { a with path := .segments ["b"] }
    let web (body : Except FetchError String) : Web := fun url =>
      if url = b then { delay := 40, body } else { body := .ok (shelf [("1", "Bell")]) }
    let failing := web (.error (.timeout "http://a/b"))
    let F : Set Url := {url | url = b}
    let s : Sink Unit := ⟨fun _ _ => (.ok (), ())⟩
    let start := (fresh "Skladem" none {} () 1).actAll s [.seedCategories [a, b]]
    let n := visitsTo F (start.visitsIn s (.run failing none 3))
    let first := start.run failing s none 3
    let tally : Tally :=
      { pagesParsed := 1, pagesFailed := 1, recordsExtracted := 1, batchesWritten := 1,
        recordsWritten := 1 }
    failing.Mends (web (.ok "")) F ∧ s.NeverFails () ∧ n = 1 ∧ first.1 = some (.ok tally) ∧
      start.run (web (.ok "")) s none 3 =
        (first.1.map (Except.map (Tally.excuse n)), first.2.excuse n) ∧
      n ≤ first.2.tally.pagesFailed ∧ tally = first.2.tally := by
  intro a b web failing F s start n first tally
  have hbare : Catalog.IsBare "" := by
    constructor <;> decide +kernel
  have mends : failing.Mends (web (.ok "")) F := by
    refine ⟨fun url hurl => ?_, fun url hurl => ?_, fun url hurl => ?_, fun url hurl => ?_⟩
    · replace hurl : url ≠ b := hurl
      simp only [failing, web, if_neg hurl]
    all_goals replace hurl : url = b := hurl
    · simp only [failing, web, if_pos hurl]
    · exact ⟨.timeout "http://a/b", by simp only [failing, web, if_pos hurl]⟩
    · exact ⟨"", by simp only [web, if_pos hurl], hbare⟩
  have accepts : s.NeverFails () := ⟨fun _ => True, trivial, fun _ _ _ _ => ⟨rfl, trivial⟩⟩
  obtain ⟨contained, -, ok⟩ := failed_pages_are_contained s
  obtain ⟨hrun, -⟩ := contained start failing (web (.ok "")) F none 3 mends
  have hn : n = 1 := by decide +kernel
  have hanswer : first.1 = some (.ok tally) := by decide +kernel
  have hfirst : (first.1, first.2) = first := Prod.mk.eta
  rw [hanswer] at hfirst
  have htally : tally = first.2.tally := Except.ok.inj
    (ok () accepts "Skladem" none {} 1 [.seedCategories [a, b]] failing 3 _ _ hfirst.symm)
  have hfailed : n ≤ first.2.tally.pagesFailed := by
    rw [hn, ← htally]
  exact ⟨mends, accepts, hn, hanswer, hrun, hfailed, htally⟩

end Crawl

end PriceTracker
