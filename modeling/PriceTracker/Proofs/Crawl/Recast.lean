import PriceTracker.Proofs.Crawl.History

/-!
# What a crawl sees of its sink and of its limit

Of its sink a crawl sees the answers only, and its page limit is looked at between two pages only.
So two crawls go on alike if their sinks give the same answers, and if both or none of them have
reached their limits.

* `Sink.Shows` says that a sink gives the answers of another one, whose state is a part of its own;
* `Crawl.recast` is a crawl with another page limit, whose sink shows that part only;
* `step_recast`: if the limits agree, a turn of the recast crawl is the recast turn;
* `run_through`: a run of the crawl that is recast in its sink only is the recast run.
-/

namespace PriceTracker

variable {σ τ : Type} {s : Sink σ} {t : Sink τ} {view : τ → σ}

/-- The first sink answers like the second one, and its state shows the state of that one. -/
def Sink.Shows (t : Sink τ) (s : Sink σ) (view : τ → σ) : Prop :=
  ∀ batch state,
    s.write batch (view state) = ((t.write batch state).1, view (t.write batch state).2)

theorem Sink.shows_id (s : Sink σ) : s.Shows s id :=
  fun _ _ => rfl

/-! ## Buffers -/

namespace RecordBuffer

/-- The buffer of which the sink shows a part only. -/
def through (view : τ → σ) (b : RecordBuffer τ) : RecordBuffer σ :=
  { b with sink := view b.sink }

theorem flush_through (h : t.Shows s view) (b : RecordBuffer τ) :
    (b.through view).flush s = ((b.flush t).1, (b.flush t).2.through view) := by
  have hwrite := h b.pending b.sink
  cases hpending : b.pending.isEmpty with
  | true => simp [flush, through, hpending]
  | false =>
    cases ht : t.write b.pending b.sink with
    | mk result sink =>
      rw [ht] at hwrite
      cases result <;> simp [flush, through, hpending, hwrite, ht]

theorem append_through (h : t.Shows s view) (r : ProductRecord) (b : RecordBuffer τ) :
    (b.through view).append s r = ((b.append t r).1, (b.append t r).2.through view) := by
  have hadd : (b.through view).add r = (b.add r).through view := rfl
  have hthreshold : (b.through view).threshold = b.threshold := rfl
  have hpending : (b.through view).pending = b.pending := rfl
  rw [append_eq, append_eq, hadd, flush_through h, hthreshold, hpending]
  split <;> rfl

theorem after_through (h : t.Shows s view) (calls : List Call) (b : RecordBuffer τ) :
    (b.through view).after s calls = (b.after t calls).through view := by
  induction calls generalizing b with
  | nil => rfl
  | cons call calls ih =>
    have hcall : (b.through view).perform s call = (b.perform t call).through view := by
      cases call with
      | append r => exact congrArg Prod.snd (append_through h r b)
      | flush => exact congrArg Prod.snd (flush_through h b)
    rw [after_cons, after_cons, hcall, ih]

theorem consumed_through (h : t.Shows s view)
    (blocks : List (Except ExtractionError ProductRecord)) (b : RecordBuffer τ) :
    (b.through view).consumed s blocks = b.consumed t blocks := by
  induction blocks generalizing b with
  | nil => rfl
  | cons block blocks ih =>
    cases block with
    | error e => exact congrArg _ (ih b)
    | ok r =>
      rw [consumed, consumed, append_through h]
      cases b.append t r with
      | mk result b =>
        cases result with
        | ok => simp only [ih]
        | error => rfl

end RecordBuffer

namespace Crawl

variable {web : Web} {stop : Option Nat} {task : CrawlTask} {limit : Option Nat}

/-! ## One turn -/

/-- The crawl with another page limit, of whose sink a part is shown only. -/
def recast (limit : Option Nat) (view : τ → σ) (c : Crawl τ) : Crawl σ :=
  { c with maxPages := limit, buffer := c.buffer.through view }

theorem collect_recast (h : t.Shows s view)
    (blocks : List (Except ExtractionError ProductRecord)) (c : Crawl τ) :
    (c.recast limit view).collect s blocks =
      ((c.collect t blocks).1, (c.collect t blocks).2.recast limit view) := by
  induction blocks generalizing c with
  | nil => rfl
  | cons block blocks ih =>
    cases block with
    | error e =>
      rw [collect, collect]
      exact ih { c with tally := { c.tally with recordsDropped := c.tally.recordsDropped + 1 } }
    | ok r =>
      have happend : (c.recast limit view).buffer.append s r = _ :=
        RecordBuffer.append_through h r c.buffer
      rw [collect, collect, happend]
      cases c.buffer.append t r with
      | mk result b =>
        cases result with
        | ok => exact ih { c with
            tally := { c.tally with recordsExtracted := c.tally.recordsExtracted + 1 }
            buffer := b }
        | error => rfl

theorem receive_recast (h : t.Shows s view) (task : CrawlTask) (body : Except FetchError String)
    (c : Crawl τ) :
    (c.recast limit view).receive s task body =
      ((c.receive t task body).1, (c.receive t task body).2.recast limit view) := by
  cases body with
  | error e => rfl
  | ok page =>
    by_cases hroot : task.stage = .categoryDiscovery
    · rw [receive, receive, read_root s hroot, read_root t hroot]
      rfl
    · have hlabel : (c.recast limit view).label = c.label := rfl
      have hcount : (c.recast limit view).countPage = c.countPage.recast limit view := rfl
      rw [receive, receive, read_listing s hroot, read_listing t hroot]
      dsimp only
      rw [hlabel, hcount, collect_recast h]
      dsimp only
      cases c.countPage.collect t (Catalog.listing c.label page task.url).products with
      | mk result d => cases result <;> rfl

theorem finish_recast (h : t.Shows s view) (c : Crawl τ) :
    (c.recast limit view).finish s = ((c.finish t).1, (c.finish t).2.recast limit view) := by
  have hflush : (c.recast limit view).buffer.flush s = _ :=
    RecordBuffer.flush_through h c.buffer
  rw [finish, finish, flush, flush, hflush]
  cases c.buffer.flush t with
  | mk result b => cases result <;> rfl

theorem waitUntil_recast (stop : Option Nat) (time : Nat) (c : Crawl τ) :
    (c.recast limit view).waitUntil stop time =
      ((c.waitUntil stop time).1, (c.waitUntil stop time).2.recast limit view) := by
  cases stop with
  | none => rfl
  | some stop =>
    have hclock : (c.recast limit view).clock = c.clock := rfl
    rw [waitUntil, waitUntil, hclock]
    by_cases hwait : (c.clock < time && stop ≤ time) = true
    · rw [if_pos hwait, if_pos hwait]
      rfl
    · rw [if_neg hwait, if_neg hwait]
      rfl

theorem await_recast (web : Web) (stop : Option Nat) (task : CrawlTask) (c : Crawl τ) :
    (c.recast limit view).await web stop task =
      ((c.await web stop task).1, (c.await web stop task).2.recast limit view) := by
  have hstage : { c.recast limit view with stage := task.stage } =
    ({ c with stage := task.stage } : Crawl τ).recast limit view := rfl
  rw [await, await, hstage]
  generalize ({ c with stage := task.stage } : Crawl τ) = c
  have hturn : (c.recast limit view).frontier.turn (c.recast limit view).clock =
    c.frontier.turn c.clock := rfl
  dsimp only
  rw [hturn, waitUntil_recast]
  cases c.waitUntil stop (c.frontier.turn c.clock) with
  | mk result d =>
    cases result with
    | none => rfl
    | some =>
      have hrequest : (d.recast limit view).request task.url =
        (d.request task.url).recast limit view := rfl
      dsimp only
      rw [hrequest]
      generalize d.request task.url = e
      have hclock : (e.recast limit view).clock = e.clock := rfl
      rw [hclock, waitUntil_recast]
      cases e.waitUntil stop (e.clock + (web task.url).delay) with
      | mk result e => cases result <;> rfl

theorem perform_recast (h : t.Shows s view) (web : Web) (stop : Option Nat) (task : CrawlTask)
    (c : Crawl τ) :
    (c.recast limit view).perform web s stop task =
      ((c.perform web t stop task).1, (c.perform web t stop task).2.recast limit view) := by
  have hclock : (c.recast limit view).clock = c.clock := rfl
  rw [perform, perform, hclock]
  split
  · rfl
  · split
    · rfl
    · rw [await_recast]
      cases c.await web stop task with
      | mk body d =>
        cases body with
        | none => rfl
        | some body =>
          dsimp only
          rw [receive_recast h]
          cases d.receive t task body with
          | mk result e => cases result <;> rfl

/-- **A turn looks at the limit once**, and of the sink it sees the answers only. -/
theorem step_recast (h : t.Shows s view) (web : Web) (stop : Option Nat) {c : Crawl τ}
    (hlimit : (c.recast limit view).limitReached = c.limitReached) :
    (c.recast limit view).step web s stop =
      ((c.step web t stop).1, (c.step web t stop).2.recast limit view) := by
  cases hqueue : c.frontier.queue with
  | nil =>
    have hempty : (c.recast limit view).frontier.queue = [] := hqueue
    rw [step_of_finished (Or.inl hqueue), step_of_finished (Or.inl hempty), finish_recast h]
  | cons task rest =>
    cases hreached : c.limitReached with
    | true =>
      rw [hreached] at hlimit
      rw [step_of_finished (Or.inr hreached), step_of_finished (Or.inr hlimit), finish_recast h]
    | false =>
      have hnext : (c.recast limit view).frontier.queue = task :: rest := hqueue
      rw [hreached] at hlimit
      rw [step_of_next hqueue hreached, step_of_next hnext hlimit]
      exact perform_recast h web stop task c.taken

/-- The same page is visited in that turn. -/
theorem visit?_recast (h : t.Shows s view) (web : Web) (stop : Option Nat) {c : Crawl τ}
    (hlimit : (c.recast limit view).limitReached = c.limitReached) :
    (c.recast limit view).visit? web s stop = c.visit? web t stop := by
  have hqueue : (c.recast limit view).frontier.queue = c.frontier.queue := rfl
  have hclock : (c.recast limit view).clock = c.clock := rfl
  have htaken : (c.recast limit view).taken = c.taken.recast limit view := rfl
  rw [visit?, visit?, hqueue, hclock, hlimit, htaken]
  cases c.frontier.queue with
  | nil => rfl
  | cons task rest =>
    dsimp only
    split
    · rfl
    · rw [await_recast]
      cases c.taken.await web stop task with
      | mk body d =>
        cases body with
        | none => rfl
        | some body =>
          have hconsumed : (d.recast limit view).consumed s task body = d.consumed t task body :=
            RecordBuffer.consumed_through h _ d.buffer
          simp only [visit, hconsumed, receive_recast h]

/-! ## Runs with a sink that shows another one -/

/-- The crawl of whose sink a part is shown only. -/
def through (view : τ → σ) (c : Crawl τ) : Crawl σ :=
  c.recast c.maxPages view

theorem maxPages_finish (s : Sink σ) (c : Crawl σ) : (c.finish s).2.maxPages = c.maxPages := by
  rw [finish_snd]

theorem maxPages_step (web : Web) (s : Sink σ) (stop : Option Nat) (c : Crawl σ) :
    (c.step web s stop).2.maxPages = c.maxPages := by
  generalize hv : c.visit? web s stop = visit
  generalize hstep : c.step web s stop = result
  cases turn_of_step hv hstep with
  | finished => exact maxPages_finish s c
  | stopped => rfl
  | skipped => rfl
  | interrupted _ _ _ await =>
    obtain hd | hd := await_eq_none await <;> rw [hd] <;> rfl
  | @visited task _ _ _ _ _ receive =>
    have hlimit := maxPages_receive s task (web task.url).body (c.taken.answered web task)
    rwa [receive] at hlimit
  | @failed task _ _ _ _ _ _ receive =>
    have hlimit := maxPages_receive s task (web task.url).body (c.taken.answered web task)
    rwa [receive] at hlimit

theorem step_through (h : t.Shows s view) (web : Web) (stop : Option Nat) (c : Crawl τ) :
    (c.through view).step web s stop =
      ((c.step web t stop).1, (c.step web t stop).2.through view) := by
  have hstep : (c.recast c.maxPages view).step web s stop = _ := step_recast h web stop rfl
  rw [through, through, hstep, maxPages_step]

theorem runFor_through (h : t.Shows s view) (web : Web) (stop : Option Nat) (turns : Nat)
    (c : Crawl τ) :
    (c.through view).runFor web s stop turns =
      ((c.runFor web t stop turns).1, (c.runFor web t stop turns).2.through view) := by
  induction turns generalizing c with
  | zero => rfl
  | succ turns ih =>
    rw [runFor, runFor, step_through h]
    cases c.step web t stop with
    | mk result d =>
      cases result with
      | none => exact ih d
      | some => rfl

/-- The same pages are visited. -/
theorem visits_through (h : t.Shows s view) (web : Web) (stop : Option Nat) (turns : Nat)
    (c : Crawl τ) : (c.through view).visits web s stop turns = c.visits web t stop turns := by
  induction turns generalizing c with
  | zero => rfl
  | succ turns ih =>
    have hvisit : (c.through view).visit? web s stop = c.visit? web t stop :=
      visit?_recast h web stop rfl
    rw [visits, visits, step_through h, hvisit]
    cases c.step web t stop with
    | mk result d =>
      cases result with
      | none => simp only [ih]
      | some => rfl

/-- **A run sees the answers of its sink only.** -/
theorem run_through (h : t.Shows s view) (web : Web) (stop : Option Nat) (turns : Nat)
    (c : Crawl τ) :
    (c.through view).run web s stop turns =
      ((c.run web t stop turns).1, (c.run web t stop turns).2.through view) := by
  have hstage : (c.through view).stage = c.stage := rfl
  rw [run, run, hstage, runFor_through h]
  split <;> rfl

end Crawl

end PriceTracker
