import PriceTracker.Proofs.Crawl.Coverage
import PriceTracker.Proofs.Crawl.Recast
import PriceTracker.Proofs.Crawl.Reliable
import PriceTracker.Proofs.Crawl.Stopping

/-!
# Page limits

The page limit is compared with the number of visited pages before each page, so a crawl never
visits more pages than that, whatever is done to it (`WithinLimit`). A crawl with a smaller limit
goes on like one with a larger limit until it has reached its own:

* `pagesVisited_runFor` and `visited_runFor`: each visit is counted, and is one of the requests;
* `runFor_ends_of_limit`: with a limit every run ends, on any web;
* `Completed` says what a run has done when it ends and no batch was refused;
* `completed_take_of_limit`: the pages that it visits then are the first of those that a crawl with
  a larger limit or none visits.
-/

namespace PriceTracker

/-- The links of a page are pages to read. -/
theorem CrawlTask.handlesPages_of_mem_leadsTo {task next : CrawlTask}
    {body : Except FetchError String} (h : next ∈ task.leadsTo body) :
    next.stage.handlesPages = true := by
  rw [stage_of_mem_leadsTo h]
  rfl

namespace Frontier

/-- The waiting tasks of stages that read no pages. -/
def idle (f : Frontier) : Nat :=
  f.queue.countP fun task => !task.stage.handlesPages

theorem idle_pushAll {tasks : List CrawlTask} (h : ∀ task ∈ tasks, task.stage.handlesPages = true)
    (f : Frontier) : (f.pushAll tasks).idle = f.idle := by
  induction tasks generalizing f with
  | nil => rfl
  | cons task tasks ih =>
    obtain ⟨htask, htasks⟩ := List.forall_mem_cons.1 h
    have hpush : (f.push task).idle = f.idle := by
      cases hnew : f.isNew task with
      | true => simp [idle, queue_push_of_isNew hnew, htask]
      | false => rw [push_of_not_isNew hnew]
    exact (ih htasks (f.push task)).trans hpush

theorem idle_rest {f : Frontier} {task : CrawlTask} {rest : List CrawlTask}
    (h : f.queue = task :: rest) :
    f.idle = f.rest.idle + if task.stage.handlesPages then 0 else 1 := by
  rw [idle, idle, queue_rest, h, List.tail_cons, List.countP_cons]
  cases task.stage.handlesPages <;> rfl

end Frontier

namespace Crawl

open RecordBuffer Storage

variable {σ : Type} {web : Web} {s : Sink σ} {stop : Option Nat} {c d e : Crawl σ} {k turns : Nat}

/-! ## Visits -/

theorem pagesVisited_finish (s : Sink σ) (c : Crawl σ) :
    (c.finish s).2.tally.pagesVisited = c.tally.pagesVisited := by
  rw [finish_snd]
  rfl

/-- **Each visit is counted**, and nothing else is. -/
theorem pagesVisited_step (web : Web) (s : Sink σ) (stop : Option Nat) (c : Crawl σ) :
    (c.step web s stop).2.tally.pagesVisited =
      c.tally.pagesVisited + (c.visit? web s stop).toList.length := by
  generalize hv : c.visit? web s stop = visit
  generalize hstep : c.step web s stop = result
  cases turn_of_step hv hstep with
  | finished => exact pagesVisited_finish s c
  | stopped => rfl
  | skipped => rfl
  | interrupted _ _ _ await =>
    obtain hd | hd := await_eq_none await <;> rw [hd] <;> rfl
  | @visited task _ _ _ _ _ receive =>
    have hcount := pagesVisited_receive s task (web task.url).body (c.taken.answered web task)
    rwa [receive] at hcount
  | @failed task _ _ _ _ _ _ receive =>
    have hcount := pagesVisited_receive s task (web task.url).body (c.taken.answered web task)
    rwa [receive] at hcount

/-- A run that is not to be stopped asks for the pages that it visits. -/
theorem visited_step (web : Web) (s : Sink σ) (c : Crawl σ) :
    (c.step web s none).2.visited =
      c.visited ++ (c.visit? web s none).toList.map fun v => v.task.url := by
  generalize hv : c.visit? web s none = visit
  generalize hstep : c.step web s none = result
  cases turn_of_step hv hstep with
  | finished =>
    rw [visited, requests_finish]
    exact (List.append_nil _).symm
  | stopped _ _ h => simp [isStopped] at h
  | skipped => exact (List.append_nil _).symm
  | interrupted _ _ _ await => simp [await_none] at await
  | visited _ _ _ receive => exact visited_receive receive
  | failed _ _ _ receive => exact visited_receive receive

theorem pagesVisited_runFor (web : Web) (s : Sink σ) (stop : Option Nat) (turns : Nat)
    (c : Crawl σ) :
    (c.runFor web s stop turns).2.tally.pagesVisited =
      c.tally.pagesVisited + (c.visits web s stop turns).length :=
  runFor_induction (R := fun c vs d => d.tally.pagesVisited = c.tally.pagesVisited + vs.length)
    (fun _ => rfl) (fun h₁ h₂ => by rw [h₂, h₁, List.length_append, Nat.add_assoc])
    (pagesVisited_step web s stop) turns c

theorem visited_runFor (web : Web) (s : Sink σ) (turns : Nat) (c : Crawl σ) :
    (c.runFor web s none turns).2.visited =
      c.visited ++ (c.visits web s none turns).map fun v => v.task.url :=
  runFor_induction (R := fun c vs d => d.visited = c.visited ++ vs.map fun v => v.task.url)
    (fun _ => (List.append_nil _).symm)
    (fun h₁ h₂ => by rw [h₂, h₁, List.map_append, List.append_assoc])
    (visited_step web s) turns c

/-! ## The limit -/

/-- The crawl has a limit and keeps to it. -/
structure WithinLimit (k : Nat) (c : Crawl σ) : Prop where
  maxPages : c.maxPages = some k
  visited : c.tally.pagesVisited ≤ k

theorem limitReached_eq_false_iff (h : c.maxPages = some k) :
    c.limitReached = false ↔ c.tally.pagesVisited < k := by
  rw [limitReached, h, Option.any_some, decide_eq_false_iff_not, Nat.not_le]

namespace WithinLimit

theorem step (h : c.WithinLimit k) (web : Web) (s : Sink σ) (stop : Option Nat) :
    (c.step web s stop).2.WithinLimit k := by
  refine ⟨(maxPages_step web s stop c).trans h.maxPages, ?_⟩
  have hcount := pagesVisited_step web s stop c
  generalize hv : c.visit? web s stop = visit at hcount
  rw [hcount]
  cases visit with
  | none => exact h.visited
  | some =>
    generalize hstep : c.step web s stop = result
    -- A page is visited only if the limit is not reached.
    cases turn_of_step hv hstep with
    | visited _ limit => exact (limitReached_eq_false_iff h.maxPages).1 limit
    | failed _ limit => exact (limitReached_eq_false_iff h.maxPages).1 limit

theorem runFor (h : c.WithinLimit k) (web : Web) (s : Sink σ) (stop : Option Nat) (turns : Nat) :
    (c.runFor web s stop turns).2.WithinLimit k :=
  runFor_keeps (fun _ h => h.step web s stop) h turns

theorem actAll (h : c.WithinLimit k) (s : Sink σ) (actions : List Action) :
    (c.actAll s actions).WithinLimit k :=
  actAll_keeps (fun _ _ h => ⟨h.maxPages, h.visited⟩) (fun _ h => ⟨h.maxPages, h.visited⟩)
    (fun web stop _ h => h.step web s stop) h actions

end WithinLimit

/-! ## Every run with a limit ends -/

/-- The tasks that are left out and the pages that may be visited yet. -/
def allowance (k : Nat) (c : Crawl σ) : Nat :=
  c.frontier.idle + (k - c.tally.pagesVisited)

/-- A turn ends the run or uses up something. -/
theorem allowance_step (h : c.maxPages = some k) (hstep : c.step web s stop = (none, d)) :
    d.allowance k < c.allowance k := by
  generalize hv : c.visit? web s stop = visit
  generalize hresult : c.step web s stop = result at hstep
  cases turn_of_step hv hresult with
  | finished => simp at hstep
  | stopped => simp at hstep
  | @skipped task rest next _ stage =>
    obtain ⟨-, rfl⟩ := Prod.mk.inj hstep
    have hidle : c.frontier.idle = c.taken.frontier.idle + 1 := by
      rw [Frontier.idle_rest next, stage]
      rfl
    rw [allowance, allowance, hidle]
    exact Nat.add_lt_add_right (Nat.lt_succ_self _) _
  | interrupted => simp at hstep
  | @visited task rest d' next limit stage receive =>
    obtain ⟨-, rfl⟩ := Prod.mk.inj hstep
    have hidle : d'.frontier.idle = c.frontier.idle := by
      rw [frontier_receive_of_ok receive,
        Frontier.idle_pushAll fun _ hnext => CrawlTask.handlesPages_of_mem_leadsTo hnext,
        Frontier.idle_rest next, stage]
      rfl
    have hcount := pagesVisited_step web s stop c
    rw [hv, hresult] at hcount
    replace hcount : d'.tally.pagesVisited = c.tally.pagesVisited + 1 := hcount
    have hlt := (limitReached_eq_false_iff h).1 limit
    rw [allowance, allowance, hidle, hcount]
    omega
  | failed => simp at hstep

theorem runFor_ends_of_limit (h : c.maxPages = some k) (s : Sink σ) (stop : Option Nat)
    (hturns : c.allowance k < turns) :
    ∃ result d, c.runFor web s stop turns = (some result, d) := by
  refine runFor_ends (I := fun c => c.maxPages = some k) (fun c d hc hstep => ⟨?_, ?_⟩) h hturns
  · have hlimit := maxPages_step web s stop c
    rw [hstep] at hlimit
    exact hlimit.trans hc
  · exact allowance_step hc hstep

/-! ## The end of a run -/

theorem limitReached_finish (s : Sink σ) (c : Crawl σ) :
    (c.finish s).2.limitReached = c.limitReached := by
  rw [limitReached, maxPages_finish, pagesVisited_finish, limitReached]

/-- Only the end of a crawl answers with a tally. -/
theorem finished_of_step_eq_ok {tally : Tally} (h : c.step web s stop = (some (.ok tally), d)) :
    c.frontier.queue = [] ∨ c.limitReached = true := by
  generalize hv : c.visit? web s stop = visit
  generalize hstep : c.step web s stop = result at h
  cases turn_of_step hv hstep with
  | finished hend => exact hend
  | stopped => simp [abort] at h
  | skipped => simp at h
  | interrupted => simp [abort] at h
  | visited => simp at h
  | failed => simp at h

/-- A run that answers with a tally leaves no task, or has reached its limit. -/
theorem finished_of_runFor_eq_ok {tally : Tally}
    (hrun : c.runFor web s stop turns = (some (.ok tally), d)) :
    d.frontier.queue = [] ∨ d.limitReached = true := by
  obtain ⟨n, more, m, rfl, hm, hlast⟩ := exists_last_turn hrun
  have hend := finished_of_step_eq_ok hlast
  rw [step_of_finished hend] at hlast
  obtain rfl := congrArg Prod.snd hlast
  rwa [frontier_finish, limitReached_finish]

/-- Without a task, and at its limit, a crawl visits no page. -/
theorem visits_of_ended (turns : Nat) (hend : c.frontier.queue = [] ∨ c.limitReached = true) :
    c.visits web s stop turns = [] := by
  cases turns with
  | zero => rfl
  | succ turns =>
    have hvisit : c.visit? web s stop = none := by
      rw [visit?]
      obtain hqueue | hlimit := hend
      · rw [hqueue]
      · cases c.frontier.queue with
        | nil => rfl
        | cons => simp [hlimit]
    rw [visits, hvisit, step_of_finished hend]
    rfl

/-! ## Two limits -/

theorem visits_add_of_going (hrun : c.runFor web s stop turns = (none, d)) (more : Nat) :
    c.visits web s stop (turns + more) =
      c.visits web s stop turns ++ d.visits web s stop more := by
  induction turns generalizing c with
  | zero =>
    obtain rfl : c = d := congrArg Prod.snd hrun
    rw [Nat.zero_add]
    rfl
  | succ turns ih =>
    rw [runFor] at hrun
    rw [Nat.succ_add, visits, visits]
    cases hstep : c.step web s stop with
    | mk answer e =>
      rw [hstep] at hrun
      cases answer with
      | none =>
        dsimp only
        rw [ih hrun, List.append_assoc]
      | some => simp at hrun

section

variable {limit : Option Nat}

/-- As long as the smaller limit is not reached, the larger one is not. -/
theorem limitReached_recast (le : ∀ k' ∈ limit, k ≤ k') (h : c.maxPages = some k)
    (hlimit : c.limitReached = false) :
    (c.recast limit id).limitReached = c.limitReached := by
  have hlt := (limitReached_eq_false_iff h).1 hlimit
  rw [hlimit]
  cases limit with
  | none => rfl
  | some k' =>
    have hle := le k' rfl
    exact (limitReached_eq_false_iff (c := c.recast (some k') id) rfl).2 (hlt.trans_le hle)

/-- **Until it has reached its limit, a crawl goes like one with a larger limit or none.** -/
theorem runFor_recast (le : ∀ k' ∈ limit, k ≤ k') (h : c.maxPages = some k)
    (hrun : c.runFor web s stop turns = (none, d)) :
    (c.recast limit id).runFor web s stop turns = (none, d.recast limit id) ∧
      (c.recast limit id).visits web s stop turns = c.visits web s stop turns := by
  induction turns generalizing c with
  | zero =>
    obtain rfl : c = d := congrArg Prod.snd hrun
    exact ⟨rfl, rfl⟩
  | succ turns ih =>
    have hmaxPages := maxPages_step web s stop c
    rw [runFor] at hrun
    cases hstep : c.step web s stop with
    | mk answer e =>
      rw [hstep] at hrun hmaxPages
      cases answer with
      | some => simp at hrun
      | none =>
        have hlimit := limitReached_recast le h (hasNext_of_step_eq_none hstep).2
        obtain ⟨hrest, hvisits⟩ := ih (hmaxPages.trans h) hrun
        rw [runFor, visits, visits, step_recast s.shows_id web stop hlimit,
          visit?_recast s.shows_id web stop hlimit, hstep]
        exact ⟨hrest, congrArg _ hvisits⟩

end

/-! ## Runs whose batches are all accepted -/

section

variable {kind : ProductRecord → Prop} {P : RecordBuffer σ → Prop}

/-- No page is cut short. -/
theorem outcome_of_visit? (takes : Takes s kind P) (yields : Catalog.Yields kind)
    (hP : P c.buffer) {v : Visit} (hvisit : c.visit? web s none = some v) :
    v.outcome = .ok () := by
  generalize hstep : c.step web s none = result
  cases turn_of_step hvisit hstep with
  | visited _ _ _ receive => exact congrArg Prod.fst receive
  | failed =>
    obtain ⟨b, hb, hflush⟩ := takes.refused_of_step yields hP hstep
    obtain ⟨n, hn⟩ := takes.accepts hb
    simp [hflush] at hn

theorem outcome_of_mem_visits (takes : Takes s kind P) (yields : Catalog.Yields kind)
    (hP : P c.buffer) : ∀ v ∈ c.visits web s none turns, v.outcome = .ok () := by
  have hrun : P (c.runFor web s none turns).2.buffer ∧
      ∀ v ∈ c.visits web s none turns, v.outcome = .ok () := by
    refine runFor_induction
      (R := fun c vs d => P c.buffer → P d.buffer ∧ ∀ v ∈ vs, v.outcome = .ok ())
      (fun _ h => ⟨h, List.forall_mem_nil _⟩) (fun h₁ h₂ h => ?_) (fun c h => ?_) turns c hP
    · obtain ⟨hd, hvs⟩ := h₁ h
      obtain ⟨he, hws⟩ := h₂ hd
      exact ⟨he, List.forall_mem_append.2 ⟨hvs, hws⟩⟩
    · exact ⟨takes.step yields h web none,
        fun v hv => outcome_of_visit? takes yields h (Option.mem_toList.1 hv)⟩
  exact hrun.2

end

/-- The crawl is over because no task is left or its limit is reached. It has read the pages of these
visits to the end and has written all of their records. -/
structure Completed (vs : List Visit) (d : Crawl (Calls σ)) : Prop where
  stage : d.stage = .done
  finished : d.frontier.queue = [] ∨ d.limitReached = true
  visited : d.visited = vs.map fun v => v.task.url
  blocks : ∀ v ∈ vs, v.blocks = v.task.blocks d.label v.body
  extracted : d.tally.recordsExtracted = (vs.flatMap Visit.handed).length
  accepted : d.buffer.sink.accepted.flatten = vs.flatMap Visit.handed
  pending : d.buffer.pending = []

variable {sink : Sink σ} {state : σ} {label : String} {frontier : Frontier} {batchSize : Nat}
  {limit : Option Nat} {log : σ → List (List ProductRecord)}

/-- With a sink that never fails, a run that ends has completed its visits. -/
theorem completed_of_runFor (accepts : sink.NeverFails state) {result : Except RunFailure Tally}
    {d : Crawl (Calls σ)} :
    let s := sink.withFaults fun _ => none
    let start : Crawl (Calls σ) := fresh label limit frontier { state } batchSize
    start.runFor web s none turns = (some result, d) →
      result = .ok d.tally ∧ d.Completed (start.visits web s none turns) := by
  intro s start hrun
  have logs : s.Logs Calls.accepted := sink.logs_withFaults _
  obtain ⟨P, takes, hP⟩ := accepts.withFaults.exists_takes
  have hstart : P start.buffer := hP batchSize
  obtain ⟨hresult, settled, pending⟩ :=
    settled_of_takes takes Catalog.yields_isRead ⟨rfl, rfl, rfl⟩ hstart hrun
  have hvisited := visited_runFor web s turns start
  have hdelivers := delivers_runFor logs web none turns start
  have hcounts := (keeps_countsLog logs).of_runFor (fun _ _ _ _ _ => trivial)
    (c := start) ⟨rfl, rfl⟩ hrun
  rw [hrun] at hvisited hdelivers
  have haccepted : d.buffer.sink.accepted.flatten =
      (start.visits web s none turns).flatMap Visit.handed := by
    have hledger := hdelivers.ledger
    rwa [ledger, pending, List.append_nil] at hledger
  have hextracted := hdelivers.extracted
  rw [handled, handled, pending, hcounts.2, haccepted] at hextracted
  have hfinished := finished_of_runFor_eq_ok (hresult ▸ hrun)
  refine ⟨hresult, ?_, hfinished, hvisited, fun v hv => ?_, ?_, haccepted, pending⟩
  · simpa [CrawlStage.isTerminal] using settled.stage
  · rw [hdelivers.label]
    exact hdelivers.complete v hv (outcome_of_mem_visits takes Catalog.yields_isRead hstart v hv)
  · simpa [start, fresh, RecordBuffer.empty] using hextracted

/-- The pages of a run that ends are the first of those that the run without a limit, or with a
larger one, visits. -/
theorem visits_eq_take (le : ∀ k' ∈ limit, k ≤ k') (within : c.WithinLimit k)
    (unvisited : c.tally.pagesVisited = 0) {tally : Tally}
    (hrun : c.runFor web s stop turns = (some (.ok tally), d)) :
    c.visits web s stop turns = ((c.recast limit id).visits web s stop turns).take k := by
  obtain ⟨n, more, m, rfl, hm, hlast⟩ := exists_last_turn hrun
  obtain ⟨hi, hvisits⟩ := runFor_recast le within.maxPages hm
  have hend := finished_of_step_eq_ok hlast
  have hcount := pagesVisited_runFor web s stop n c
  have hwithin := within.runFor web s stop n
  rw [hm] at hcount hwithin
  rw [unvisited, Nat.zero_add] at hcount
  rw [visits_add_of_going hm, visits_of_ended more hend, visits_add_of_going hi, hvisits,
    List.append_nil]
  have hle : (c.visits web s stop n).length ≤ k := hcount ▸ hwithin.visited
  obtain hlt | heq := hle.lt_or_eq
  · -- The limit was not reached, so no page was left.
    have hlimit : m.limitReached = false :=
      (limitReached_eq_false_iff hwithin.maxPages).2 (hcount ▸ hlt)
    have hqueue : m.frontier.queue = [] := hend.resolve_right (by simp [hlimit])
    have hnone : (m.recast limit id).visits web s stop more = [] :=
      visits_of_ended more (Or.inl hqueue)
    rw [hnone, List.append_nil, List.take_of_length_le hle]
  · exact (List.take_left' heq).symm

/-- The requests of the limited run are the first of those of the other one. -/
theorem requests_prefix (le : ∀ k' ∈ limit, k ≤ k') (h : c.maxPages = some k) (logs : s.Logs log)
    {tally : Tally} (hrun : c.runFor web s stop turns = (some (.ok tally), d)) :
    d.requests <+: ((c.recast limit id).runFor web s stop turns).2.requests := by
  obtain ⟨n, more, m, rfl, hm, hlast⟩ := exists_last_turn hrun
  obtain ⟨hi, -⟩ := runFor_recast le h hm
  have hend := finished_of_step_eq_ok hlast
  rw [step_of_finished hend] at hlast
  have hd : d.requests = m.requests := by
    obtain rfl := congrArg Prod.snd hlast
    exact requests_finish s m
  obtain ⟨new, hnew, -⟩ := (delivers_runFor logs web stop more (m.recast limit id)).requests
  rw [runFor_add_of_going hi, hnew, hd]
  exact List.prefix_append _ _

/-- A run ends if its crawl has a limit or the links of the site lead to finitely many pages. -/
theorem exists_end (web : Web) (s : Sink σ) (c : Crawl σ)
    (finite : c.maxPages = none →
      ∃ keys : Finset String, ∀ url, ∀ link ∈ Site.linksOf url (web url), link.pageKey ∈ keys) :
    ∃ turns result d, c.runFor web s none turns = (some result, d) := by
  cases hlimit : c.maxPages with
  | some k => exact ⟨_, runFor_ends_of_limit hlimit s none (Nat.lt_succ_self _)⟩
  | none =>
    obtain ⟨keys, hkeys⟩ := finite hlimit
    obtain ⟨result, d, hrun, -⟩ := runFor_of_closed (closed_of_keys hkeys) s none
      (fun _ _ => trivial) (Nat.lt_succ_self (c.frontier.potential keys))
    exact ⟨_, result, d, hrun⟩

theorem completed_take_of_limit (accepts : sink.NeverFails state)
    (finite : limit = none →
      ∃ keys : Finset String, ∀ url, ∀ link ∈ Site.linksOf url (web url), link.pageKey ∈ keys)
    (le : ∀ k' ∈ limit, k ≤ k') :
    let s := sink.withFaults fun _ => none
    let start (limit : Option Nat) : Crawl (Calls σ) := fresh label limit frontier { state } batchSize
    ∃ turns d e, (start (some k)).run web s none turns = (some (.ok d.tally), d) ∧
      (start limit).run web s none turns = (some (.ok e.tally), e) ∧
      let visits := (start limit).visits web s none turns
      e.Completed visits ∧ d.Completed (visits.take k) ∧ d.requests = e.requests.take k := by
  intro s start
  have going : ∀ limit, (start limit).Going := fun _ => ⟨rfl, rfl, rfl⟩
  have within : (start (some k)).WithinLimit k := ⟨rfl, Nat.zero_le k⟩
  have logs : s.Logs Calls.accepted := sink.logs_withFaults _
  obtain ⟨m, result, d, hd⟩ := exists_end web s (start (some k)) nofun
  obtain ⟨n, result', e, he⟩ := exists_end web s (start limit) finite
  replace hd := runFor_add_of_ended n hd
  replace he := runFor_add_of_ended m he
  rw [Nat.add_comm] at he
  obtain ⟨rfl, hcompleted⟩ := completed_of_runFor accepts hd
  obtain ⟨rfl, hcompleted'⟩ := completed_of_runFor accepts he
  have hvisits := visits_eq_take le within rfl hd
  have hprefix := requests_prefix le rfl logs hd
  have hother : (start (some k)).recast limit id = start limit := rfl
  rw [hother] at hvisits hprefix
  rw [he] at hprefix
  rw [hvisits] at hcompleted
  refine ⟨m + n, d, e, ((going _).run_eq ..).trans hd, ((going _).run_eq ..).trans he,
    hcompleted', hcompleted, ?_⟩
  -- Both crawls have asked for the pages that they visited.
  have hlength : d.requests.length = min k e.requests.length := by
    have hd := congrArg List.length hcompleted.visited
    have he := congrArg List.length hcompleted'.visited
    simp only [visited, List.length_map, List.length_take] at hd he
    rw [hd, he]
  rw [List.prefix_iff_eq_take.1 hprefix, hlength]
  exact List.take_eq_take_min.symm

/-- **A page limit only cuts a crawl short.** A crawl may visit `k` pages, and another one with the
same first pages and the same batch size as many or more, or any number if the links of the site
lead to finitely many pages. With a sink that never fails both end, whatever the site is. The
limited crawl makes the first `k` requests of the other one, or all of them if there are fewer, at
the same times; it has read these pages to the end, has written all of their records, and is over,
as it has no task left or has reached its limit. Moreover, a crawl with a limit never visits more
pages than that, whatever its buffer holds, whatever its sink does and however often it is seeded,
run and stopped. -/
theorem page_limit_cuts_short (label : String) (frontier : Frontier) (batchSize k : Nat) :
    (∀ {σ : Type} {sink : Sink σ} {state : σ} (web : Web) (limit : Option Nat),
      sink.NeverFails state → (∀ k' ∈ limit, k ≤ k') →
      (limit = none →
        ∃ keys : Finset String, ∀ url, ∀ link ∈ Site.linksOf url (web url), link.pageKey ∈ keys) →
      let s := sink.withFaults fun _ => none
      let start (limit : Option Nat) : Crawl (Calls σ) :=
        fresh label limit frontier { state } batchSize
      ∃ turns d e, (start (some k)).run web s none turns = (some (.ok d.tally), d) ∧
        (start limit).run web s none turns = (some (.ok e.tally), e) ∧
        let visits := (start limit).visits web s none turns
        e.Completed visits ∧ d.Completed (visits.take k) ∧ d.requests = e.requests.take k) ∧
    ∀ {σ : Type} (s : Sink σ) (buffer : RecordBuffer σ) (actions : List Action),
      let start : Crawl σ := { label, maxPages := some k, frontier, buffer }
      (start.actAll s actions).tally.pagesVisited ≤ k := by
  refine ⟨fun web limit accepts le finite => completed_take_of_limit accepts finite le,
    fun s buffer actions => ?_⟩
  intro start
  have within : start.WithinLimit k := ⟨rfl, Nat.zero_le k⟩
  exact (within.actAll s actions).visited

/-- Two pages with a bell each, of which one may be visited or both. -/
theorem one_bell_of_two :
    let a : Url := { scheme := "http", host := some (.name "a"), path := .segments [""] }
    let b : Url := { a with path := .segments ["b"] }
    let web : Web := fun _ => { body := .ok (shelf [("1", "Bell")]) }
    let day : Date := ⟨2026, 10, 16, by decide⟩
    let frontier := Frontier.pushAll {} [⟨a, .productExtraction⟩, ⟨b, .productExtraction⟩]
    let s := (storeSink day).withFaults fun _ => none
    let start (limit : Option Nat) : Crawl (Calls Store) :=
      fresh "Skladem" limit frontier { state := .blank } 10
    (storeSink day).NeverFails Store.blank ∧
      (∀ url, ∀ link ∈ Site.linksOf url (web url), link.pageKey ∈ (∅ : Finset String)) ∧
      ∃ turns d e, (start (some 1)).run web s none turns = (some (.ok d.tally), d) ∧
        (start none).run web s none turns = (some (.ok e.tally), e) ∧
        let visits := (start none).visits web s none turns
        e.Completed visits ∧ d.Completed (visits.take 1) ∧ d.requests = e.requests.take 1 := by
  intro a b web day frontier s start
  have accepts : (storeSink day).NeverFails Store.blank := Store.holds_blank.neverFails day
  have finite := bell_links ∅ 0
  exact ⟨accepts, finite,
    (page_limit_cuts_short "Skladem" frontier 10 1).1 web none accepts nofun fun _ => ⟨∅, finite⟩⟩

end Crawl

end PriceTracker
