import Mathlib.Algebra.GroupWithZero.Nat
import PriceTracker.Proofs.Crawl.Answers
import PriceTracker.Proofs.Crawl.Frontier
import PriceTracker.Proofs.Crawl.Stopping

/-!
# Pages, products and URLs, counted

A crawl counts the pages that it visited and the product blocks that it read, and its frontier keeps
the URLs that it accepted. `Crawl.takes` lists the tasks that are taken from the frontier and what
comes of each of them, which is a matter of times only (`Crawl.fate`). Against this list all
counters are exact:

* `Tallied` relates a crawl, tasks, the answers of runs and the crawl after them; it composes
  (`Tallied.trans`), holds of a turn (`tallied_step`) and so of a run and of any actions
  (`tallied_actAll`);
* `countP_isAborted_answers_le`: at most one run is stopped, so at most one request is without an
  answer;
* `counters_account_for_pages_and_products`: the equations between the counters.
-/

namespace PriceTracker

/-! ## URLs that were accepted -/

namespace Frontier

/-- The keys of the URLs that were accepted and no longer wait, the oldest first. -/
def past (f : Frontier) : List String :=
  (f.seen.drop f.queue.length).reverse

/-- A URL that was accepted was taken or waits, and the waiting ones came last. -/
theorem past_append_queue (f : Frontier) :
    f.past ++ f.queue.map CrawlTask.key = f.seen.reverse := by
  obtain ⟨older, holder⟩ := f.queue_newest
  have hpast : f.past = older.reverse := by
    rw [past, ← holder, List.drop_left' (by simp)]
  rw [hpast, ← holder, List.reverse_append, List.reverse_reverse]

theorem past_push (f : Frontier) (task : CrawlTask) : (f.push task).past = f.past := by
  cases hnew : f.isNew task with
  | false => rw [push_of_not_isNew hnew]
  | true =>
    rw [past, queue_push_of_isNew hnew, seen_push_of_isNew hnew, List.length_append,
      List.length_singleton, List.drop_succ_cons]
    rfl

theorem past_pushAll (f : Frontier) (tasks : List CrawlTask) : (f.pushAll tasks).past = f.past := by
  induction tasks generalizing f with
  | nil => rfl
  | cons task tasks ih => exact (ih (f.push task)).trans (f.past_push task)

theorem past_rest {f : Frontier} {task : CrawlTask} {rest : List CrawlTask}
    (next : f.queue = task :: rest) : f.rest.past = f.past ++ [task.key] := by
  have hbefore := f.past_append_queue
  have hafter := f.rest.past_append_queue
  rw [next, List.map_cons] at hbefore
  rw [queue_rest, next, List.tail_cons] at hafter
  have hsame : f.rest.past ++ rest.map CrawlTask.key =
      (f.past ++ [task.key]) ++ rest.map CrawlTask.key := by
    rw [hafter, List.append_assoc]
    exact hbefore.symm
  exact List.append_cancel_right hsame

end Frontier

/-! ## Product blocks -/

/-- The number of product blocks in the answer to the request of a task. A root page is not read for
products. -/
def CrawlTask.blockCount (task : CrawlTask) : Except FetchError String → Nat
  | .error _ => 0
  | .ok page =>
    if task.stage == .categoryDiscovery then 0
    else ((Html.parse page).select Catalog.productBlock).length

theorem CrawlTask.length_blocks (label : String) (task : CrawlTask)
    (body : Except FetchError String) : (task.blocks label body).length = task.blockCount body := by
  cases body with
  | error e => rfl
  | ok page =>
    by_cases hroot : task.stage = .categoryDiscovery
    · rw [blocks_root hroot, blockCount, hroot]
      rfl
    · rw [blocks_listing hroot, blockCount, if_neg (by simpa using hroot)]
      exact List.length_map _

/-- Each product block is a record or is dropped. -/
theorem length_recordsOf_add_droppedOf (blocks : List (Except ExtractionError ProductRecord)) :
    (recordsOf blocks).length + droppedOf blocks = blocks.length := by
  induction blocks with
  | nil => rfl
  | cons block blocks ih =>
    cases block with
    | error e => rw [recordsOf_error_cons, droppedOf_error_cons, List.length_cons, ← ih]; rfl
    | ok r =>
      rw [recordsOf_ok_cons, droppedOf_ok_cons, List.length_cons, List.length_cons, ← ih]
      omega

/-! ## Tasks that are taken -/

/-- What comes of a task that is taken from the frontier. -/
inductive Fate where
  /-- Its page is not asked for: the task is of a stage that reads no pages, or the run is stopped
  before. -/
  | left
  /-- The run is stopped between the request and the answer. -/
  | cutOff
  /-- The page is fetched, or known to be missing. -/
  | answered (body : Except FetchError String)
  deriving DecidableEq, Repr

namespace Fate

/-- Whether a fetch completed. -/
def isAnswered : Fate → Bool
  | answered _ => true
  | _ => false

/-- Whether a run was stopped during a fetch. -/
def isCutOff : Fate → Bool
  | cutOff => true
  | _ => false

/-- Whether a fetch began. -/
def isAsked : Fate → Bool
  | left => false
  | _ => true

end Fate

/-- A task that is taken from the frontier, and what comes of it. -/
structure Take where
  task : CrawlTask
  fate : Fate
  deriving DecidableEq, Repr

namespace Take

/-- The number of product blocks that are fetched with the page of the task. -/
def blockCount (t : Take) : Nat :=
  match t.fate with
  | .answered body => t.task.blockCount body
  | _ => 0

/-- The pages that are asked for, in order. -/
def requested (takes : List Take) : List Url :=
  (takes.filter fun t => t.fate.isAsked).map fun t => t.task.url

variable (takes more : List Take)

theorem requested_append : requested (takes ++ more) = requested takes ++ requested more := by
  rw [requested, List.filter_append, List.map_append]
  rfl

/-- A fetch that begins completes or is cut off. -/
theorem length_requested :
    (requested takes).length =
      takes.countP (fun t => t.fate.isAnswered) + takes.countP (fun t => t.fate.isCutOff) := by
  induction takes with
  | nil => rfl
  | cons t takes ih =>
    rw [← List.singleton_append, requested_append, List.length_append, ih, List.countP_append,
      List.countP_append]
    obtain ⟨task, fate⟩ := t
    cases fate <;> simp [requested, Fate.isAsked, Fate.isAnswered, Fate.isCutOff] <;> omega

end Take

namespace Crawl

variable {σ : Type} {web : Web} {s : Sink σ} {stop : Option Nat} {task : CrawlTask}
  {rest : List CrawlTask} {c d e : Crawl σ}

/-- What comes of a task if it is taken now: it has its turn at some time, and the answer comes
after the delay of the reply. A stop is before the one, before the other, or does not matter. -/
def fate (web : Web) (stop : Option Nat) (task : CrawlTask) (c : Crawl σ) : Fate :=
  let turn := c.frontier.turn c.clock
  if !task.stage.handlesPages || isStopped stop turn then .left
  else if isStopped stop (turn + (web task.url).delay) then .cutOff
  else .answered (web task.url).body

/-- The task that is taken in the next turn, unless the crawl ends. -/
def take? (web : Web) (stop : Option Nat) (c : Crawl σ) : Option Take :=
  match c.frontier.queue with
  | [] => none
  | task :: _ => if c.limitReached then none else some ⟨task, c.fate web stop task⟩

/-- The tasks that are taken in so many turns, in order. -/
def takes (web : Web) (s : Sink σ) (stop : Option Nat) (turns : Nat) (c : Crawl σ) : List Take :=
  c.trace (fun c => (c.take? web stop).toList) web s stop turns

/-- The tasks that are taken in an action. -/
def takesIn (s : Sink σ) (c : Crawl σ) : Action → List Take
  | .run web stop turns => if c.stage.isTerminal then [] else c.takes web s stop turns
  | _ => []

/-- The tasks that are taken in the course of actions, in order. -/
def takeHistory (s : Sink σ) : Crawl σ → List Action → List Take
  | _, [] => []
  | c, action :: actions => c.takesIn s action ++ takeHistory s (c.act s action) actions

theorem take?_of_next (next : c.frontier.queue = task :: rest) (limit : c.limitReached = false) :
    c.take? web stop = some ⟨task, c.fate web stop task⟩ := by
  rw [take?, next]
  dsimp only
  rw [limit, if_neg Bool.false_ne_true]

theorem take?_of_finished (h : c.frontier.queue = [] ∨ c.limitReached = true) :
    c.take? web stop = none := by
  rw [take?]
  cases hqueue : c.frontier.queue with
  | nil => rfl
  | cons task rest =>
    obtain hnil | hlimit := h
    · simp [hqueue] at hnil
    · exact if_pos hlimit

/-! ## Fates and waiting -/

/-- What waiting for a page comes to, by the fate of the task. -/
inductive Awaits (web : Web) (task : CrawlTask) (c : Crawl σ) :
    Fate → Option (Except FetchError String) × Crawl σ → Prop where
  | left (time : Nat) : Awaits web task c .left (none, { c with stage := task.stage, clock := time })
  | cutOff (time : Nat) : Awaits web task c .cutOff (none, { c.answered web task with clock := time })
  | answered :
      Awaits web task c (.answered (web task.url).body)
        (some (web task.url).body, c.answered web task)

theorem awaits_fate (stage : task.stage.handlesPages = true)
    (going : isStopped stop c.clock = false) :
    Awaits web task c (c.fate web stop task) (c.await web stop task) := by
  cases stop with
  | none =>
    have hfate : c.fate web none task = .answered (web task.url).body := by
      simp [fate, stage, isStopped]
    rw [hfate, await_none]
    exact .answered
  | some stop =>
    have hclock : c.clock < stop := Nat.lt_of_not_le (of_decide_eq_false going)
    simp only [fate, stage, isStopped, Option.any_some, Bool.not_true, Bool.false_or,
      decide_eq_true_eq]
    split
    · next hleft =>
      rw [await_of_turn_le hclock hleft]
      exact .left stop
    · next hasked =>
      split
      · next hcut =>
        rw [await_of_turn_lt (Nat.lt_of_not_le hasked) hcut]
        exact .cutOff stop
      · next hanswered =>
        rw [await_of_lt (Nat.lt_of_not_le hanswered)]
        exact .answered

/-- A run that is stopped before it turns to a task does not ask for its page. -/
theorem fate_of_isStopped (h : isStopped stop c.clock = true) : c.fate web stop task = .left := by
  cases stop with
  | none => exact absurd h Bool.false_ne_true
  | some stop =>
    have hle : stop ≤ c.frontier.turn c.clock :=
      Nat.le_trans (of_decide_eq_true h) (c.frontier.le_turn c.clock)
    simp [fate, isStopped, hle]

/-! ## Counting -/

/-- Whether a run was stopped. -/
def isAborted : Except RunFailure Tally → Bool
  | .error (.aborted _) => true
  | _ => false

/-- Between two moments of a crawl, tasks were taken and runs answered, and the counters and the
frontier gained what these say and nothing else. -/
structure Tallied (c : Crawl σ) (takes : List Take) (answers : List (Except RunFailure Tally))
    (d : Crawl σ) : Prop where
  visited : d.tally.pagesVisited = c.tally.pagesVisited + takes.countP fun t => t.fate.isAnswered
  requests : d.requests.map Prod.fst = c.requests.map Prod.fst ++ Take.requested takes
  past : d.frontier.past = c.frontier.past ++ takes.map fun t => t.task.key
  /-- A batch that is not accepted cuts a page short. -/
  products : (∀ failure, .error (.write failure) ∉ answers) →
    d.tally.recordsExtracted + d.tally.recordsDropped =
      c.tally.recordsExtracted + c.tally.recordsDropped + (takes.map Take.blockCount).sum
  /-- A fetch is cut off by a run that is stopped. -/
  cutOff : takes.countP (fun t => t.fate.isCutOff) ≤ answers.countP isAborted

namespace Tallied

variable {takes more : List Take} {answers further : List (Except RunFailure Tally)}

theorem trans (h₁ : Tallied c takes answers d) (h₂ : Tallied d more further e) :
    Tallied c (takes ++ more) (answers ++ further) e where
  visited := by rw [h₂.visited, h₁.visited, List.countP_append, Nat.add_assoc]
  requests := by rw [h₂.requests, h₁.requests, Take.requested_append, List.append_assoc]
  past := by rw [h₂.past, h₁.past, List.map_append, List.append_assoc]
  products hnone := by
    have hfirst := h₁.products fun failure h => hnone failure (List.mem_append_left _ h)
    have hsecond := h₂.products fun failure h => hnone failure (List.mem_append_right _ h)
    rw [hsecond, hfirst, List.map_append, List.sum_append, Nat.add_assoc]
  cutOff := by
    rw [List.countP_append, List.countP_append]
    exact Nat.add_le_add h₁.cutOff h₂.cutOff

/-- What takes no task, asks for nothing and counts no page and no product. -/
theorem of_quiet (answers : List (Except RunFailure Tally))
    (visited : d.tally.pagesVisited = c.tally.pagesVisited) (requests : d.requests = c.requests)
    (past : d.frontier.past = c.frontier.past)
    (extracted : d.tally.recordsExtracted = c.tally.recordsExtracted)
    (dropped : d.tally.recordsDropped = c.tally.recordsDropped) : Tallied c [] answers d where
  visited := visited
  requests := by rw [requests]; exact (List.append_nil _).symm
  past := by rw [past]; exact (List.append_nil _).symm
  products _ := by rw [extracted, dropped]; rfl
  cutOff := Nat.zero_le _

protected theorem refl (c : Crawl σ) : Tallied c [] [] c :=
  .of_quiet [] rfl rfl rfl rfl rfl

/-- A task whose page is not asked for. -/
theorem of_left (next : c.frontier.queue = task :: rest) (answers : List (Except RunFailure Tally))
    (tally : d.tally.pagesVisited = c.tally.pagesVisited ∧
      d.tally.recordsExtracted = c.tally.recordsExtracted ∧
      d.tally.recordsDropped = c.tally.recordsDropped)
    (requests : d.requests = c.requests) (frontier : d.frontier = c.frontier.rest) :
    Tallied c [⟨task, .left⟩] answers d where
  visited := tally.1
  requests := by rw [requests]; exact (List.append_nil _).symm
  past := by rw [frontier, Frontier.past_rest next]; rfl
  products _ := by rw [tally.2.1, tally.2.2]; rfl
  cutOff := Nat.zero_le _

end Tallied

/-! ## One turn -/

theorem tallied_finish (s : Sink σ) (c : Crawl σ) :
    Tallied c [] [(c.finish s).1] (c.finish s).2 := by
  refine .of_quiet _ ?_ ?_ ?_ ?_ ?_ <;> rw [finish_snd]
  rfl

/-- A page that is received accounts for all its product blocks, unless a batch is not accepted. -/
theorem tallied_receive (next : c.frontier.queue = task :: rest)
    {result : Except WriteFailure Unit}
    (receive : (c.taken.answered web task).receive s task (web task.url).body = (result, d))
    {answers : List (Except RunFailure Tally)}
    (refused : ∀ failure, result = .error failure → .error (.write failure) ∈ answers) :
    Tallied c [⟨task, .answered (web task.url).body⟩] answers d := by
  have hd : ((c.taken.answered web task).receive s task (web task.url).body).2 = d :=
    congrArg Prod.snd receive
  have hvisited := pagesVisited_receive s task (web task.url).body (c.taken.answered web task)
  have hrequests := requests_receive s task (web task.url).body (c.taken.answered web task)
  have htally := tally_receive s task (web task.url).body (c.taken.answered web task)
  rw [hd] at hvisited hrequests htally
  refine ⟨hvisited, ?_, ?_, fun hnone => ?_, Nat.zero_le _⟩
  · rw [hrequests, answered, List.map_append]
    rfl
  · have hpast : d.frontier.past = c.frontier.rest.past := by
      rw [← hd, receive_snd]
      dsimp only
      split
      · exact Frontier.past_pushAll _ _
      · rfl
    rw [hpast, Frontier.past_rest next]
    rfl
  · cases result with
    | error failure => exact absurd (refused failure rfl) (hnone failure)
    | ok =>
      have hall := consumed_of_receive_ok (congrArg Prod.fst receive)
      have hsum := length_recordsOf_add_droppedOf (task.blocks c.label (web task.url).body)
      rw [CrawlTask.length_blocks] at hsum
      rw [hall] at htally
      have hextracted := congrArg Tally.recordsExtracted htally
      have hdropped := congrArg Tally.recordsDropped htally
      simp only [answered, taken] at hextracted hdropped
      simp only [List.map_singleton, List.sum_singleton, Take.blockCount]
      omega

/-- A turn takes one task at most, and the counters say what comes of it. -/
theorem tallied_step (web : Web) (s : Sink σ) (stop : Option Nat) (c : Crawl σ) :
    Tallied c (c.take? web stop).toList (c.step web s stop).1.toList (c.step web s stop).2 := by
  by_cases hend : c.frontier.queue = [] ∨ c.limitReached = true
  · rw [take?_of_finished hend, step_of_finished hend]
    exact tallied_finish s c
  · obtain ⟨hqueue, hlimit⟩ := not_or.1 hend
    obtain ⟨task, rest, next⟩ := List.exists_cons_of_ne_nil hqueue
    have limit : c.limitReached = false := Bool.eq_false_iff.2 hlimit
    rw [take?_of_next next limit, step_of_next next limit, perform]
    cases hstop : isStopped stop c.taken.clock with
    | true =>
      rw [fate_of_isStopped (c := c) hstop, if_pos rfl]
      exact .of_left next _ ⟨rfl, rfl, rfl⟩ rfl rfl
    | false =>
      cases stage : task.stage.handlesPages with
      | false =>
        have hfate : c.fate web stop task = .left := by simp [fate, stage]
        rw [hfate, if_neg Bool.false_ne_true]
        exact .of_left next _ ⟨rfl, rfl, rfl⟩ rfl rfl
      | true =>
        have hawaits : Awaits web task c.taken (c.taken.fate web stop task)
            (c.taken.await web stop task) := awaits_fate stage hstop
        have hfate : c.taken.fate web stop task = c.fate web stop task := rfl
        rw [hfate] at hawaits
        simp only [Bool.not_true, Bool.false_eq_true, if_false]
        generalize c.fate web stop task = fate at hawaits ⊢
        generalize c.taken.await web stop task = waited at hawaits ⊢
        cases hawaits with
        | left time => exact .of_left next _ ⟨rfl, rfl, rfl⟩ rfl rfl
        | cutOff time =>
          refine ⟨rfl, ?_, ?_, fun _ => rfl, Nat.le_refl 1⟩
          · exact List.map_append
          · exact Frontier.past_rest next
        | answered =>
          dsimp only
          cases receive : (c.taken.answered web task).receive s task (web task.url).body with
          | mk result d =>
            cases result with
            | ok => exact tallied_receive next receive fun failure h => by cases h
            | error failure =>
              refine tallied_receive next receive fun other h => ?_
              obtain rfl := Except.error.inj h
              exact List.mem_singleton.2 rfl

/-! ## Runs and actions -/

theorem tallied_runFor (web : Web) (s : Sink σ) (stop : Option Nat) (turns : Nat) (c : Crawl σ) :
    Tallied c (c.takes web s stop turns) (c.runFor web s stop turns).1.toList
      (c.runFor web s stop turns).2 :=
  trace_induction (R := fun c takes ended => Tallied c takes ended.1.toList ended.2) .refl
    (fun h₁ h₂ => h₁.trans h₂) (tallied_step web s stop) turns c

theorem tallied_act (s : Sink σ) (c : Crawl σ) (action : Action) :
    Tallied c (c.takesIn s action) (c.answer? s action).toList (c.act s action) := by
  cases action with
  | seedRoot url => exact .of_quiet _ rfl rfl (c.frontier.past_push _) rfl rfl
  | seedCategories urls => exact .of_quiet _ rfl rfl (c.frontier.past_pushAll _) rfl rfl
  | flush => exact .of_quiet _ rfl rfl rfl rfl rfl
  | run web stop turns =>
    rw [takesIn, answer?, act]
    cases hstage : c.stage.isTerminal with
    | true =>
      rw [run_of_isTerminal hstage, if_pos rfl]
      exact .of_quiet _ rfl rfl rfl rfl rfl
    | false =>
      rw [run, hstage, if_neg Bool.false_ne_true, if_neg Bool.false_ne_true]
      exact tallied_runFor web s stop turns c

theorem tallied_actAll (s : Sink σ) (c : Crawl σ) (actions : List Action) :
    Tallied c (c.takeHistory s actions) (c.answers s actions) (c.actAll s actions) := by
  induction actions generalizing c with
  | nil => exact .refl c
  | cons action actions ih => exact (tallied_act s c action).trans (ih _)

/-! ## Runs that are stopped -/

theorem isTerminal_of_step_eq_aborted {pending : Nat}
    (h : c.step web s stop = (some (.error (.aborted pending)), d)) : d.stage.isTerminal = true := by
  generalize hv : c.visit? web s stop = visit
  generalize hresult : some (Except.error (RunFailure.aborted pending)) = result at h
  cases turn_of_step hv h with
  | stopped => rfl
  | interrupted => rfl
  | skipped => simp at hresult
  | visited => simp at hresult
  | failed => simp at hresult
  | finished =>
    generalize hf : c.finish s = ended at hresult
    cases finish_outcome hf <;> simp at hresult

/-- A run that is stopped ends the crawl. -/
theorem isTerminal_of_run_eq_aborted {turns pending : Nat}
    (h : c.run web s stop turns = (some (.error (.aborted pending)), d)) :
    d.stage.isTerminal = true := by
  rw [run] at h
  split at h
  · simp at h
  · obtain ⟨n, more, f, -, -, hlast⟩ := exists_last_turn h
    exact isTerminal_of_step_eq_aborted hlast

theorem countP_isAborted_answers_of_isTerminal (h : c.stage.isTerminal = true) (s : Sink σ)
    (actions : List Action) : (c.answers s actions).countP isAborted = 0 := by
  induction actions generalizing c with
  | nil => rfl
  | cons action actions ih =>
    have hact : (c.answer? s action).toList.countP isAborted = 0 ∧
        (c.act s action).stage.isTerminal = true := by
      cases action with
      | run web stop turns =>
        rw [answer?, act, run_of_isTerminal h]
        exact ⟨rfl, h⟩
      | _ => exact ⟨rfl, h⟩
    rw [answers, List.countP_append, hact.1, ih hact.2]

/-- At most one run is stopped, since a crawl is not run again after that. -/
theorem countP_isAborted_answers_le (s : Sink σ) (c : Crawl σ) (actions : List Action) :
    (c.answers s actions).countP isAborted ≤ 1 := by
  induction actions generalizing c with
  | nil => exact Nat.zero_le 1
  | cons action actions ih =>
    rw [answers, List.countP_append]
    cases hanswer : c.answer? s action with
    | none => simpa using ih (c.act s action)
    | some answer =>
      cases haborted : isAborted answer with
      | false => simpa [haborted] using ih (c.act s action)
      | true =>
        cases action with
        | run web stop turns =>
          have hover : (c.act s (.run web stop turns)).stage.isTerminal = true := by
            rw [answer?] at hanswer
            rw [act]
            generalize hrun : c.run web s stop turns = ended at hanswer ⊢
            obtain ⟨result, d⟩ := ended
            obtain rfl : result = some answer := hanswer
            cases answer with
            | ok => simp [isAborted] at haborted
            | error failure =>
              cases failure with
              | write => simp [isAborted] at haborted
              | aborted => exact isTerminal_of_run_eq_aborted hrun
          rw [countP_isAborted_answers_of_isTerminal hover]
          exact List.countP_le_length
        | _ => simp [answer?] at hanswer

/-- **The counters of a crawl are exact.** A crawl starts on a frontier on which nothing was queued,
with any buffer and any limits. It is seeded, run on any webs, stopped, run again and flushed in any
order; pages may be missing and batches may fail. Each task that was taken from the frontier was
left alone, or its page was asked for, and then the answer came or the run was stopped before.

The pages visited are the answers that came. The requests are the pages asked for, in order, and
they are as many as the pages visited, but for a fetch that was cut off; there is one of these at
most, and only if a run was stopped. Unless a run ended with a batch that was not accepted, the
records extracted and dropped are together all product blocks of the listing pages that were
fetched. The URLs ever accepted differ from each other, and they are those of the tasks that were
taken, followed by those of the tasks that wait. -/
theorem counters_account_for_pages_and_products (s : Sink σ) (label : String)
    (maxPages : Option Nat) (delay : Nat) (lastTurn : Option Nat) (buffer : RecordBuffer σ)
    (actions : List Action) :
    let start : Crawl σ := { label, maxPages, frontier := { delay, lastTurn }, buffer }
    let c := start.actAll s actions
    let takes := start.takeHistory s actions
    let answers := start.answers s actions
    let cutOff := takes.countP fun t => t.fate.isCutOff
    c.tally.pagesVisited = takes.countP (fun t => t.fate.isAnswered) ∧
      c.requests.map Prod.fst = Take.requested takes ∧
      c.requests.length = c.tally.pagesVisited + cutOff ∧
      cutOff ≤ answers.countP isAborted ∧ answers.countP isAborted ≤ 1 ∧
      ((∀ failure, .error (.write failure) ∉ answers) →
        c.tally.recordsExtracted + c.tally.recordsDropped = (takes.map Take.blockCount).sum) ∧
      c.frontier.seen.Nodup ∧
      c.frontier.seen.reverse =
        takes.map (fun t => t.task.key) ++ c.frontier.queue.map CrawlTask.key ∧
      c.frontier.seen.length = takes.length + c.frontier.queue.length := by
  intro start c takes answers cutOff
  have htallied : Tallied start takes answers c := tallied_actAll s start actions
  have hvisited : c.tally.pagesVisited = takes.countP fun t => t.fate.isAnswered :=
    htallied.visited.trans (Nat.zero_add _)
  have hrequests : c.requests.map Prod.fst = Take.requested takes := htallied.requests
  have hpast : c.frontier.past = takes.map fun t => t.task.key := htallied.past
  have hseen : c.frontier.seen.reverse =
      takes.map (fun t => t.task.key) ++ c.frontier.queue.map CrawlTask.key := by
    rw [← hpast, Frontier.past_append_queue]
  refine ⟨hvisited, hrequests, ?_, htallied.cutOff, countP_isAborted_answers_le s start actions,
    fun hnone => ?_, c.frontier.seen_nodup, hseen, ?_⟩
  · calc c.requests.length = (c.requests.map Prod.fst).length := List.length_map _ |>.symm
      _ = (Take.requested takes).length := by rw [hrequests]
      _ = c.tally.pagesVisited + cutOff := by rw [Take.length_requested, hvisited]
  · exact (htallied.products hnone).trans (Nat.zero_add _)
  · simpa using congrArg List.length hseen

/-- Two pages that are missing, and a run that is stopped while it waits for the second answer. -/
example :
    let a : Url := { scheme := "http", host := some (.name "a"), path := .segments [""] }
    let b : Url := { a with path := .segments ["b"] }
    let missing : Except FetchError String := .error (.timeout "http://a/")
    let web : Web := fun _ => { delay := 2, body := missing }
    let s : Sink Unit := ⟨fun _ _ => (.ok (), ())⟩
    let start := fresh "Skladem" none {} () 10
    let actions : List Action := [.seedCategories [a, b], .run web (some 3) 2, .run web none 2]
    let c := start.actAll s actions
    start.takeHistory s actions =
        [⟨⟨a, .productExtraction⟩, .answered missing⟩, ⟨⟨b, .productExtraction⟩, .cutOff⟩] ∧
      c.requests.map Prod.fst = [a, b] ∧ c.tally.pagesVisited = 1 := by
  decide +kernel

end Crawl

end PriceTracker
