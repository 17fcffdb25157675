import PriceTracker.Crawl.Stage
import PriceTracker.Url.Basic

/-!
# The frontier

The pages that wait to be fetched, in the order in which they were queued. A URL is queued at most
once for as long as the frontier lives; URLs that differ in their fragments only count as one. Both
facts are part of a `Frontier`. `Frontier.turn` keeps fetches apart in time.
-/

namespace PriceTracker

/-- A page to fetch, and the stage that reads it. -/
structure CrawlTask where
  url : Url
  stage : CrawlStage
  deriving DecidableEq, Repr

/-- What makes two URLs the same page: their text without the fragment. -/
def Url.pageKey (u : Url) : String :=
  u.withoutFragment.toString

/-- The key of the page of a task. -/
def CrawlTask.key (task : CrawlTask) : String :=
  task.url.pageKey

/-- The waiting tasks and the pages that were ever queued. Times are in milliseconds. -/
structure Frontier where
  /-- The waiting tasks, the oldest first. -/
  queue : List CrawlTask := []
  /-- The keys of all pages ever queued, the newest first. -/
  seen : List String := []
  /-- The least time between two fetches. -/
  delay : Nat := 0
  /-- When the last fetch was let through. -/
  lastTurn : Option Nat := none
  /-- No page is queued twice. -/
  seen_nodup : seen.Nodup := by simp
  /-- The waiting pages are those that were queued last. -/
  queue_newest : (queue.map CrawlTask.key).reverse <+: seen := by simp
  deriving Repr

namespace Frontier

/-- Whether the page of the task was never queued. -/
def isNew (f : Frontier) (task : CrawlTask) : Bool :=
  !f.seen.contains task.key

/-- Queues the task if its page was never queued. -/
def push (f : Frontier) (task : CrawlTask) : Frontier :=
  if h : f.isNew task = true then
    { f with
      queue := f.queue ++ [task]
      seen := task.key :: f.seen
      seen_nodup := List.nodup_cons.2 ⟨by simpa [isNew] using h, f.seen_nodup⟩
      queue_newest := by simp [f.queue_newest] }
  else f

/-- Queues tasks in order. -/
def pushAll (f : Frontier) (tasks : List CrawlTask) : Frontier :=
  tasks.foldl push f

/-- The frontier without the oldest task. -/
def rest (f : Frontier) : Frontier :=
  { f with
    queue := f.queue.tail
    queue_newest := by
      refine List.IsPrefix.trans ?_ f.queue_newest
      cases f.queue <;> simp }

/-- Takes the oldest task. -/
def next? (f : Frontier) : Option (CrawlTask × Frontier) :=
  f.queue.head?.map fun task => (task, f.rest)

/-- The earliest time, from `now` on, at which the next fetch may start. -/
def turn (f : Frontier) (now : Nat) : Nat :=
  match f.lastTurn with
  | none => now
  | some last => max now (last + f.delay)

/-- Lets a fetch through. -/
def letThrough (f : Frontier) (time : Nat) : Frontier :=
  { f with lastTurn := some time }

/-- A new page goes to the end of the queue. -/
theorem queue_push_of_isNew {f : Frontier} {task : CrawlTask} (h : f.isNew task = true) :
    (f.push task).queue = f.queue ++ [task] := by
  simp [push, h]

/-- A page that was queued before changes nothing. -/
theorem push_of_not_isNew {f : Frontier} {task : CrawlTask} (h : f.isNew task = false) :
    f.push task = f := by
  simp [push, h]

end Frontier

end PriceTracker
