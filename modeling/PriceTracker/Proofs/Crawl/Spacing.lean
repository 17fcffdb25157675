import Mathlib.Data.List.Chain
import PriceTracker.Proofs.Crawl.History

/-!
# The times of requests

A crawl waits before each request until the delay of its frontier has passed since the last one. It
may be seeded, run, stopped and run again, with time between, and pages and batches may fail; the
frontier keeps the time of the last request through all of that.

* `issued` lists the requests of a run, each with the moment in which its task was taken;
* `Spaced` relates a crawl, requests and the crawl after them; it composes (`Spaced.trans`), holds
  of a turn (`spaced_step`) and so of a run and of any actions (`spaced_actTimed`);
* `requests_spaced`: each request but the first comes when the delay has passed since the one before
  it, or at the moment in which its task is taken, whichever is later.
-/

namespace PriceTracker

/-- A request, with the moment in which its task was taken from the frontier. -/
structure Issue where
  url : Url
  taken : Nat
  time : Nat
  deriving DecidableEq, Repr

/-- The request as a crawl notes it down. -/
def Issue.request (i : Issue) : Url × Nat :=
  (i.url, i.time)

/-- The part of a frontier that keeps fetches apart. -/
def Frontier.gate (f : Frontier) : Nat × Option Nat :=
  (f.delay, f.lastTurn)

theorem Frontier.gate_push (f : Frontier) (task : CrawlTask) : (f.push task).gate = f.gate := by
  unfold push
  split <;> rfl

theorem Frontier.gate_pushAll (f : Frontier) (tasks : List CrawlTask) :
    (f.pushAll tasks).gate = f.gate := by
  induction tasks generalizing f with
  | nil => rfl
  | cons task tasks ih => exact (ih _).trans (f.gate_push task)

namespace Crawl

variable {σ : Type} {s : Sink σ}

/-! ## Requests with the moments of their tasks -/

/-- What the next turn asks for. Its task is taken when it begins. -/
def issuedInTurn (web : Web) (s : Sink σ) (stop : Option Nat) (c : Crawl σ) : List Issue :=
  ((c.step web s stop).2.requests.drop c.requests.length).map fun (url, time) =>
    { url, taken := c.clock, time }

/-- What is asked for in so many turns, in order. -/
def issued (web : Web) (s : Sink σ) (stop : Option Nat) : Nat → Crawl σ → List Issue
  | 0, _ => []
  | turns + 1, c =>
    c.issuedInTurn web s stop ++
      match c.step web s stop with
      | (none, d) => issued web s stop turns d
      | (some _, _) => []

/-- What is asked for in an action. -/
def issuedIn (s : Sink σ) (c : Crawl σ) : Action → List Issue
  | .run web stop turns => if c.stage.isTerminal then [] else c.issued web s stop turns
  | _ => []

/-- The crawl after some time in which nothing is done to it. -/
def later (pause : Nat) (c : Crawl σ) : Crawl σ :=
  { c with clock := c.clock + pause }

/-- The crawl after actions, each with the time that passes before it. -/
def actTimed (s : Sink σ) (c : Crawl σ) (actions : List (Nat × Action)) : Crawl σ :=
  actions.foldl (fun c (pause, action) => (c.later pause).act s action) c

/-- What is asked for in the course of such actions, in order. -/
def issuedTimed (s : Sink σ) : Crawl σ → List (Nat × Action) → List Issue
  | _, [] => []
  | c, (pause, action) :: actions =>
    (c.later pause).issuedIn s action ++ issuedTimed s ((c.later pause).act s action) actions

/-! ## Spaced requests -/

/-- Between two moments of a crawl, the first request comes at the turn that the frontier gives its
task, each later one at the end of the delay since the one before it or when its task is taken, and
the frontier keeps the time of the last one. -/
structure Spaced (c : Crawl σ) (issues : List Issue) (d : Crawl σ) : Prop where
  requests : d.requests = c.requests ++ issues.map Issue.request
  first : ∀ i ∈ issues.head?, i.time = c.frontier.turn i.taken
  chain : issues.IsChain fun i j => j.time = max j.taken (i.time + c.frontier.delay)
  gate : d.frontier.gate =
    (c.frontier.delay, (issues.getLast?.map Issue.time).or c.frontier.lastTurn)

namespace Spaced

variable {c d e : Crawl σ} {issues more : List Issue}

/-- What asks for nothing and leaves the gate of the frontier alone. -/
theorem of_quiet (requests : d.requests = c.requests) (gate : d.frontier.gate = c.frontier.gate) :
    Spaced c [] d where
  requests := by simp [requests]
  first := by simp
  chain := .nil
  gate := gate

protected theorem refl (c : Crawl σ) : Spaced c [] c :=
  of_quiet rfl rfl

/-- A single request, in its turn. -/
theorem of_request {url : Url}
    (requests : d.requests = c.requests ++ [(url, c.frontier.turn c.clock)])
    (gate : d.frontier.gate = (c.frontier.delay, some (c.frontier.turn c.clock))) :
    Spaced c [⟨url, c.clock, c.frontier.turn c.clock⟩] d where
  requests := requests
  first := by simp
  chain := .singleton _
  gate := gate

theorem trans (h₁ : Spaced c issues d) (h₂ : Spaced d more e) : Spaced c (issues ++ more) e := by
  obtain ⟨hdelay, hlast⟩ := Prod.mk.inj h₁.gate
  refine ⟨?_, ?_, ?_, ?_⟩
  · rw [h₂.requests, h₁.requests, List.map_append, List.append_assoc]
  · intro i hi
    rw [List.head?_append] at hi
    cases hissues : issues.head? with
    | some first =>
      rw [hissues] at hi
      exact h₁.first i (hissues.trans hi)
    | none =>
      -- No request yet, so the frontier lets the next one through as it would have before.
      rw [hissues] at hi
      rw [List.head?_eq_none_iff.1 hissues] at hlast
      rw [h₂.first i hi, Frontier.turn, Frontier.turn, hdelay, hlast]
      rfl
  · rw [List.isChain_append]
    refine ⟨h₁.chain, hdelay ▸ h₂.chain, fun i hi j hj => ?_⟩
    rw [hi] at hlast
    rw [h₂.first j hj, Frontier.turn, hlast, hdelay]
    rfl
  · rw [h₂.gate, hdelay, hlast, List.getLast?_append, Option.map_or, Option.or_assoc]

end Spaced

/-! ## One turn -/

theorem gate_receive (s : Sink σ) (task : CrawlTask) (body : Except FetchError String)
    (c : Crawl σ) : (c.receive s task body).2.frontier.gate = c.frontier.gate := by
  rw [receive_snd]
  dsimp only
  split
  · exact c.frontier.gate_pushAll _
  · rfl

section

variable {web : Web} {stop : Option Nat} {c d : Crawl σ}
  {result : Option (Except RunFailure Tally)}

theorem issuedInTurn_eq {new : List (Url × Nat)} (h : c.step web s stop = (result, d))
    (requests : d.requests = c.requests ++ new) :
    c.issuedInTurn web s stop = new.map fun (url, time) => { url, taken := c.clock, time } := by
  rw [issuedInTurn, h, requests, List.drop_left]

theorem spaced_of_quiet_step (h : c.step web s stop = (result, d))
    (requests : d.requests = c.requests) (gate : d.frontier.gate = c.frontier.gate) :
    Spaced c (c.issuedInTurn web s stop) d := by
  rw [issuedInTurn_eq h (requests.trans (List.append_nil _).symm)]
  exact .of_quiet requests gate

theorem spaced_of_asking_step (url : Url) (h : c.step web s stop = (result, d))
    (requests : d.requests = c.requests ++ [(url, c.frontier.turn c.clock)])
    (gate : d.frontier.gate = (c.frontier.delay, some (c.frontier.turn c.clock))) :
    Spaced c (c.issuedInTurn web s stop) d := by
  rw [issuedInTurn_eq h requests]
  exact .of_request requests gate

end

/-- **A turn asks for one page at most, and in its turn.** -/
theorem spaced_step (web : Web) (s : Sink σ) (stop : Option Nat) (c : Crawl σ) :
    Spaced c (c.issuedInTurn web s stop) (c.step web s stop).2 := by
  generalize hv : c.visit? web s stop = visit
  generalize hstep : c.step web s stop = result
  cases turn_of_step hv hstep with
  | finished =>
    refine spaced_of_quiet_step hstep ?_ ?_ <;> rw [finish_snd]
  | stopped => exact spaced_of_quiet_step hstep rfl rfl
  | skipped => exact spaced_of_quiet_step hstep rfl rfl
  | @interrupted task _ _ _ _ _ await =>
    obtain hd | hd := await_eq_none await
    · refine spaced_of_quiet_step hstep ?_ ?_ <;> rw [hd] <;> rfl
    · refine spaced_of_asking_step task.url hstep ?_ ?_ <;> rw [hd] <;> rfl
  | @visited task _ d _ _ _ receive =>
    obtain rfl : _ = d := congrArg Prod.snd receive
    exact spaced_of_asking_step task.url hstep (requests_receive ..) (gate_receive ..)
  | @failed task _ _ d _ _ _ receive =>
    obtain rfl : _ = d := congrArg Prod.snd receive
    exact spaced_of_asking_step task.url hstep (requests_receive ..) (gate_receive ..)

/-- A task of a stage that reads no pages takes no time and leaves the gate alone, and so it does
not matter to the requests. -/
theorem step_of_no_pages (web : Web) (s : Sink σ) (stop : Option Nat) {c : Crawl σ}
    {task : CrawlTask} {rest : List CrawlTask} (next : c.frontier.queue = task :: rest)
    (stage : task.stage.handlesPages = false) :
    (c.step web s stop).2.clock = c.clock ∧ (c.step web s stop).2.requests = c.requests ∧
      (c.step web s stop).2.frontier.gate = c.frontier.gate := by
  generalize hv : c.visit? web s stop = visit
  generalize hstep : c.step web s stop = result
  have hother : ∀ {other : CrawlTask} {others : List CrawlTask},
      c.frontier.queue = other :: others → other.stage.handlesPages ≠ true := by
    intro other others hnext hother
    obtain rfl := (List.cons.inj (next.symm.trans hnext)).1
    simp [stage] at hother
  cases turn_of_step hv hstep with
  | finished =>
    refine ⟨?_, ?_, ?_⟩ <;> rw [finish_snd]
  | stopped => exact ⟨rfl, rfl, rfl⟩
  | skipped => exact ⟨rfl, rfl, rfl⟩
  | interrupted hnext _ hstage => exact absurd hstage (hother hnext)
  | visited hnext _ hstage => exact absurd hstage (hother hnext)
  | failed hnext _ hstage => exact absurd hstage (hother hnext)

/-! ## Runs and actions -/

theorem issued_eq_trace (web : Web) (s : Sink σ) (stop : Option Nat) (turns : Nat) (c : Crawl σ) :
    c.issued web s stop turns = c.trace (issuedInTurn web s stop) web s stop turns := by
  induction turns generalizing c with
  | zero => rfl
  | succ turns ih =>
    rw [issued, trace]
    cases c.step web s stop with
    | mk result d =>
      cases result with
      | none => exact congrArg _ (ih d)
      | some => rfl

theorem spaced_runFor (web : Web) (s : Sink σ) (stop : Option Nat) (turns : Nat) (c : Crawl σ) :
    Spaced c (c.issued web s stop turns) (c.runFor web s stop turns).2 := by
  rw [issued_eq_trace]
  exact trace_induction (R := fun c issues ended => Spaced c issues ended.2) .refl .trans
    (spaced_step web s stop) turns c

theorem spaced_act (s : Sink σ) (c : Crawl σ) (action : Action) :
    Spaced c (c.issuedIn s action) (c.act s action) := by
  cases action with
  | seedRoot url => exact .of_quiet rfl (c.frontier.gate_push _)
  | seedCategories urls => exact .of_quiet rfl (c.frontier.gate_pushAll _)
  | flush => exact .of_quiet rfl rfl
  | run web stop turns =>
    rw [issuedIn, act, run]
    split
    · exact .refl c
    · exact spaced_runFor web s stop turns c

theorem spaced_actTimed (s : Sink σ) (c : Crawl σ) (actions : List (Nat × Action)) :
    Spaced c (c.issuedTimed s actions) (c.actTimed s actions) := by
  induction actions generalizing c with
  | nil => exact .refl c
  | cons timed actions ih =>
    obtain ⟨pause, action⟩ := timed
    have hlater : Spaced c [] (c.later pause) := .of_quiet rfl rfl
    exact (hlater.trans (spaced_act s _ action)).trans (ih _)

/-- **Requests are spaced by the delay, and only by it.** A crawl starts with any frontier, any buffer
and any limits. It is seeded, run, stopped, run again and flushed in any order, on any webs, with
any time between; pages and batches may fail. The first request comes at once when its task is
taken, or if the frontier has let others through before, not before the delay has passed since the
last of these. Each later request comes when the delay has passed since the one before it or when
its task is taken, whichever is later, so that neighbouring requests are at least the delay apart. A
task of a stage that reads no pages takes no time and moves no request. -/
theorem requests_spaced (s : Sink σ) (label : String) (maxPages : Option Nat) (frontier : Frontier)
    (buffer : RecordBuffer σ) (actions : List (Nat × Action)) :
    let start : Crawl σ := { label, maxPages, frontier, buffer }
    let c := start.actTimed s actions
    let issues := start.issuedTimed s actions
    c.requests = issues.map Issue.request ∧
      (∀ i ∈ issues.head?, i.time =
        match frontier.lastTurn with
        | none => i.taken
        | some last => max i.taken (last + frontier.delay)) ∧
      (issues.IsChain fun i j => j.time = max j.taken (i.time + frontier.delay)) ∧
      (c.requests.IsChain fun p q => p.2 + frontier.delay ≤ q.2) ∧
      ∀ (web : Web) (stop : Option Nat) (e : Crawl σ) (task : CrawlTask) (rest : List CrawlTask),
        e.frontier.queue = task :: rest → task.stage.handlesPages = false →
          let d := (e.step web s stop).2
          d.clock = e.clock ∧ d.requests = e.requests ∧ d.frontier.gate = e.frontier.gate := by
  intro start c issues
  have hspaced : Spaced start issues c := spaced_actTimed s start actions
  have hrequests : c.requests = issues.map Issue.request := hspaced.requests
  refine ⟨hrequests, hspaced.first, hspaced.chain, ?_, fun web stop e task rest next stage =>
    step_of_no_pages web s stop next stage⟩
  rw [hrequests, List.isChain_map]
  refine hspaced.chain.imp fun i j hij => ?_
  rw [Issue.request, Issue.request, hij]
  exact Nat.le_max_right _ _

/-- Three pages that are missing. The answer for the first takes longer than the delay, so the
second one is asked for at once, and only the third one waits. -/
theorem third_of_three_requests_waits :
    let a : Url := { scheme := "http", host := some (.name "a"), path := .segments [""] }
    let b : Url := { a with path := .segments ["b"] }
    let c : Url := { a with path := .segments ["c"] }
    let web : Web := fun url =>
      { delay := if url = a then 400 else 0, body := .error (.timeout url.toString) }
    let s : Sink Unit := ⟨fun _ _ => (.ok (), ())⟩
    let start := fresh "Skladem" none { delay := 250 } () 1
    let actions : List (Nat × Action) :=
      [(0, .seedCategories [a, b, c]), (5, .run web none 4)]
    start.issuedTimed s actions = [⟨a, 5, 5⟩, ⟨b, 405, 405⟩, ⟨c, 405, 655⟩] ∧
      (start.actTimed s actions).requests = [(a, 5), (b, 405), (c, 655)] ∧
      (start.issuedTimed s actions).IsChain fun i j => j.time = max j.taken (i.time + 250) := by
  intro a b c web s start actions
  have hissued : start.issuedTimed s actions = [⟨a, 5, 5⟩, ⟨b, 405, 405⟩, ⟨c, 405, 655⟩] := by
    decide +kernel
  obtain ⟨hrequests, -, hchain, -⟩ :=
    requests_spaced s "Skladem" none { delay := 250 } (.empty () 1) actions
  exact ⟨hissued, hrequests.trans (congrArg _ hissued), hchain⟩

end Crawl

end PriceTracker
