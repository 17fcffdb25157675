import PriceTracker.Proofs.Crawl.Answers
import PriceTracker.Proofs.Crawl.Coverage

/-!
# The order of the stages

A crawl takes over the stage of each page that it turns to, in whatever stage it is. That it never
goes back is due to its frontier: the root page is queued before all others, if at all, and links
lead to listing pages only.

* `stageHistory` lists the stages that a crawl is in, turn by turn and while it waits for a page;
* `Goes` says that stages can be entered one after the other; it composes (`Goes.trans`);
* `RootFirst` is the invariant of the frontier. A turn keeps it (`rootFirst_step`) and, by it, goes
  forward (`goes_step`); so do runs and actions;
* `stages_only_advance`: no stage comes before one that it follows, and a crawl that is done is left
  alone.
-/

namespace PriceTracker

namespace CrawlStage

/-- The place of a stage in the order. -/
def rank : CrawlStage → Nat
  | .start => 0
  | .categoryDiscovery => 1
  | .productExtraction => 2
  | .done => 3

/-- Whoever enters the second stage from the first stays in it or may go there. -/
def Advances (a b : CrawlStage) : Prop :=
  a ≠ b → a.canFollow b = true

variable {a b c : CrawlStage}

theorem advances_iff : a.Advances b ↔ a.rank ≤ b.rank := by
  unfold Advances
  cases a <;> cases b <;> decide

theorem advances_done (a : CrawlStage) : a.Advances .done :=
  advances_iff.2 (by cases a <;> decide)

theorem advances_listing (h : a.isTerminal = false) : a.Advances .productExtraction :=
  advances_iff.2 <| by
    cases a with
    | done => exact absurd h (by decide)
    | _ => decide

theorem advances_of_start (b : CrawlStage) : start.Advances b :=
  advances_iff.2 (Nat.zero_le _)

theorem Advances.refl (a : CrawlStage) : a.Advances a :=
  advances_iff.2 (Nat.le_refl _)

theorem Advances.trans (hab : a.Advances b) (hbc : b.Advances c) : a.Advances c :=
  advances_iff.2 (Nat.le_trans (advances_iff.1 hab) (advances_iff.1 hbc))

/-- From the first stage, the stages can be entered one after the other, and they end in the last
one. -/
inductive Goes : CrawlStage → List CrawlStage → CrawlStage → Prop where
  | refl (a : CrawlStage) : Goes a [] a
  | enter {a b c : CrawlStage} {stages : List CrawlStage} (h : a.Advances b)
      (rest : Goes b stages c) : Goes a (b :: stages) c

namespace Goes

variable {stages more : List CrawlStage}

theorem single (h : a.Advances b) : Goes a [b] b :=
  .enter h (.refl b)

theorem trans (h₁ : Goes a stages b) (h₂ : Goes b more c) : Goes a (stages ++ more) c := by
  induction h₁ with
  | refl => exact h₂
  | enter h _ ih => exact .enter h (ih h₂)

/-- No stage comes before one that it follows. -/
theorem pairwise (h : Goes a stages b) : (a :: stages).Pairwise Advances := by
  induction h with
  | refl a => exact List.pairwise_singleton _ a
  | @enter a b c stages hab _ ih =>
    refine List.pairwise_cons.2 ⟨fun d hd => ?_, ih⟩
    obtain rfl | hd := List.mem_cons.1 hd
    · exact hab
    · exact hab.trans ((List.pairwise_cons.1 ih).1 d hd)

theorem getLast? (h : Goes a stages b) : (a :: stages).getLast? = some b := by
  induction h with
  | refl => rfl
  | enter _ _ ih => rwa [List.getLast?_cons_cons]

end Goes

end CrawlStage

namespace Crawl

open CrawlStage RecordBuffer

variable {σ : Type} {web : Web} {s : Sink σ} {stop : Option Nat} {c d : Crawl σ}

/-! ## The stages that a crawl is in -/

/-- The stages in the next turn: while the crawl waits for a page, if it gets that far, and at the
end of the turn. -/
def stagesInTurn (web : Web) (s : Sink σ) (stop : Option Nat) (c : Crawl σ) : List CrawlStage :=
  let waiting :=
    match c.frontier.queue with
    | [] => []
    | task :: _ =>
      if c.limitReached || isStopped stop c.clock || !task.stage.handlesPages then []
      else [(c.taken.await web stop task).2.stage]
  waiting ++ [(c.step web s stop).2.stage]

/-- The stages in so many turns, in order. -/
def stages (web : Web) (s : Sink σ) (stop : Option Nat) : Nat → Crawl σ → List CrawlStage
  | 0, _ => []
  | turns + 1, c =>
    c.stagesInTurn web s stop ++
      match c.step web s stop with
      | (none, d) => stages web s stop turns d
      | (some _, _) => []

/-- The stages in an action. -/
def stagesIn (s : Sink σ) (c : Crawl σ) : Action → List CrawlStage
  | .run web stop turns => if c.stage.isTerminal then [] else c.stages web s stop turns
  | _ => []

/-- The stages in the course of actions, in order. -/
def stageHistory (s : Sink σ) : Crawl σ → List Action → List CrawlStage
  | _, [] => []
  | c, action :: actions => c.stagesIn s action ++ stageHistory s (c.act s action) actions

theorem stage_await (web : Web) (stop : Option Nat) (task : CrawlTask) (c : Crawl σ) :
    (c.await web stop task).2.stage = task.stage := by
  cases hawait : c.await web stop task with
  | mk body d =>
    cases body with
    | some body =>
      obtain ⟨-, rfl⟩ := await_eq_some hawait
      rfl
    | none =>
      obtain hd | hd := await_eq_none hawait
      · rw [hd]
      · rw [hd]
        rfl

theorem stagesInTurn_of_next (web : Web) (s : Sink σ) (stop : Option Nat) {task : CrawlTask}
    {rest : List CrawlTask} (next : c.frontier.queue = task :: rest) :
    c.stagesInTurn web s stop = [(c.step web s stop).2.stage] ∨
      task.stage.handlesPages = true ∧
        c.stagesInTurn web s stop = [task.stage, (c.step web s stop).2.stage] := by
  simp only [stagesInTurn, next]
  split
  · exact Or.inl rfl
  · next h =>
    rw [stage_await]
    exact Or.inr ⟨by simpa using (Bool.or_eq_false_iff.1 (Bool.eq_false_of_not_eq_true h)).2, rfl⟩

theorem stagesInTurn_of_finished (h : c.frontier.queue = [] ∨ c.limitReached = true) :
    c.stagesInTurn web s stop = [(c.step web s stop).2.stage] := by
  obtain hqueue | hlimit := h
  · simp only [stagesInTurn, hqueue, List.nil_append]
  · simp only [stagesInTurn, hlimit, Bool.true_or, if_true]
    cases c.frontier.queue <;> rfl

/-! ## One turn -/

/-- Only the first task in the queue may be a root page, and only as long as no page was turned
to. -/
structure RootFirst (c : Crawl σ) : Prop where
  behind : ∀ task ∈ c.frontier.queue.tail, task.stage = .productExtraction
  begun : c.stage ≠ .start → c.stage.isTerminal = false →
    ∀ task ∈ c.frontier.queue, task.stage = .productExtraction

theorem rootFirst_of_listings (h : ∀ task ∈ c.frontier.queue, task.stage = .productExtraction) :
    c.RootFirst :=
  ⟨fun task htask => h task (List.mem_of_mem_tail htask), fun _ _ => h⟩

namespace RootFirst

theorem push (h : c.RootFirst) {task : CrawlTask} (listing : task.stage = .productExtraction) :
    { c with frontier := c.frontier.push task }.RootFirst := by
  cases hnew : c.frontier.isNew task with
  | false => rwa [Frontier.push_of_not_isNew hnew]
  | true =>
    have hqueue := Frontier.queue_push_of_isNew hnew
    refine ⟨fun t ht => ?_, fun hstart hgoing t ht => ?_⟩
    · rw [hqueue] at ht
      cases hold : c.frontier.queue with
      | nil => simp [hold] at ht
      | cons first rest =>
        have hbehind := h.behind
        rw [hold, List.tail_cons] at hbehind
        rw [hold, List.cons_append, List.tail_cons, List.mem_append, List.mem_singleton] at ht
        obtain ht | rfl := ht
        · exact hbehind t ht
        · exact listing
    · obtain ht | ⟨rfl, -⟩ := Frontier.mem_queue_push ht
      · exact h.begun hstart hgoing t ht
      · exact listing

theorem pushAll (h : c.RootFirst) {tasks : List CrawlTask}
    (listings : ∀ task ∈ tasks, task.stage = .productExtraction) :
    { c with frontier := c.frontier.pushAll tasks }.RootFirst := by
  induction tasks generalizing c with
  | nil => exact h
  | cons task tasks ih =>
    obtain ⟨hlisting, hlistings⟩ := List.forall_mem_cons.1 listings
    exact ih (h.push hlisting) hlistings

theorem seedCategories (h : c.RootFirst) (urls : List Url) : (c.seedCategories urls).RootFirst :=
  h.pushAll <| List.forall_mem_map.2 fun _ _ => rfl

end RootFirst

theorem stage_of_receive {task : CrawlTask} {body : Except FetchError String}
    {result : Except WriteFailure Unit}
    (receive : (c.answered web task).receive s task body = (result, d)) : d.stage = task.stage := by
  obtain rfl : _ = d := congrArg Prod.snd receive
  rw [stage_receive]
  rfl

/-- After a page, only listing pages are left. -/
theorem listings_of_receive (h : c.RootFirst) {task : CrawlTask} {result : Except WriteFailure Unit}
    (receive : (c.taken.answered web task).receive s task (web task.url).body = (result, d)) :
    ∀ t ∈ d.frontier.queue, t.stage = .productExtraction := by
  intro t ht
  cases result with
  | error failure =>
    rw [frontier_receive_of_error receive] at ht
    exact h.behind t ht
  | ok =>
    rw [frontier_receive_of_ok receive] at ht
    obtain ht | ⟨ht, -⟩ := Frontier.mem_queue_pushAll ht
    · exact h.behind t ht
    · exact CrawlTask.stage_of_mem_leadsTo ht

theorem rootFirst_step (h : c.RootFirst) (web : Web) (s : Sink σ) (stop : Option Nat) :
    (c.step web s stop).2.RootFirst := by
  generalize hv : c.visit? web s stop = visit
  generalize hstep : c.step web s stop = result
  cases turn_of_step hv hstep with
  | finished =>
    generalize hf : c.finish s = ended
    cases finish_outcome hf with
    | refused => exact ⟨h.behind, h.begun⟩
    | written => exact ⟨h.behind, fun _ hgoing => absurd hgoing (by simp [settle, isTerminal])⟩
  | stopped => exact rootFirst_of_listings h.behind
  | skipped => exact rootFirst_of_listings h.behind
  | interrupted _ _ _ await =>
    obtain hd | hd := await_eq_none await <;> rw [hd] <;> exact rootFirst_of_listings h.behind
  | visited _ _ _ receive => exact rootFirst_of_listings (listings_of_receive h receive)
  | failed _ _ _ receive => exact rootFirst_of_listings (listings_of_receive h receive)

/-- The stage of a page that is turned to follows the stage of the crawl. -/
theorem RootFirst.advances_of_next (h : c.RootFirst) (going : c.stage.isTerminal = false)
    {task : CrawlTask} {rest : List CrawlTask} (next : c.frontier.queue = task :: rest) :
    c.stage.Advances task.stage := by
  by_cases hstart : c.stage = .start
  · rw [hstart]
    exact advances_of_start _
  · have hlisting := h.begun hstart going task (by rw [next]; exact List.mem_cons_self)
    rw [hlisting]
    exact advances_listing going

/-- A turn goes forward if the stage at its end follows the one before it and that of the page. -/
theorem goes_of_next (h : c.RootFirst) (going : c.stage.isTerminal = false) {task : CrawlTask}
    {rest : List CrawlTask} (next : c.frontier.queue = task :: rest)
    {result : Option (Except RunFailure Tally)} (hstep : c.step web s stop = (result, d))
    (whole : c.stage.Advances d.stage)
    (last : task.stage.handlesPages = true → task.stage.Advances d.stage) :
    Goes c.stage (c.stagesInTurn web s stop) d.stage := by
  obtain hone | ⟨hhandles, htwo⟩ := stagesInTurn_of_next web s stop next
  · rw [hone, hstep]
    exact .single whole
  · rw [htwo, hstep]
    exact .enter (h.advances_of_next going next) (.single (last hhandles))

theorem goes_of_page (h : c.RootFirst) (going : c.stage.isTerminal = false) {task : CrawlTask}
    {rest : List CrawlTask} (next : c.frontier.queue = task :: rest)
    {result : Option (Except RunFailure Tally)} (hstep : c.step web s stop = (result, d))
    (page : d.stage = task.stage) : Goes c.stage (c.stagesInTurn web s stop) d.stage := by
  refine goes_of_next h going next hstep ?_ fun _ => ?_
  · rw [page]
    exact h.advances_of_next going next
  · rw [page]
    exact .refl _

theorem goes_step (h : c.RootFirst) (going : c.stage.isTerminal = false) (web : Web) (s : Sink σ)
    (stop : Option Nat) :
    Goes c.stage (c.stagesInTurn web s stop) (c.step web s stop).2.stage := by
  generalize hv : c.visit? web s stop = visit
  generalize hstep : c.step web s stop = result
  cases turn_of_step hv hstep with
  | finished hend =>
    rw [stagesInTurn_of_finished hend, hstep]
    refine .single ?_
    generalize hf : c.finish s = ended
    cases finish_outcome hf with
    | refused => exact .refl _
    | written => exact advances_done _
  | stopped next =>
    exact goes_of_next h going next hstep (advances_done _) fun _ => advances_done _
  | skipped next _ stage =>
    refine goes_of_next h going next hstep (.refl _) fun hhandles => ?_
    rw [stage] at hhandles
    exact absurd hhandles Bool.false_ne_true
  | interrupted next =>
    exact goes_of_next h going next hstep (advances_done _) fun _ => advances_done _
  | visited next _ _ receive => exact goes_of_page h going next hstep (stage_of_receive receive)
  | failed next _ _ receive => exact goes_of_page h going next hstep (stage_of_receive receive)

/-- A turn that does not end the run does not end the crawl. -/
theorem isTerminal_of_step_eq_none (going : c.stage.isTerminal = false)
    (hstep : c.step web s stop = (none, d)) : d.stage.isTerminal = false := by
  generalize hv : c.visit? web s stop = visit
  cases turn_of_step hv hstep with
  | skipped => exact going
  | visited _ _ stage receive =>
    rw [stage_of_receive receive]
    exact isTerminal_of_handlesPages stage

/-! ## Runs and actions -/

theorem goes_runFor (h : c.RootFirst) (going : c.stage.isTerminal = false) (web : Web) (s : Sink σ)
    (stop : Option Nat) (turns : Nat) :
    Goes c.stage (c.stages web s stop turns) (c.runFor web s stop turns).2.stage := by
  induction turns generalizing c with
  | zero => exact .refl _
  | succ turns ih =>
    have hgoes := goes_step h going web s stop
    have hroot := rootFirst_step h web s stop
    rw [stages, runFor]
    cases hstep : c.step web s stop with
    | mk result d =>
      rw [hstep] at hgoes hroot
      cases result with
      | none => exact hgoes.trans (ih hroot (isTerminal_of_step_eq_none going hstep))
      | some => simpa using hgoes

theorem RootFirst.act (h : c.RootFirst) {action : Action} (noRoot : ∀ url, action ≠ .seedRoot url) :
    (c.act s action).RootFirst ∧ Goes c.stage (c.stagesIn s action) (c.act s action).stage := by
  cases action with
  | seedRoot url => exact absurd rfl (noRoot url)
  | seedCategories urls => exact ⟨h.seedCategories urls, .refl _⟩
  | flush => exact ⟨⟨h.behind, h.begun⟩, .refl _⟩
  | run web stop turns =>
    rw [stagesIn, Crawl.act, run]
    by_cases hterminal : c.stage.isTerminal = true
    · rw [if_pos hterminal, if_pos hterminal]
      exact ⟨h, .refl _⟩
    · rw [if_neg hterminal, if_neg hterminal]
      exact ⟨runFor_keeps (I := RootFirst) (fun _ h => rootFirst_step h web s stop) h turns,
        goes_runFor h (Bool.eq_false_of_not_eq_true hterminal) web s stop turns⟩

theorem RootFirst.goes_actAll (h : c.RootFirst) {actions : List Action}
    (noRoot : ∀ url, Action.seedRoot url ∉ actions) :
    Goes c.stage (c.stageHistory s actions) (c.actAll s actions).stage := by
  induction actions generalizing c with
  | nil => exact .refl _
  | cons action actions ih =>
    have hother : ∀ url, action ≠ .seedRoot url := fun url haction =>
      noRoot url (haction ▸ List.mem_cons_self)
    obtain ⟨hact, hgoes⟩ := h.act (s := s) hother
    exact hgoes.trans (ih hact fun url hmem => noRoot url (List.mem_cons_of_mem _ hmem))

theorem rootFirst_start (seeding : Seeding) (label : String) (maxPages : Option Nat) (delay : Nat)
    (sink : σ) (batchSize : Nat) :
    (seeding.start (fresh label maxPages { delay } sink batchSize)).RootFirst := by
  have hnone : (fresh label maxPages { delay } sink batchSize).RootFirst :=
    rootFirst_of_listings (List.forall_mem_nil _)
  cases seeding with
  | root url => exact ⟨List.forall_mem_nil _, fun hstart => absurd rfl hstart⟩
  | categories urls => exact hnone.seedCategories urls

/-- A crawl that is over stays so, and asks for nothing. -/
theorem actAll_of_isTerminal (h : c.stage.isTerminal = true) (s : Sink σ) (actions : List Action) :
    (c.actAll s actions).stage = c.stage ∧ (c.actAll s actions).requests = c.requests ∧
      c.stageHistory s actions = [] := by
  induction actions generalizing c with
  | nil => exact ⟨rfl, rfl, rfl⟩
  | cons action actions ih =>
    have hact : (c.act s action).stage = c.stage ∧ (c.act s action).requests = c.requests ∧
        c.stagesIn s action = [] := by
      cases action with
      | run web stop turns =>
        rw [act, run_of_isTerminal h, stagesIn, if_pos h]
        exact ⟨rfl, rfl, rfl⟩
      | _ => exact ⟨rfl, rfl, rfl⟩
    obtain ⟨hstage, hrequests, hnone⟩ := hact
    obtain ⟨hstage', hrequests', hnone'⟩ := ih (c := c.act s action) (hstage ▸ h)
    refine ⟨hstage'.trans hstage, hrequests'.trans hrequests, ?_⟩
    rw [stageHistory, hnone, hnone', List.append_nil]

/-- **The stage of a crawl only moves forward.** A crawl starts at a root page or at given
categories. Its sink may do anything, and it may be run, stopped, flushed, run again on another web
and given further categories, as often as one likes. Of the stages that it is in, turn by turn and
while it waits for a page, each is the same as any before it or may follow it, and the last one is
the stage that the crawl is left in. Any crawl that is done stays so, whatever is done to it: it
asks for nothing, and a run answers with the counters and leaves everything as it is, so that
nothing is written. -/
theorem stages_only_advance (s : Sink σ) (sink : σ) (label : String) (maxPages : Option Nat)
    (delay batchSize : Nat) (seeding : Seeding) {actions : List Action}
    (noRoot : ∀ url, Action.seedRoot url ∉ actions) :
    let start := seeding.start (fresh label maxPages { delay } sink batchSize)
    let stages := start.stage :: start.stageHistory s actions
    stages.Pairwise (fun earlier later => earlier ≠ later → earlier.canFollow later = true) ∧
      stages.getLast? = some (start.actAll s actions).stage ∧
      ∀ c : Crawl σ, c.stage = .done → ∀ more : List Action,
        let d := c.actAll s more
        c.stageHistory s more = [] ∧ d.stage = .done ∧ d.requests = c.requests ∧
          ∀ (t : Sink σ) (web : Web) (stop : Option Nat) (turns : Nat),
            d.run web t stop turns = (some (.ok d.tally), d) := by
  intro start stages
  have hgoes : Goes start.stage (start.stageHistory s actions) (start.actAll s actions).stage :=
    (rootFirst_start seeding label maxPages delay sink batchSize).goes_actAll noRoot
  refine ⟨hgoes.pairwise, hgoes.getLast?, fun c hdone more => ?_⟩
  have hterminal : c.stage.isTerminal = true := by
    rw [hdone]
    rfl
  obtain ⟨hstage, hrequests, hnone⟩ := actAll_of_isTerminal hterminal s more
  exact ⟨hnone, hstage.trans hdone, hrequests, fun t web stop turns =>
    run_of_isTerminal (hstage ▸ hterminal) web t stop turns⟩

/-- A root page with a category that links back to it, seen to the end in two runs. -/
theorem stages_of_circular_shop :
    let root : Url :=
      { scheme := "http", host := some (.ipv6 [0, 0, 0, 0, 0, 0, 0, 1]), path := .segments [""] }
    let home := "<div id=ProductsMaster><li class=leaf><a class=name href=/b>b</a></div>"
    let list := "<p id=CompoundPagingBottom><a class=page href=/>1</a></p>"
    let web : Web := fun url =>
      { body := .ok (if url.pageKey == root.pageKey then home else list), delay := 100 }
    let s : Sink Unit := ⟨fun _ _ => (.ok (), ())⟩
    let start := (Seeding.root root).start (fresh "Skladem" none { delay := 500 } () 10)
    let actions : List Action := [.run web none 1, .seedCategories [root], .run web none 5]
    let stages := start.stage :: start.stageHistory s actions
    (∀ url, Action.seedRoot url ∉ actions) ∧
      stages = [.start, .categoryDiscovery, .categoryDiscovery, .productExtraction,
        .productExtraction, .done] ∧
      stages.Pairwise fun earlier later => earlier ≠ later → earlier.canFollow later = true := by
  intro root home list web s start actions stages
  have noRoot : ∀ url, Action.seedRoot url ∉ actions := by simp [actions]
  refine ⟨noRoot, by decide +kernel, ?_⟩
  exact (stages_only_advance s () "Skladem" none 500 10 (.root root) noRoot).1

end Crawl

end PriceTracker
