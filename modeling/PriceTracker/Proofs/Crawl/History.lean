import PriceTracker.Proofs.Crawl.Turn

/-!
# The records of a crawl

A crawl may be seeded, run, stopped, run again and flushed in any order, on any web and with any
sink. `Crawl.history` lists the pages that were visited on the way. Whatever happens, no record gets
lost, is written twice or changes places between a page and the sink:

* `trace_induction`, `runFor_induction`: what holds of each turn and composes holds of a run;
* `Delivers` relates a crawl, visits and the crawl after them; it composes (`Delivers.trans`), holds
  of a turn (`delivers_step`) and so of a run and of any actions (`delivers_actAll`);
* `accepted_append_pending_eq_handed`: the accepted batches followed by the pending records are the
  records handed over by the visits, page by page.
-/

namespace PriceTracker.Crawl

open RecordBuffer

variable {σ : Type} {web : Web} {s : Sink σ} {stop : Option Nat}
  {log : σ → List (List ProductRecord)}

/-! ## Histories -/

/-- The pages that are visited in so many turns, in order. -/
def visits (web : Web) (s : Sink σ) (stop : Option Nat) : Nat → Crawl σ → List Visit
  | 0, _ => []
  | turns + 1, c =>
    (c.visit? web s stop).toList ++
      match c.step web s stop with
      | (none, d) => visits web s stop turns d
      | (some _, _) => []

/-- What is done to a crawl from outside. -/
inductive Action where
  | seedRoot (url : Url)
  | seedCategories (urls : List Url)
  /-- Hand over the collected records. -/
  | flush
  /-- Run for at most so many turns, up to a time if one is given. -/
  | run (web : Web) (stop : Option Nat) (turns : Nat)

/-- The crawl after an action. -/
def act (s : Sink σ) (c : Crawl σ) : Action → Crawl σ
  | .seedRoot url => c.seedRoot url
  | .seedCategories urls => c.seedCategories urls
  | .flush => (c.flush s).2
  | .run web stop turns => (c.run web s stop turns).2

/-- The crawl after actions. -/
def actAll (s : Sink σ) (c : Crawl σ) (actions : List Action) : Crawl σ :=
  actions.foldl (act s) c

/-- The pages that are visited in an action. -/
def visitsIn (s : Sink σ) (c : Crawl σ) : Action → List Visit
  | .run web stop turns => if c.stage.isTerminal then [] else c.visits web s stop turns
  | _ => []

/-- The pages that are visited in the course of actions, in order. -/
def history (s : Sink σ) : Crawl σ → List Action → List Visit
  | _, [] => []
  | c, action :: actions => c.visitsIn s action ++ history s (c.act s action) actions

/-! ## Runs, turn by turn -/

/-- What the turns of a run bring, in order, if each brings a list. -/
def trace {α : Type} (note : Crawl σ → List α) (web : Web) (s : Sink σ) (stop : Option Nat) :
    Nat → Crawl σ → List α
  | 0, _ => []
  | turns + 1, c =>
    note c ++
      match c.step web s stop with
      | (none, d) => trace note web s stop turns d
      | (some _, _) => []

/-- **What holds of each turn and composes holds of a run.** It may tell of what the turns bring and
of the answer of the run. -/
theorem trace_induction {α : Type} {note : Crawl σ → List α}
    {R : Crawl σ → List α → Option (Except RunFailure Tally) × Crawl σ → Prop}
    (refl : ∀ c, R c [] (none, c))
    (trans : ∀ {c d vs ws ended}, R c vs (none, d) → R d ws ended → R c (vs ++ ws) ended)
    (step : ∀ c, R c (note c) (c.step web s stop)) (turns : Nat) (c : Crawl σ) :
    R c (c.trace note web s stop turns) (c.runFor web s stop turns) := by
  induction turns generalizing c with
  | zero => exact refl c
  | succ turns ih =>
    have hstep := step c
    rw [trace, runFor]
    cases hc : c.step web s stop with
    | mk result d =>
      rw [hc] at hstep
      cases result with
      | none => exact trans hstep (ih d)
      | some => simpa using hstep

theorem visits_eq_trace (web : Web) (s : Sink σ) (stop : Option Nat) (turns : Nat) (c : Crawl σ) :
    c.visits web s stop turns =
      c.trace (fun c => (c.visit? web s stop).toList) web s stop turns := by
  induction turns generalizing c with
  | zero => rfl
  | succ turns ih => simp only [visits, trace, ih]

/-- What holds of each turn with the page that is visited in it, and composes, holds of a run. -/
theorem runFor_induction {R : Crawl σ → List Visit → Crawl σ → Prop} (refl : ∀ c, R c [] c)
    (trans : ∀ {c d e vs ws}, R c vs d → R d ws e → R c (vs ++ ws) e)
    (step : ∀ c, R c (c.visit? web s stop).toList (c.step web s stop).2) (turns : Nat)
    (c : Crawl σ) : R c (c.visits web s stop turns) (c.runFor web s stop turns).2 := by
  rw [visits_eq_trace]
  exact trace_induction (R := fun c vs ended => R c vs ended.2) refl trans step turns c

section

variable {I : Crawl σ → Prop} {c d e : Crawl σ} {turns : Nat}

/-- What each turn keeps, a run keeps. -/
theorem runFor_keeps (step : ∀ c, I c → I (c.step web s stop).2) (h : I c) (turns : Nat) :
    I (c.runFor web s stop turns).2 :=
  runFor_induction (R := fun c _ d => I c → I d) (fun _ h => h) (fun h₁ h₂ h => h₂ (h₁ h)) step
    turns c h

/-- What seeding, flushing and turns keep, actions keep. -/
theorem act_keeps (seed : ∀ c frontier, I c → I { c with frontier })
    (flush : ∀ c, I c → I (c.flush s).2) (step : ∀ web stop c, I c → I (c.step web s stop).2)
    (h : I c) (action : Action) : I (c.act s action) := by
  cases action with
  | seedRoot => exact seed c _ h
  | seedCategories => exact seed c _ h
  | flush => exact flush c h
  | run web stop turns =>
    rw [act, run]
    split
    · exact h
    · exact runFor_keeps (step web stop) h turns

theorem actAll_keeps (seed : ∀ c frontier, I c → I { c with frontier })
    (flush : ∀ c, I c → I (c.flush s).2) (step : ∀ web stop c, I c → I (c.step web s stop).2)
    (h : I c) (actions : List Action) : I (c.actAll s actions) := by
  induction actions generalizing c with
  | nil => exact h
  | cons action actions ih => exact ih (act_keeps seed flush step h action)

/-- A run ends if each turn that does not end it lowers something. -/
theorem runFor_ends {rank : Crawl σ → Nat}
    (step : ∀ c d, I c → c.step web s stop = (none, d) → I d ∧ rank d < rank c) (h : I c)
    (hturns : rank c < turns) : ∃ result d, c.runFor web s stop turns = (some result, d) := by
  induction turns generalizing c with
  | zero => omega
  | succ turns ih =>
    rw [runFor]
    cases hstep : c.step web s stop with
    | mk result d =>
      cases result with
      | some result => exact ⟨result, d, rfl⟩
      | none =>
        obtain ⟨hd, hless⟩ := step c d h hstep
        exact ih hd (by omega)

/-- A run that ends has gone on up to its last turn. -/
theorem exists_last_turn {result : Except RunFailure Tally}
    (hrun : c.runFor web s stop turns = (some result, e)) :
    ∃ n more d, turns = n + more ∧ c.runFor web s stop n = (none, d) ∧
      d.step web s stop = (some result, e) := by
  induction turns generalizing c with
  | zero => simp [runFor] at hrun
  | succ turns ih =>
    rw [runFor] at hrun
    cases hstep : c.step web s stop with
    | mk answer d =>
      rw [hstep] at hrun
      cases answer with
      | none =>
        obtain ⟨n, more, f, rfl, hf, hlast⟩ := ih hrun
        exact ⟨n + 1, more, f, (Nat.succ_add n more).symm, by rwa [runFor, hstep], hlast⟩
      | some => exact ⟨0, turns + 1, c, (Nat.zero_add _).symm, rfl, hstep.trans hrun⟩

end

/-! ## Delivery -/

/-- Between two moments of a crawl, the visits handed over records, and these are all that the
ledger of the buffer and the counters gained. -/
structure Delivers (log : σ → List (List ProductRecord)) (c : Crawl σ) (vs : List Visit)
    (d : Crawl σ) : Prop where
  ledger : d.buffer.ledger log = c.buffer.ledger log ++ vs.flatMap Visit.handed
  extracted : d.tally.recordsExtracted + c.buffer.handled =
    c.tally.recordsExtracted + d.buffer.handled
  /-- The visits are among the requests, in the same order. -/
  requests : ∃ new, d.requests = c.requests ++ new ∧
    (vs.map fun v => v.task.url).Sublist (new.map Prod.fst)
  label : d.label = c.label
  /-- A visit works off the product blocks of its page from the first on. -/
  blocks : ∀ v ∈ vs, v.blocks <+: v.task.blocks c.label v.body
  /-- Only a failing batch makes it stop before the last. -/
  complete : ∀ v ∈ vs, v.outcome = .ok () → v.blocks = v.task.blocks c.label v.body

namespace Delivers

variable {c d e : Crawl σ} {vs ws : List Visit}

theorem trans (h₁ : Delivers log c vs d) (h₂ : Delivers log d ws e) :
    Delivers log c (vs ++ ws) e where
  ledger := by rw [h₂.ledger, h₁.ledger, List.flatMap_append, List.append_assoc]
  extracted := by
    have := h₁.extracted
    have := h₂.extracted
    omega
  requests := by
    obtain ⟨new₁, hnew₁, hsub₁⟩ := h₁.requests
    obtain ⟨new₂, hnew₂, hsub₂⟩ := h₂.requests
    refine ⟨new₁ ++ new₂, by rw [hnew₂, hnew₁, List.append_assoc], ?_⟩
    simpa only [List.map_append] using hsub₁.append hsub₂
  label := h₂.label.trans h₁.label
  blocks v hv := (List.mem_append.1 hv).elim (h₁.blocks v) fun hv => h₁.label ▸ h₂.blocks v hv
  complete v hv :=
    (List.mem_append.1 hv).elim (h₁.complete v) fun hv => h₁.label ▸ h₂.complete v hv

/-- What gives the buffer no record and leaves the counters alone delivers nothing. -/
theorem of_quiet (ledger : d.buffer.ledger log = c.buffer.ledger log)
    (handled : d.buffer.handled = c.buffer.handled)
    (tally : d.tally.recordsExtracted = c.tally.recordsExtracted)
    (requests : ∃ new, d.requests = c.requests ++ new) (label : d.label = c.label) :
    Delivers log c [] d where
  ledger := by simp [ledger]
  extracted := by omega
  requests := by
    obtain ⟨new, hnew⟩ := requests
    exact ⟨new, hnew, List.nil_sublist _⟩
  label := label
  blocks := by simp
  complete := by simp

protected theorem refl (c : Crawl σ) : Delivers log c [] c :=
  of_quiet rfl rfl rfl ⟨[], by simp⟩ rfl

end Delivers

/-! ## One turn -/

theorem delivers_finish (h : s.Logs log) (c : Crawl σ) : Delivers log c [] (c.finish s).2 := by
  have hledger := ledger_flush h c.buffer
  have hhandled := handled_flush s c.buffer
  generalize hf : c.finish s = result
  cases finish_outcome hf with
  | refused hflush =>
    rw [hflush] at hledger hhandled
    exact .of_quiet hledger hhandled rfl ⟨[], by simp⟩ rfl
  | written hflush =>
    rw [hflush] at hledger hhandled
    exact .of_quiet hledger hhandled rfl ⟨[], by simp [settle]⟩ rfl

theorem delivers_abort_of_await {task : CrawlTask} {c d : Crawl σ}
    (h : c.await web stop task = (none, d)) : Delivers log c [] d.abort.2 := by
  obtain hd | hd := await_eq_none h <;> rw [hd]
  · exact .of_quiet rfl rfl rfl ⟨[], by simp [abort, settle]⟩ rfl
  · exact .of_quiet rfl rfl rfl ⟨[_], rfl⟩ rfl

/-- A visit delivers its own records. -/
theorem delivers_receive (h : s.Logs log) {task : CrawlTask} {c d : Crawl σ}
    {result : Except WriteFailure Unit}
    (receive : (c.answered web task).receive s task (web task.url).body = (result, d)) :
    Delivers log c [(c.answered web task).visit s task (web task.url).body] d := by
  obtain rfl : _ = d := congrArg Prod.snd receive
  refine ⟨?_, ?_, ⟨[(task.url, c.frontier.turn c.clock)], ?_, by simp [visit]⟩, ?_, ?_, ?_⟩
  · rw [buffer_receive, ledger_after h, appended_map_append]
    simp [visit, Visit.handed, answered]
  · rw [recordsExtracted_receive, buffer_receive, handled_after, appended_map_append]
    simp only [answered]
    omega
  · rw [requests_receive]
    rfl
  · rw [label_receive]
    rfl
  · simp only [List.mem_singleton, forall_eq]
    exact consumed_prefix s task _ _
  · simp only [List.mem_singleton, forall_eq]
    exact consumed_of_receive_ok

theorem delivers_step (h : s.Logs log) (web : Web) (stop : Option Nat) (c : Crawl σ) :
    Delivers log c (c.visit? web s stop).toList (c.step web s stop).2 := by
  generalize hv : c.visit? web s stop = visit
  generalize hstep : c.step web s stop = result
  have htaken : Delivers log c [] c.taken := .of_quiet rfl rfl rfl ⟨[], by simp [taken]⟩ rfl
  cases turn_of_step hv hstep with
  | finished => exact delivers_finish h c
  | stopped => exact .of_quiet rfl rfl rfl ⟨[], by simp [abort, settle, taken]⟩ rfl
  | skipped => exact htaken
  | interrupted _ _ _ await => exact htaken.trans (delivers_abort_of_await await)
  | visited _ _ _ receive => exact htaken.trans (delivers_receive h receive)
  | failed _ _ _ receive => exact htaken.trans (delivers_receive h receive)

/-! ## Runs and actions -/

theorem delivers_runFor (h : s.Logs log) (web : Web) (stop : Option Nat) (turns : Nat)
    (c : Crawl σ) : Delivers log c (c.visits web s stop turns) (c.runFor web s stop turns).2 :=
  runFor_induction .refl .trans (delivers_step h web stop) turns c

theorem delivers_act (h : s.Logs log) (c : Crawl σ) (action : Action) :
    Delivers log c (c.visitsIn s action) (c.act s action) := by
  cases action with
  | seedRoot => exact .of_quiet rfl rfl rfl ⟨[], by simp [act, seedRoot]⟩ rfl
  | seedCategories => exact .of_quiet rfl rfl rfl ⟨[], by simp [act, seedCategories]⟩ rfl
  | flush =>
    exact .of_quiet (ledger_flush h c.buffer) (handled_flush s c.buffer) rfl
      ⟨[], by simp [act, flush]⟩ rfl
  | run web stop turns =>
    rw [visitsIn, act, run]
    split
    · exact .refl c
    · exact delivers_runFor h web stop turns c

theorem delivers_actAll (h : s.Logs log) (c : Crawl σ) (actions : List Action) :
    Delivers log c (c.history s actions) (c.actAll s actions) := by
  induction actions generalizing c with
  | nil => exact .refl c
  | cons action actions ih => exact (delivers_act h c action).trans (ih _)

/-- **Everything that is extracted is written or pending, once and in order.** A crawl starts with
an empty buffer; its sink may refuse any calls by itself, and `fault` lets further ones be refused
or break down. After any actions the accepted batches followed by the pending records are the
records that the visits handed to the buffer. The visits come in the order of their requests; each
hands over the records of its page, from the first on, and all of them unless a batch is not
accepted. The records of a page are in the order of its listing, which is that in which the parser
made the elements of the page. -/
theorem accepted_append_pending_eq_handed (sink : Sink σ) (fault : Nat → Option WriteFailure)
    (state : σ) (label : String) (maxPages : Option Nat) (frontier : Frontier) (batchSize : Nat)
    (actions : List Action) :
    let s := sink.withFaults fault
    let start := fresh label maxPages frontier { state } batchSize
    let c := start.actAll s actions
    let visits := start.history s actions
    c.buffer.sink.accepted.flatten ++ c.buffer.pending = visits.flatMap Visit.handed ∧
      c.tally.recordsExtracted = c.buffer.records + c.buffer.pending.length ∧
      (visits.map fun v => v.task.url).Sublist (c.requests.map Prod.fst) ∧
      ∀ v ∈ visits, v.blocks <+: v.task.blocks label v.body ∧
        (v.outcome = .ok () → v.blocks = v.task.blocks label v.body) := by
  intro s start c visits
  have hdel : Delivers Calls.accepted start visits c :=
    delivers_actAll (sink.logs_withFaults fault) start actions
  refine ⟨hdel.ledger, ?_, ?_, fun v hv => ⟨hdel.blocks v hv, hdel.complete v hv⟩⟩
  · simpa [handled, start, fresh, RecordBuffer.empty] using hdel.extracted
  · obtain ⟨new, hnew, hsub⟩ := hdel.requests
    rw [hnew]
    simpa [start, fresh] using hsub

end PriceTracker.Crawl
