import PriceTracker.Proofs.Crawl.Turn

/-!
# Stopping a run from outside

A run may be told to stop at any time. Only waiting takes time, and while a crawl waits for a page
it has done nothing with it, so a stop falls between two pages:

* `step_of_stop`: a turn goes as if there were no stop if it is over before the stop, and otherwise
  it is given up;
* `StoppedAfter` says what is left of a crawl then: what it was before the turn, but for the task
  that was taken and perhaps one more request;
* `run_stopped_between_pages`: a run to be stopped is the uninterrupted run, or it ends after some
  of the turns of the uninterrupted run.
-/

namespace PriceTracker

theorem Frontier.le_turn (f : Frontier) (now : Nat) : now ≤ f.turn now := by
  unfold turn
  split
  · exact Nat.le_refl now
  · exact Nat.le_max_left _ _

namespace Crawl

variable {σ : Type} {web : Web} {s : Sink σ} {stop : Nat} {task : CrawlTask}
  {rest : List CrawlTask} {c : Crawl σ}

/-! ## Waiting until a stop -/

theorem isStopped_none (time : Nat) : isStopped none time = false := rfl

theorem isStopped_eq_false {time : Nat} (h : time < stop) : isStopped (some stop) time = false :=
  decide_eq_false (Nat.not_le_of_lt h)

theorem clock_answered (web : Web) (task : CrawlTask) (c : Crawl σ) :
    (c.answered web task).clock = c.frontier.turn c.clock + (web task.url).delay := rfl

theorem waitUntil_of_lt {time : Nat} (h : time < stop) (c : Crawl σ) :
    c.waitUntil (some stop) time = (some (), { c with clock := time }) := by
  have hnot : ¬(c.clock < time && stop ≤ time) = true := by simp [h]
  rw [waitUntil, if_neg hnot]

theorem waitUntil_of_le {time : Nat} (hclock : c.clock < stop) (h : stop ≤ time) :
    c.waitUntil (some stop) time = (none, { c with clock := stop }) := by
  have hwait : (c.clock < time && stop ≤ time) = true := by
    simp only [Bool.and_eq_true, decide_eq_true_eq]
    omega
  rw [waitUntil, if_pos hwait]

/-- An answer that comes before the stop is not missed. -/
theorem await_of_lt (h : (c.answered web task).clock < stop) :
    c.await web (some stop) task = (some (web task.url).body, c.answered web task) := by
  rw [clock_answered] at h
  have hturn : c.frontier.turn c.clock < stop := by omega
  rw [await]
  dsimp only
  rw [waitUntil_of_lt hturn]
  dsimp only
  rw [waitUntil_of_lt (by exact h)]
  rfl

/-- A turn that comes at the time of the stop or later is not waited for. -/
theorem await_of_turn_le (hclock : c.clock < stop) (h : stop ≤ c.frontier.turn c.clock) :
    c.await web (some stop) task = (none, { c with stage := task.stage, clock := stop }) := by
  rw [await]
  dsimp only
  rw [waitUntil_of_le (by exact hclock) h]

/-- Nor is the answer. -/
theorem await_of_turn_lt (hturn : c.frontier.turn c.clock < stop)
    (h : stop ≤ (c.answered web task).clock) :
    c.await web (some stop) task = (none, { c.answered web task with clock := stop }) := by
  rw [clock_answered] at h
  rw [await]
  dsimp only
  rw [waitUntil_of_lt hturn]
  dsimp only
  rw [waitUntil_of_le (by exact hturn) (by exact h)]
  rfl

theorem await_of_le (hclock : c.clock < stop) (h : stop ≤ (c.answered web task).clock) :
    ∃ d, c.await web (some stop) task = (none, d) := by
  by_cases hturn : stop ≤ c.frontier.turn c.clock
  · exact ⟨_, await_of_turn_le hclock hturn⟩
  · exact ⟨_, await_of_turn_lt (Nat.lt_of_not_le hturn) h⟩

/-! ## One turn -/

/-- A page waits, and may be visited. -/
def HasNext (c : Crawl σ) : Prop :=
  c.frontier.queue ≠ [] ∧ c.limitReached = false

theorem hasNext_of_queue (next : c.frontier.queue = task :: rest) (limit : c.limitReached = false) :
    c.HasNext :=
  ⟨by simp [next], limit⟩

/-- What a stop in the next turn leaves of a crawl, and the answer of the run. -/
structure StoppedAfter (c : Crawl σ) (ended : Option (Except RunFailure Tally) × Crawl σ) :
    Prop where
  answer : ended.1 = some (.error (.aborted c.buffer.pending.length))
  /-- No record was added and no batch handed over. -/
  buffer : ended.2.buffer = c.buffer
  seen : ended.2.frontier.seen = c.frontier.seen
  /-- The task that was taken is lost. -/
  queue : ended.2.frontier.queue = c.frontier.queue.tail
  tally : ended.2.tally = { c.tally with
    batchesWritten := c.buffer.batches
    recordsWritten := c.buffer.records }
  stage : ended.2.stage = .done
  /-- Its page may have been asked for. -/
  requests : ∃ new, ended.2.requests = c.requests ++ new ∧ new.length ≤ 1

theorem stoppedAfter_abort_taken (c : Crawl σ) :
    c.StoppedAfter (some c.taken.abort.1, c.taken.abort.2) where
  answer := rfl
  buffer := rfl
  seen := rfl
  queue := rfl
  tally := rfl
  stage := rfl
  requests := ⟨[], (List.append_nil _).symm, Nat.zero_le _⟩

theorem stoppedAfter_abort_of_await {stop : Option Nat} {d : Crawl σ}
    (h : c.taken.await web stop task = (none, d)) :
    c.StoppedAfter (some d.abort.1, d.abort.2) := by
  obtain hd | hd := await_eq_none h <;> rw [hd]
  · exact ⟨rfl, rfl, rfl, rfl, rfl, rfl, [], (List.append_nil _).symm, Nat.zero_le _⟩
  · exact ⟨rfl, rfl, rfl, rfl, rfl, rfl, [_], rfl, Nat.le_refl 1⟩

/-- When a turn is over that is not stopped. -/
theorem clock_step_none (next : c.frontier.queue = task :: rest) (limit : c.limitReached = false) :
    (c.step web s none).2.clock =
      if task.stage.handlesPages then (c.taken.answered web task).clock else c.clock := by
  rw [step_of_next next limit, perform, isStopped_none, if_neg Bool.false_ne_true, await_none]
  cases task.stage.handlesPages with
  | false => rfl
  | true =>
    have hclock := clock_receive s task (web task.url).body (c.taken.answered web task)
    dsimp only [Bool.not_true, Bool.false_eq_true, if_false, if_true]
    cases hreceive : (c.taken.answered web task).receive s task (web task.url).body with
    | mk result d =>
      rw [hreceive] at hclock
      cases result <;> exact hclock

/-- A turn that is over before the stop goes as if there were none. -/
theorem step_of_lt (hnext : c.HasNext → (c.step web s none).2.clock < stop) :
    c.step web s (some stop) = c.step web s none := by
  cases hqueue : c.frontier.queue with
  | nil => rw [step_of_finished (Or.inl hqueue), step_of_finished (Or.inl hqueue)]
  | cons task rest =>
    cases hlimit : c.limitReached with
    | true => rw [step_of_finished (Or.inr hlimit), step_of_finished (Or.inr hlimit)]
    | false =>
      have hend := hnext (hasNext_of_queue hqueue hlimit)
      rw [clock_step_none hqueue hlimit] at hend
      have hturn := c.frontier.le_turn c.clock
      have hclock : c.clock < stop := by
        split at hend
        · exact Nat.lt_of_le_of_lt (Nat.le_add_right_of_le hturn) hend
        · exact hend
      have hstop : isStopped (some stop) c.taken.clock = false := isStopped_eq_false hclock
      rw [step_of_next hqueue hlimit, step_of_next hqueue hlimit]
      cases hstage : task.stage.handlesPages with
      | false => simp [perform, hstage, hstop, isStopped_none]
      | true =>
        rw [hstage, if_pos rfl] at hend
        simp only [perform, hstage, hstop, isStopped_none, await_of_lt hend, await_none]

/-- A turn that would not be over before the stop is given up. -/
theorem stoppedAfter_step (hnext : c.HasNext) (h : stop ≤ (c.step web s none).2.clock) :
    c.StoppedAfter (c.step web s (some stop)) := by
  obtain ⟨hqueue, hlimit⟩ := hnext
  obtain ⟨task, rest, hqueue⟩ := List.exists_cons_of_ne_nil hqueue
  rw [clock_step_none hqueue hlimit] at h
  rw [step_of_next hqueue hlimit, perform]
  by_cases hclock : stop ≤ c.clock
  · have hstop : isStopped (some stop) c.taken.clock = true := decide_eq_true hclock
    rw [if_pos hstop]
    exact stoppedAfter_abort_taken c
  · have hstop : isStopped (some stop) c.taken.clock = false :=
      isStopped_eq_false (Nat.lt_of_not_le hclock)
    rw [hstop, if_neg Bool.false_ne_true]
    cases hstage : task.stage.handlesPages with
    | false => simp [hstage, hclock] at h
    | true =>
      rw [hstage, if_pos rfl] at h
      have htaken : c.taken.clock < stop := Nat.lt_of_not_le hclock
      obtain ⟨d, hd⟩ := await_of_le htaken h
      simp only [hd, Bool.not_true, Bool.false_eq_true, if_false]
      exact stoppedAfter_abort_of_await hd

/-! ## Runs -/

theorem hasNext_of_step_eq_none {stop : Option Nat} {d : Crawl σ}
    (h : c.step web s stop = (none, d)) : c.HasNext := by
  refine ⟨fun hqueue => ?_, ?_⟩
  · simp [step_of_finished (Or.inl hqueue)] at h
  · cases hlimit : c.limitReached with
    | false => rfl
    | true => simp [step_of_finished (Or.inr hlimit)] at h

/-- **The stop is looked for in each turn.** The turns before the stop go as if there were none, and
the first that would not be over by then is given up. -/
theorem runFor_of_stop (web : Web) (s : Sink σ) (stop turns : Nat) (c : Crawl σ) :
    (c.runFor web s (some stop) turns = c.runFor web s none turns ∧
      ∀ n < turns, ∀ d, c.runFor web s none n = (none, d) → d.HasNext →
        (d.step web s none).2.clock < stop) ∨
    ∃ n < turns, ∃ d, c.runFor web s none n = (none, d) ∧ (n = 0 ∨ d.clock < stop) ∧
      d.HasNext ∧ stop ≤ (d.step web s none).2.clock ∧
      d.StoppedAfter (c.runFor web s (some stop) turns) := by
  induction turns generalizing c with
  | zero => exact Or.inl ⟨rfl, fun n hn => absurd hn n.not_lt_zero⟩
  | succ turns ih =>
    by_cases hlate : c.HasNext ∧ stop ≤ (c.step web s none).2.clock
    · refine Or.inr ⟨0, turns.succ_pos, c, rfl, Or.inl rfl, hlate.1, hlate.2, ?_⟩
      have hstopped := stoppedAfter_step hlate.1 hlate.2
      have hanswer := hstopped.answer
      rw [runFor]
      split
      · next hstep => simp [hstep] at hanswer
      · exact hstopped
    · have hearly : c.HasNext → (c.step web s none).2.clock < stop := fun hnext =>
        Nat.lt_of_not_le fun hle => hlate ⟨hnext, hle⟩
      rw [runFor, runFor, step_of_lt hearly]
      cases hstep : c.step web s none with
      | mk result e =>
        have hclock : result = none → e.clock < stop := by
          rintro rfl
          simpa [hstep] using hearly (hasNext_of_step_eq_none hstep)
        cases result with
        | some result =>
          refine Or.inl ⟨rfl, fun n _ d hd => ?_⟩
          cases n with
          | zero =>
            obtain ⟨-, rfl⟩ := Prod.mk.inj hd
            exact hearly
          | succ n => simp [runFor, hstep] at hd
        | none =>
          obtain ⟨hsame, hall⟩ | ⟨n, hn, d, hd, htime, hrest⟩ := ih e
          · refine Or.inl ⟨hsame, fun n hn d hd => ?_⟩
            cases n with
            | zero =>
              obtain ⟨-, rfl⟩ := Prod.mk.inj hd
              exact hearly
            | succ n =>
              rw [runFor, hstep] at hd
              exact hall n (Nat.lt_of_succ_lt_succ hn) d hd
          · refine Or.inr ⟨n + 1, Nat.succ_lt_succ hn, d, by rw [runFor, hstep]; exact hd,
              Or.inr ?_, hrest⟩
            obtain rfl | htime := htime
            · obtain ⟨-, rfl⟩ := Prod.mk.inj hd
              exact hclock rfl
            · exact htime

/-- **A stop falls between two pages.** Whatever the web and the sink do and whenever the stop
comes, a run to be stopped is the same as the uninterrupted one, and then each of its turns was over
before the stop. Otherwise it ends in the first turn that would not be over by then: the records,
the accepted batches, the sink, the pages seen and the counters are those of the uninterrupted run
before that turn, at a time before the stop unless it is the first turn; at most one more page was
asked for, and the answer counts the records that are not written. -/
theorem run_stopped_between_pages (web : Web) (s : Sink σ) (stop turns : Nat) (c : Crawl σ) :
    let stopped := c.run web s (some stop) turns
    (stopped = c.run web s none turns ∧ (c.stage.isTerminal = true ∨
      ∀ n < turns, ∀ d, c.runFor web s none n = (none, d) → d.HasNext →
        (d.step web s none).2.clock < stop)) ∨
    ∃ n < turns, ∃ d, c.runFor web s none n = (none, d) ∧ (n = 0 ∨ d.clock < stop) ∧
      d.HasNext ∧ stop ≤ (d.step web s none).2.clock ∧ d.StoppedAfter stopped := by
  intro stopped
  cases hstage : c.stage.isTerminal with
  | true =>
    have hover : ∀ stop, c.run web s stop turns = (some (.ok c.tally), c) := fun stop => by
      rw [run, if_pos hstage]
    exact Or.inl ⟨(hover (some stop)).trans (hover none).symm, Or.inl rfl⟩
  | false =>
    have hrun : ∀ stop, c.run web s stop turns = c.runFor web s stop turns := fun stop => by
      rw [run, if_neg (by simp [hstage])]
    simp only [stopped, hrun]
    obtain ⟨hsame, hall⟩ | hcut := runFor_of_stop web s stop turns c
    · exact Or.inl ⟨hsame, Or.inr hall⟩
    · exact Or.inr hcut

end Crawl

end PriceTracker
