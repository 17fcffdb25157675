import PriceTracker.Proofs.Crawl.History

/-!
# What becomes of the buffer of a crawl

A crawl changes its buffer by appends of records that it read on listing pages and by flushes only.
So it keeps what these keep (`RecordBuffer.Keeps.act`), and when a batch is not accepted, that
happened to a buffer of the same kind (`RecordBuffer.Keeps.refused_of_runFor`).
-/

namespace PriceTracker

/-- The records of all listing pages are of some kind. -/
def Catalog.Yields (kind : ProductRecord → Prop) : Prop :=
  ∀ label page base, ∀ r ∈ recordsOf (listing label page base).products, kind r

/-- The records of a listing page are read off its product blocks. -/
theorem Catalog.exists_of_mem_listing {label page : String} {base : Url} {r : ProductRecord}
    (h : r ∈ recordsOf (listing label page base).products) :
    ∃ block, ProductRecord.ofRaw (rawProduct label (Html.parse page) base block) = .ok r := by
  obtain ⟨block, hblock, hr⟩ := List.mem_filterMap.1 h
  cases block with
  | error e => simp [Except.toOption] at hr
  | ok r' =>
    obtain rfl := Option.some.inj hr
    obtain ⟨id, -, hid⟩ := List.mem_map.1 hblock
    exact ⟨id, hid⟩

/-- Only listing pages have records. -/
theorem CrawlTask.exists_of_mem_blocks {label : String} {task : CrawlTask}
    {body : Except FetchError String} {r : ProductRecord}
    (h : r ∈ recordsOf (task.blocks label body)) :
    ∃ page, r ∈ recordsOf (Catalog.listing label page task.url).products := by
  cases body with
  | error e => exact absurd h List.not_mem_nil
  | ok page =>
    by_cases hroot : task.stage = .categoryDiscovery
    · rw [blocks_root hroot] at h
      exact absurd h List.not_mem_nil
    · rw [blocks_listing hroot] at h
      exact ⟨page, h⟩

theorem Catalog.Yields.of_mem_blocks {kind : ProductRecord → Prop} (yields : Yields kind)
    {label : String} {task : CrawlTask} {body : Except FetchError String} :
    ∀ r ∈ recordsOf (task.blocks label body), kind r := by
  intro r hr
  obtain ⟨page, hpage⟩ := CrawlTask.exists_of_mem_blocks hr
  exact yields _ _ _ r hpage

/-- The record was read off a product block. -/
def ProductRecord.IsRead (r : ProductRecord) : Prop :=
  ∃ raw, ProductRecord.ofRaw raw = .ok r

theorem Catalog.yields_isRead : Catalog.Yields ProductRecord.IsRead := by
  intro label page base r hr
  obtain ⟨block, hblock⟩ := exists_of_mem_listing hr
  exact ⟨_, hblock⟩

namespace RecordBuffer.Keeps

open Crawl

variable {σ : Type} {s : Sink σ} {kind : ProductRecord → Prop} {P : RecordBuffer σ → Prop}
  {web : Web} {stop : Option Nat} {c d : Crawl σ} {failure : WriteFailure}

/-! ## The property stays -/

/-- It is enough that the records of the page itself are of the kind. -/
theorem receive_of_blocks (keeps : Keeps s kind P) (h : P c.buffer) {task : CrawlTask}
    {body : Except FetchError String} (hkind : ∀ r ∈ recordsOf (task.blocks c.label body), kind r) :
    P (c.receive s task body).2.buffer := by
  have hconsumed : recordsOf (c.consumed s task body) <+: recordsOf (task.blocks c.label body) :=
    (Crawl.consumed_prefix s task body c).filterMap Except.toOption
  rw [buffer_receive]
  exact keeps.after h fun r hr => hkind r (hconsumed.subset hr)

theorem receive (keeps : Keeps s kind P) (yields : Catalog.Yields kind) (h : P c.buffer)
    (task : CrawlTask) (body : Except FetchError String) : P (c.receive s task body).2.buffer :=
  keeps.receive_of_blocks h yields.of_mem_blocks

theorem finish (keeps : Keeps s kind P) (h : P c.buffer) : P (c.finish s).2.buffer := by
  have hflush := keeps.flush h
  generalize hf : c.finish s = result
  cases finish_outcome hf with
  | refused hb => rwa [hb] at hflush
  | written hb => rwa [hb] at hflush

theorem step (keeps : Keeps s kind P) (yields : Catalog.Yields kind) (h : P c.buffer) (web : Web)
    (stop : Option Nat) : P (c.step web s stop).2.buffer := by
  generalize hv : c.visit? web s stop = visit
  generalize hstep : c.step web s stop = result
  cases turn_of_step hv hstep with
  | finished => exact keeps.finish h
  | stopped => exact h
  | skipped => exact h
  | interrupted _ _ _ await =>
    obtain hd | hd := await_eq_none await <;> rw [hd] <;> exact h
  | @visited task _ _ _ _ _ receive =>
    have hbuffer := keeps.receive yields (c := c.taken.answered web task) h task (web task.url).body
    rwa [receive] at hbuffer
  | @failed task _ _ _ _ _ _ receive =>
    have hbuffer := keeps.receive yields (c := c.taken.answered web task) h task (web task.url).body
    rwa [receive] at hbuffer

theorem runFor (keeps : Keeps s kind P) (yields : Catalog.Yields kind) (h : P c.buffer) (web : Web)
    (stop : Option Nat) (turns : Nat) : P (c.runFor web s stop turns).2.buffer :=
  runFor_keeps (I := fun c => P c.buffer) (fun _ h => keeps.step yields h web stop) h turns

theorem of_runFor (keeps : Keeps s kind P) (yields : Catalog.Yields kind) (h : P c.buffer)
    {turns : Nat} {result : Option (Except RunFailure Tally)}
    (hrun : c.runFor web s stop turns = (result, d)) : P d.buffer := by
  have hkept := keeps.runFor yields h web stop turns
  rwa [hrun] at hkept

theorem act (keeps : Keeps s kind P) (yields : Catalog.Yields kind) (h : P c.buffer)
    (action : Action) : P (c.act s action).buffer :=
  act_keeps (I := fun c => P c.buffer) (fun _ _ h => h) (fun _ h => keeps.flush h)
    (fun web stop _ h => keeps.step yields h web stop) h action

theorem actAll (keeps : Keeps s kind P) (yields : Catalog.Yields kind) (h : P c.buffer)
    (actions : List Action) : P (c.actAll s actions).buffer :=
  actAll_keeps (I := fun c => P c.buffer) (fun _ _ h => h) (fun _ h => keeps.flush h)
    (fun web stop _ h => keeps.step yields h web stop) h actions

/-! ## Batches that are not accepted -/

theorem refused_of_collect (keeps : Keeps s kind P) (h : P c.buffer)
    {blocks : List (Except ExtractionError ProductRecord)}
    (hblocks : ∀ r ∈ recordsOf blocks, kind r)
    (hcollect : c.collect s blocks = (.error failure, d)) :
    ∃ b, P b ∧ b.flush s = (.error failure, d.buffer) := by
  induction blocks generalizing c with
  | nil => simp [collect] at hcollect
  | cons block blocks ih =>
    cases block with
    | error e =>
      rw [collect] at hcollect
      exact ih (by exact h) hblocks hcollect
    | ok r =>
      rw [recordsOf_ok_cons, List.forall_mem_cons] at hblocks
      rw [collect] at hcollect
      cases happend : c.buffer.append s r with
      | mk result b =>
        simp only [happend] at hcollect
        cases result with
        | ok due =>
          have hb : P b := by
            have hkept := keeps.append h hblocks.1
            rwa [happend] at hkept
          exact ih hb hblocks.2 hcollect
        | error failure' =>
          obtain ⟨hfailure, rfl⟩ := Prod.mk.inj hcollect
          obtain rfl := Except.error.inj hfailure
          exact keeps.refused_of_append h hblocks.1 happend

theorem refused_of_receive (keeps : Keeps s kind P) (yields : Catalog.Yields kind)
    (h : P c.buffer) {task : CrawlTask} {body : Except FetchError String}
    (hreceive : c.receive s task body = (.error failure, d)) :
    ∃ b, P b ∧ b.flush s = (.error failure, d.buffer) := by
  cases body with
  | error e => simp [Crawl.receive] at hreceive
  | ok page =>
    by_cases hroot : task.stage = .categoryDiscovery
    · simp [Crawl.receive, read_root s hroot] at hreceive
    · rw [Crawl.receive, read_listing s hroot] at hreceive
      have hblocks := yields c.label page task.url
      generalize Catalog.listing c.label page task.url = listing at hreceive hblocks
      cases hcollect : c.countPage.collect s listing.products with
      | mk result e =>
        rw [hcollect] at hreceive
        cases result with
        | ok => simp at hreceive
        | error failure' =>
          obtain ⟨hfailure, rfl⟩ := Prod.mk.inj hreceive
          obtain rfl := Except.error.inj hfailure
          exact keeps.refused_of_collect (c := c.countPage) h hblocks hcollect

theorem refused_of_step (keeps : Keeps s kind P) (yields : Catalog.Yields kind) (h : P c.buffer)
    (hstep : c.step web s stop = (some (.error (.write failure)), d)) :
    ∃ b, P b ∧ b.flush s = (.error failure, d.buffer) := by
  generalize hv : c.visit? web s stop = visit
  generalize hresult : c.step web s stop = result at hstep
  cases turn_of_step hv hresult with
  | finished =>
    generalize hf : c.finish s = ended at hstep
    cases finish_outcome hf with
    | written => simp at hstep
    | refused hflush =>
      simp only [Prod.mk.injEq, Option.some.injEq, Except.error.injEq, RunFailure.write.injEq]
        at hstep
      obtain ⟨rfl, rfl⟩ := hstep
      exact ⟨c.buffer, h, hflush⟩
  | stopped => simp [abort] at hstep
  | skipped => simp at hstep
  | interrupted => simp [abort] at hstep
  | visited => simp at hstep
  | @failed task _ _ _ _ _ _ receive =>
    simp only [Prod.mk.injEq, Option.some.injEq, Except.error.injEq, RunFailure.write.injEq]
        at hstep
    obtain ⟨rfl, rfl⟩ := hstep
    exact keeps.refused_of_receive yields (c := c.taken.answered web task) h receive

theorem refused_of_runFor (keeps : Keeps s kind P) (yields : Catalog.Yields kind) (h : P c.buffer)
    {turns : Nat} (hrun : c.runFor web s stop turns = (some (.error (.write failure)), d)) :
    ∃ b, P b ∧ b.flush s = (.error failure, d.buffer) := by
  obtain ⟨n, -, e, -, he, hlast⟩ := exists_last_turn hrun
  exact keeps.refused_of_step yields (keeps.of_runFor yields h he) hlast

end RecordBuffer.Keeps

end PriceTracker
