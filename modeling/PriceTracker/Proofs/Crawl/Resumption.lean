import PriceTracker.Proofs.Crawl.Answers
import PriceTracker.Proofs.Crawl.Lockstep
import PriceTracker.Proofs.Crawl.Termination
import PriceTracker.Proofs.Delivery.Prices

/-!
# Running again after a refused batch

A run that ends with a refused batch leaves a crawl that is not over, and may be run again.
`Resumed` is what comes of it when that is done until a run answers with a tally.

* `exists_resumed`: with a store that breaks off finitely many writes this comes to an end, as each
  of the runs but the last uses up one of them (`Resumed.length_failures_le`);
* `resumed_writes_handed`: then the tables hold the rows of all records that were handed over. They
  are those of a crawl with a store that breaks off no write if nothing was lost in the sense of
  `Spared`.
-/

namespace PriceTracker

open Storage

/-- The current price is a number. -/
def ProductRecord.Priced (r : ProductRecord) : Prop :=
  r.currentPrice.isNaN = false

theorem Catalog.yields_priced : Catalog.Yields ProductRecord.Priced := by
  intro label page base r hr
  obtain ⟨raw, hraw⟩ := yields_isRead label page base r hr
  exact ProductRecord.isNaN_of_ofRaw hraw

/-! ## Buffers over a store -/

namespace RecordBuffer

variable {day : Date} {fault : Nat → Option Interruption} {store : Store}
  {products : List ProductRow} {prices : List PriceRow} {n : Nat}
  {b b' : RecordBuffer (Calls Store)}

/-- A buffer that is reflected by the tables, with prices that can be kept, after so many calls of
its sink or more. -/
structure Writes (day : Date) (store : Store) (products : List ProductRow)
    (prices : List PriceRow) (n : Nat) (b : RecordBuffer (Calls Store)) : Prop where
  reflects : b.Reflects day store products prices
  priced : ∀ r ∈ b.pending, r.Priced
  count : n ≤ b.sink.count

theorem count_interruptedSink {batch : List ProductRecord} {calls calls' : Calls Store}
    {result : Except WriteFailure Unit}
    (h : (interruptedSink day fault).write batch calls = (result, calls')) :
    calls'.count = calls.count + 1 := by
  obtain ⟨rfl, rfl⟩ := Prod.mk.inj h
  rfl

theorem keeps_writes (day : Date) (fault : Nat → Option Interruption) (store : Store)
    (products : List ProductRow) (prices : List PriceRow) (n : Nat) :
    Keeps (interruptedSink day fault) ProductRecord.Priced (Writes day store products prices n)
    where
  add h hr := by
    refine ⟨h.reflects.add _, ?_, h.count⟩
    intro r hmem
    obtain hmem | hmem := List.mem_append.1 hmem
    · exact h.priced r hmem
    · exact List.mem_singleton.1 hmem ▸ hr
  flush := by
    intro b h
    have hreflects : (b.flush (interruptedSink day fault)).2.Reflects day store products prices :=
      h.reflects.flush
    generalize hf : b.flush (interruptedSink day fault) = result at hreflects ⊢
    cases flush_outcome hf with
    | idle => exact h
    | refused _ write =>
      exact ⟨hreflects, h.priced, h.count.trans (count_interruptedSink write ▸ Nat.le_succ _)⟩
    | accepted _ write =>
      exact ⟨hreflects, by simp, h.count.trans (count_interruptedSink write ▸ Nat.le_succ _)⟩

/-- A batch is refused only if its write breaks off. -/
theorem Writes.of_refused (h : b.Writes day store products prices n) {failure : WriteFailure}
    (hflush : b.flush (interruptedSink day fault) = (.error failure, b')) :
    fault b.sink.count ≠ none ∧ b'.sink.count = b.sink.count + 1 := by
  cases flush_outcome hflush with
  | refused _ write =>
    refine ⟨fun hnone => ?_, count_interruptedSink write⟩
    obtain ⟨_, _, _, _, hholds⟩ := h.reflects.tables
    obtain ⟨rows, hrows⟩ := exists_mapM_priceRow? h.priced day
    have hok := Store.attempt_none_of_some hholds hrows
    have hattempt := (interruptedSink_write write).1
    rw [hnone] at hattempt
    simp [hattempt] at hok

theorem takes_writes (day : Date) (store : Store) (products : List ProductRow)
    (prices : List PriceRow) (n : Nat) :
    Takes (interruptedSink day fun _ => none) ProductRecord.Priced
      (Writes day store products prices n) where
  toKeeps := keeps_writes day _ store products prices n
  accepts := by
    intro b h
    cases hflush : b.flush (interruptedSink day fun _ => none) with
    | mk result b' =>
      cases result with
      | ok n => exact ⟨n, rfl⟩
      | error => exact absurd rfl (h.of_refused hflush).1

theorem writes_empty (tables : store.Holds products prices) (threshold : Nat) :
    (empty ({ state := store } : Calls Store) threshold).Writes day store products prices 0 where
  reflects := reflects_empty tables threshold
  priced _ hr := absurd hr List.not_mem_nil
  count := Nat.zero_le _

end RecordBuffer

namespace Crawl

open RecordBuffer

/-! ## Runs without a stop -/

section

variable {σ : Type} {web : Web} {s : Sink σ} {c d : Crawl σ}

theorem step_not_aborted (web : Web) (s : Sink σ) (c : Crawl σ) (pending : Nat) :
    (c.step web s none).1 ≠ some (.error (.aborted pending)) := by
  generalize hv : c.visit? web s none = visit
  generalize hstep : c.step web s none = result
  cases turn_of_step hv hstep with
  | finished =>
    generalize hf : c.finish s = ended
    cases finish_outcome hf <;> simp
  | stopped _ _ h => simp [isStopped] at h
  | interrupted _ _ _ await => simp [await_none] at await
  | skipped => simp
  | visited => simp
  | failed => simp

theorem runFor_not_aborted (web : Web) (s : Sink σ) (turns : Nat) (c : Crawl σ) (pending : Nat) :
    (c.runFor web s none turns).1 ≠ some (.error (.aborted pending)) := by
  intro h
  obtain ⟨-, -, d, -, -, hlast⟩ := exists_last_turn (Prod.ext h rfl)
  exact step_not_aborted web s d pending (congrArg Prod.fst hlast)

theorem Going.visitsIn_eq (h : c.Going) (web : Web) (s : Sink σ) (stop : Option Nat)
    (turns : Nat) : c.visitsIn s (.run web stop turns) = c.visits web s stop turns := by
  rw [visitsIn, if_neg (by simp [h.stage])]

/-- A run that ends does so in one way. -/
theorem runFor_unique {stop : Option Nat} {m n : Nat} {x y : Except RunFailure Tally}
    {d e : Crawl σ} (h₁ : c.runFor web s stop m = (some x, d))
    (h₂ : c.runFor web s stop n = (some y, e)) : x = y ∧ d = e := by
  have hm := runFor_add_of_ended n h₁
  have hn := runFor_add_of_ended m h₂
  rw [Nat.add_comm, hn] at hm
  obtain ⟨hxy, rfl⟩ := Prod.mk.inj hm
  exact ⟨(Option.some.inj hxy).symm, rfl⟩

/-! ## Runs in a row -/

/-- A crawl is run, and run again as long as a batch is refused, until a run answers with a tally:
the refusals, the pages that are visited on the way and what is left. -/
inductive Resumed (web : Web) (s : Sink σ) (turns : Nat) :
    Crawl σ → List WriteFailure → List Visit → Tally → Crawl σ → Prop where
  | written {c d : Crawl σ} {tally : Tally} (run : c.run web s none turns = (some (.ok tally), d)) :
      Resumed web s turns c [] (c.visitsIn s (.run web none turns)) tally d
  | again {c d e : Crawl σ} {failure : WriteFailure} {failures : List WriteFailure}
      {visits : List Visit} {tally : Tally}
      (run : c.run web s none turns = (some (.error (.write failure)), d))
      (rest : Resumed web s turns d failures visits tally e) :
      Resumed web s turns c (failure :: failures) (c.visitsIn s (.run web none turns) ++ visits)
        tally e

namespace Resumed

variable {log : σ → List (List ProductRecord)} {kind : ProductRecord → Prop}
  {P : RecordBuffer σ → Prop} {turns : Nat} {failures : List WriteFailure} {vs : List Visit}
  {tally : Tally}

/-- Running again is a course of actions. -/
theorem exists_actions (h : Resumed web s turns c failures vs tally d) :
    ∃ actions, c.actAll s actions = d ∧ c.history s actions = vs := by
  induction h with
  | @written c d _ run =>
    have hact : c.act s (.run web none turns) = d := congrArg Prod.snd run
    exact ⟨[.run web none turns], hact, List.append_nil _⟩
  | @again c d e _ _ _ _ run _ ih =>
    obtain ⟨actions, hactions, hhistory⟩ := ih
    have hact : c.act s (.run web none turns) = d := congrArg Prod.snd run
    refine ⟨.run web none turns :: actions, ?_, ?_⟩
    · rw [actAll, List.foldl_cons, hact]
      exact hactions
    · rw [history, hact, hhistory]

theorem delivers (h : Resumed web s turns c failures vs tally d) (logs : s.Logs log) :
    Delivers log c vs d := by
  obtain ⟨actions, rfl, rfl⟩ := h.exists_actions
  exact delivers_actAll logs c actions

theorem keeps (h : Resumed web s turns c failures vs tally d) (keeps : Keeps s kind P)
    (yields : Catalog.Yields kind) (hP : P c.buffer) : P d.buffer := by
  obtain ⟨actions, rfl, -⟩ := h.exists_actions
  exact keeps.actAll yields hP actions

/-- Nothing is pending in the end, as the last run answered with a tally. -/
theorem pending_eq_nil (h : Resumed web s turns c failures vs tally d) (going : c.Going) :
    d.buffer.pending = [] := by
  induction h with
  | @written c d _ run =>
    have hleaves := leaves_run going web s none turns
    rw [run] at hleaves
    cases hleaves with
    | written _ pending => exact pending
  | again run _ ih => exact ih (going.of_refused run)

/-- If nothing is lost, a crawl whose batches are all accepted ends with the same records. -/
theorem keepsUp (h : Resumed web s turns c failures vs tally d) (going : c.Going) {s' : Sink σ}
    (hs : s.Logs log) (hs' : s'.Logs log) (takes : Takes s' kind P) (yields : Catalog.Yields kind)
    {i : Crawl σ} (hi : InStep log c i) (hP : P i.buffer)
    (spared : Spared c.label c.frontier.seen vs) :
    KeepsUp web s' log i (some (.ok tally), d) := by
  induction h generalizing i with
  | @written c d _ run =>
    rw [going.run_eq] at run
    rw [going.visitsIn_eq, ← List.append_nil (visits web s none turns c)] at spared
    exact run ▸ (keepsUp_runFor hs hs' takes yields hi hP spared).1
  | again run _ ih =>
    have hgoing := going.of_refused run
    rw [going.run_eq] at run
    rw [going.visitsIn_eq] at spared
    obtain ⟨hkeeps, hspared⟩ := keepsUp_runFor hs hs' takes yields hi hP spared
    rw [run] at hkeeps hspared
    cases hkeeps with
    | halted _ _ hrun hstep =>
      exact (ih hgoing hstep (takes.of_runFor yields hP hrun) hspared).of_runFor hrun

end Resumed

end

/-! ## Stores that break off finitely many writes -/

variable {day : Date} {fault : Nat → Option Interruption} {calls turns : Nat} {store : Store}
  {products : List ProductRow} {prices : List PriceRow} {web : Web} {P : CrawlTask → Prop}
  {keys : Finset String}

/-- How many of the first calls break off. -/
def brokenOff (fault : Nat → Option Interruption) (calls : Nat) : Nat :=
  (List.range calls).countP fun n => (fault n).isSome

theorem brokenOff_succ (fault : Nat → Option Interruption) (n : Nat) :
    brokenOff fault (n + 1) = brokenOff fault n + if (fault n).isSome then 1 else 0 := by
  rw [brokenOff, List.range_succ, List.countP_append, List.countP_singleton, brokenOff]

theorem brokenOff_mono {m n : Nat} (h : m ≤ n) : brokenOff fault m ≤ brokenOff fault n :=
  (List.range_sublist.2 h).countP_le

/-- No more calls break off than there are before the last one that does. -/
theorem brokenOff_le (recovers : ∀ n, calls ≤ n → fault n = none) (n : Nat) :
    brokenOff fault n ≤ calls := by
  induction n with
  | zero => exact Nat.zero_le calls
  | succ n ih =>
    cases h : fault n with
    | none => simpa [brokenOff_succ, h] using ih
    | some interruption =>
      have hlt : n < calls := Nat.lt_of_not_le fun hle => by simp [recovers n hle] at h
      calc brokenOff fault (n + 1) ≤ (List.range (n + 1)).length := List.countP_le_length
        _ = n + 1 := List.length_range
        _ ≤ calls := hlt

/-- A run that is refused a batch has made a call that breaks off. -/
theorem brokenOff_of_refused {c d : Crawl (Calls Store)} {failure : WriteFailure}
    (writes : c.buffer.Writes day store products prices 0)
    (hrun : c.runFor web (interruptedSink day fault) none turns =
      (some (.error (.write failure)), d)) :
    ∃ n, c.buffer.sink.count ≤ n ∧ fault n ≠ none ∧ d.buffer.sink.count = n + 1 := by
  obtain ⟨b, hb, hflush⟩ :=
    (keeps_writes day fault store products prices c.buffer.sink.count).refused_of_runFor
      Catalog.yields_priced ⟨writes.reflects, writes.priced, le_rfl⟩ hrun
  obtain ⟨hfault, hcount⟩ := hb.of_refused hflush
  exact ⟨_, hb.count, hfault, hcount⟩

/-- **There are no more refusals than calls that break off**, of those that are made meanwhile. -/
theorem Resumed.length_failures_le {c d : Crawl (Calls Store)} {failures : List WriteFailure}
    {visits : List Visit} {tally : Tally}
    (h : Resumed web (interruptedSink day fault) turns c failures visits tally d) (going : c.Going)
    (writes : c.buffer.Writes day store products prices 0) :
    brokenOff fault c.buffer.sink.count + failures.length ≤
      brokenOff fault d.buffer.sink.count := by
  induction h with
  | @written c d _ run =>
    have hkeeps := keeps_writes day fault store products prices c.buffer.sink.count
    have hd := hkeeps.act Catalog.yields_priced ⟨writes.reflects, writes.priced, le_rfl⟩
      (.run web none turns)
    have hcount : c.buffer.sink.count ≤ d.buffer.sink.count := by
      simpa [act, run] using hd.count
    simpa using brokenOff_mono hcount
  | @again c d e _ failures _ _ run _ ih =>
    have hgoing := going.of_refused run
    rw [going.run_eq] at run
    obtain ⟨n, hn, hfault, hcount⟩ := brokenOff_of_refused writes run
    have hwrites := (keeps_writes day fault store products prices 0).of_runFor
      Catalog.yields_priced writes run
    have hrest := ih hgoing hwrites
    rw [hcount, brokenOff_succ, if_pos (Option.isSome_iff_ne_none.2 hfault)] at hrest
    have hmono : brokenOff fault c.buffer.sink.count ≤ brokenOff fault n := brokenOff_mono hn
    rw [List.length_cons]
    omega

/-- **Running again comes to an end.** Each run ends, and a run that is refused a batch uses up one
of the writes that break off. -/
theorem exists_resumed (recovers : ∀ n, calls ≤ n → fault n = none) (closed : Closed web P keys)
    {c : Crawl (Calls Store)} (going : c.Going) (queue : ∀ task ∈ c.frontier.queue, P task)
    (enough : c.frontier.potential keys < turns)
    (writes : c.buffer.Writes day store products prices 0) :
    ∃ failures visits tally d,
      Resumed web (interruptedSink day fault) turns c failures visits tally d := by
  induction hleft : calls - c.buffer.sink.count using Nat.strong_induction_on generalizing c with
  | _ left ih =>
    obtain ⟨result, d, hrun, hspends⟩ :=
      runFor_of_closed closed (interruptedSink day fault) none queue enough
    have hleaves := leaves_runFor going web (interruptedSink day fault) none turns
    rw [hrun] at hleaves
    cases hleaves with
    | written =>
      exact ⟨[], _, d.tally, d, .written ((going.run_eq ..).trans hrun)⟩
    | stopped =>
      have hnot := runFor_not_aborted web (interruptedSink day fault) turns c
        d.buffer.pending.length
      rw [hrun] at hnot
      exact absurd rfl hnot
    | refused failure hgoing =>
      -- The write that broke off is behind the crawl now, so fewer are left.
      obtain ⟨n, hn, hfault, hcount⟩ := brokenOff_of_refused writes hrun
      have hcalls : n < calls := Nat.lt_of_not_le fun hle => hfault (recovers n hle)
      have hwrites : d.buffer.Writes day store products prices 0 :=
        (keeps_writes day fault store products prices 0).of_runFor Catalog.yields_priced writes hrun
      obtain ⟨failures, visits, tally, e, hresumed⟩ := ih _ (by omega) hgoing
        hspends.queue (hspends.potential.trans_lt enough) hwrites rfl
      exact ⟨failure :: failures, _, tally, e, .again ((going.run_eq ..).trans hrun) hresumed⟩

/-- **A crawl that is run again after each refused batch writes all records that it was given.** The
links of the site lead to finitely many pages, as they do if it has finitely many pages, and
finitely many writes break off. Whatever is queued and however large the batches are, running again
comes to an end with nothing pending, after at most as many refusals as calls were made that break
off. The tables then hold the rows that they had and the first row of each new key among the records
that the visits handed over: all records of the page, or the first of them if a batch was refused.
If no refusal cost a record or a link to a page not known by then, the tables are those of a single
run in which no write breaks off. -/
theorem resumed_writes_handed (day : Date) {fault : Nat → Option Interruption} {calls : Nat}
    (recovers : ∀ n, calls ≤ n → fault n = none) {store : Store} {products : List ProductRow}
    {prices : List PriceRow} (tables : store.Holds products prices) {web : Web}
    {keys : Finset String}
    (finite : ∀ url, ∀ link ∈ Site.linksOf url (web url), link.pageKey ∈ keys) (label : String)
    (maxPages : Option Nat) (frontier : Frontier) (batchSize : Nat) :
    let s := interruptedSink day fault
    let ideal := interruptedSink day fun _ => none
    let start : Crawl (Calls Store) := fresh label maxPages frontier { state := store } batchSize
    ∃ turns failures visits tally d, Resumed web s turns start failures visits tally d ∧
      failures.length ≤ brokenOff fault d.buffer.sink.count ∧
      brokenOff fault d.buffer.sink.count ≤ calls ∧ d.buffer.pending = [] ∧
      (∀ v ∈ visits, v.blocks <+: v.task.blocks label v.body ∧
        (v.outcome = .ok () → v.blocks = v.task.blocks label v.body)) ∧
      let handed := visits.flatMap Visit.handed
      ∃ rows, handed.mapM (ProductRecord.priceRow? day) = some rows ∧
        let products' := products ++ newRows ProductRow.key products
          (handed.map ProductRow.ofRecord)
        let prices' := prices ++ newRows PriceRow.key prices rows
        d.buffer.sink.state.Holds products' prices' ∧
          (Spared label frontier.seen visits →
            ∃ tally' e, start.run web ideal none turns = (some (.ok tally'), e) ∧
              e.buffer.sink.state.Holds products' prices') := by
  intro s ideal start
  have closed := closed_of_keys finite
  have going : start.Going := ⟨rfl, rfl, rfl⟩
  have writes : start.buffer.Writes day store products prices 0 := writes_empty tables batchSize
  have enough := Nat.lt_succ_self (frontier.potential keys)
  obtain ⟨failures, visits, tally, d, resumed⟩ :=
    exists_resumed recovers closed going (fun _ _ => trivial) enough writes
  have hlength := resumed.length_failures_le going writes
  have hzero : brokenOff fault start.buffer.sink.count = 0 := rfl
  rw [hzero, Nat.zero_add] at hlength
  have hdelivers := resumed.delivers (logs_interruptedSink day fault)
  have hpending := resumed.pending_eq_nil going
  have hd : d.buffer.Writes day store products prices 0 :=
    resumed.keeps (keeps_writes day fault store products prices 0) Catalog.yields_priced writes
  obtain ⟨rows, hrows, hholds⟩ := hd.reflects.holds_of_pending_nil hdelivers.ledger hpending
  refine ⟨_, failures, visits, tally, d, resumed, hlength, brokenOff_le recovers _, hpending,
    fun v hv => ⟨hdelivers.blocks v hv, hdelivers.complete v hv⟩, rows, hrows, hholds, ?_⟩
  intro spared
  have takes := takes_writes day store products prices 0
  have hkeeps := resumed.keepsUp going (logs_interruptedSink day fault)
    (logs_interruptedSink day fun _ => none) takes Catalog.yields_priced
    (i := start) ⟨rfl, rfl, rfl, rfl, rfl, rfl⟩ writes spared
  cases hkeeps with
  | @ended _ _ _ _ tally' hrun hledger hnone =>
    obtain ⟨result, e, hideal, -⟩ :=
      runFor_of_closed closed ideal none (c := start) (fun _ _ => trivial) enough
    obtain ⟨rfl, rfl⟩ := runFor_unique hideal hrun
    -- Both crawls were given the same records, and nothing of them is pending.
    have he := takes.of_runFor Catalog.yields_priced writes hrun
    obtain ⟨rows', hrows', hholds'⟩ :=
      he.reflects.holds_of_pending_nil (hledger.trans hdelivers.ledger) hnone
    obtain rfl : rows = rows' := Option.some.inj (hrows.symm.trans hrows')
    exact ⟨tally', e, (going.run_eq ..).trans hideal, hholds'⟩

/-- A page with a bell links to no page, and so to the given ones only. -/
theorem bell_links (keys : Finset String) (delay : Nat) (url : Url) :
    ∀ link ∈ Site.linksOf url { body := .ok (shelf [("1", "Bell")]), delay },
      link.pageKey ∈ keys := by
  have hlinks : (Html.parse (shelf [("1", "Bell")])).select Catalog.categoryLink = [] ∧
      (Html.parse (shelf [("1", "Bell")])).select Catalog.paginationLink = [] := by
    decide +kernel
  simp [Site.linksOf, Catalog.categories, Catalog.categoriesOf, Catalog.listing,
    Catalog.listingOf, Catalog.links, hlinks]

/-- Two pages with a bell each, and batches of one record. The first write breaks off. -/
theorem bells_written_when_resumed :
    let a : Url := { scheme := "http", host := some (.name "a"), path := .segments [""] }
    let b : Url := { a with path := .segments ["b"] }
    let web : Web := fun _ => { body := .ok (shelf [("1", "Bell")]) }
    let day : Date := ⟨2026, 10, 16, by decide⟩
    let fault (n : Nat) : Option Interruption := [.before .crashed][n]?
    let frontier := Frontier.pushAll {} [⟨a, .productExtraction⟩, ⟨b, .productExtraction⟩]
    let s := interruptedSink day fault
    let ideal := interruptedSink day fun _ => none
    let start : Crawl (Calls Store) := fresh "Skladem" none frontier { state := .blank } 1
    (∀ n, 1 ≤ n → fault n = none) ∧ Store.blank.Holds [] [] ∧
    (∀ url, ∀ link ∈ Site.linksOf url (web url), link.pageKey ∈ (∅ : Finset String)) ∧
    ∃ turns failures visits tally d, Resumed web s turns start failures visits tally d ∧
      failures.length ≤ brokenOff fault d.buffer.sink.count ∧
      brokenOff fault d.buffer.sink.count ≤ 1 ∧ d.buffer.pending = [] ∧
      (∀ v ∈ visits, v.blocks <+: v.task.blocks "Skladem" v.body ∧
        (v.outcome = .ok () → v.blocks = v.task.blocks "Skladem" v.body)) ∧
      let handed := visits.flatMap Visit.handed
      ∃ rows, handed.mapM (ProductRecord.priceRow? day) = some rows ∧
        let products' := [] ++ newRows ProductRow.key [] (handed.map ProductRow.ofRecord)
        let prices' := [] ++ newRows PriceRow.key [] rows
        d.buffer.sink.state.Holds products' prices' ∧
          (Spared "Skladem" frontier.seen visits →
            ∃ tally' e, start.run web ideal none turns = (some (.ok tally'), e) ∧
              e.buffer.sink.state.Holds products' prices') := by
  intro a b web day fault frontier s ideal start
  have recovers : ∀ n, 1 ≤ n → fault n = none := by
    intro n hn
    exact List.getElem?_eq_none hn
  have finite := bell_links ∅ 0
  exact ⟨recovers, Store.holds_blank, finite,
    resumed_writes_handed day recovers Store.holds_blank finite "Skladem" none frontier 1⟩

/-- A page with a bell and a lamp, and batches of one record. The first write breaks off, and the
lamp is not looked at when the crawl is run again. -/
theorem lamp_lost_when_resumed :
    let a : Url := { scheme := "http", host := some (.name "a"), path := .segments [""] }
    let web : Web := fun _ => { body := .ok (shelf [("1", "Bell"), ("2", "Lamp")]) }
    let day : Date := ⟨2026, 10, 16, by decide⟩
    let refusal : WriteFailure := .refused ⟨"products", .missingTable "products"⟩
    let s := interruptedSink day fun n => [.before refusal][n]?
    let start : Crawl (Calls Store) :=
      (fresh "Skladem" none {} { state := .blank } 1).seedCategories [a]
    let halted := start.run web s none 2
    let again := halted.2.run web s none 2
    let ideal := start.run web (interruptedSink day fun _ => none) none 2
    let pids (c : Crawl (Calls Store)) : Option (List String) :=
      (c.buffer.sink.state.database.productRows? "products").map (·.map ProductRow.pid)
    halted.1 = some (.error (.write refusal)) ∧
      again.1.map Except.isOk = some true ∧ pids again.2 = some ["1"] ∧
      ideal.1.map Except.isOk = some true ∧ pids ideal.2 = some ["1", "2"] := by
  intro a web day refusal s start halted again ideal pids
  decide +kernel

end Crawl

end PriceTracker
