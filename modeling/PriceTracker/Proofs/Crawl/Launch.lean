import PriceTracker.Crawl.Start
import PriceTracker.Proofs.Crawl.Failures
import PriceTracker.Proofs.Delivery.Journal

/-!
# What a crawl comes to

A crawl that is asked for may fail before it starts or while it runs, and the answer tells which. An
answer other than a failed batch or a stop comes from the start, which asks for no page and writes
nothing; a run fails for these two reasons only.

* `outcome` is the answer of a crawl with the requests that it sent and the database that it leaves;
  `fill_eq_outcome` says that a crawl of a site is a case of it;
* `outcome_cases`: the answer is one of the start, or one of a run;
* `start_of_missing`: a missing table stops the start before anything else is looked at;
* `only_runs_have_effects`: the failures without effects, and those with.
-/

namespace PriceTracker.Crawl

open Storage

/-- What a crawl comes to. -/
structure Outcome where
  /-- `none` if the crawl has not ended by then. -/
  answer : Option (Except CrawlFailure Tally)
  /-- The requests that were sent, and their times, in order. -/
  requests : List (Url × Nat) := []
  /-- The database afterwards, if there is one. -/
  database : Except DatabaseFault Database

/-- Crawls the web for at most so many turns, to be stopped at a time if one is given. The plan says
on which day each batch is written and where that breaks off. -/
def outcome (settings : Settings) (categories : List Url) (web : Web)
    (plan : Nat → Date × Option Interruption) (stop : Option Nat) (turns : Nat)
    (database : Except DatabaseFault Database) : Outcome :=
  match start settings categories database with
  | .error failure => { answer := some (.error failure), database }
  | .ok crawl =>
    let (result, crawl) :=
      (crawl.through fun store => { store : Journal }).run web (journalSink plan) stop turns
    { answer := result.map (·.mapError .run)
      requests := crawl.requests
      database := .ok crawl.buffer.sink.store.database }

variable {settings : Settings} {categories : List Url} {database : Except DatabaseFault Database}
  {web : Web} {plan : Nat → Date × Option Interruption} {stop : Option Nat} {turns : Nat}

/-- A crawl of a site takes as many turns as it needs, and writes all batches on one day. -/
theorem fill_eq_outcome (settings : Settings) (categories : List Url) (site : Site) (day : Date)
    (stop : Option Nat) (database : Except DatabaseFault Database) :
    ∃ turns,
      let o := outcome settings categories site.reply (fun _ => (day, none)) stop turns database
      fill settings categories site day stop database = (o.answer, o.database) := by
  cases hstart : start settings categories database with
  | error failure =>
    refine ⟨0, ?_⟩
    rw [fill_of_start_eq_error hstart]
    simp only [outcome, hstart]
  | ok crawl =>
    refine ⟨crawl.turnsOn site, ?_⟩
    have hview : (crawl.through fun store => { store : Journal }).through Journal.store = crawl :=
      rfl
    have hrun := run_through (shows_journalSink day) site.reply stop (crawl.turnsOn site)
      (crawl.through fun store => { store : Journal })
    rw [hview] at hrun
    simp only [fill, outcome, hstart, runOn, hrun]
    rfl

/-! ## The start -/

/-- A computation of two parts fails in the first part or in the second. -/
theorem error_of_bind {ε α β : Type} {x : Except ε α} {f : α → Except ε β} {e : ε}
    (h : x >>= f = .error e) : x = .error e ∨ ∃ a, x = .ok a ∧ f a = .error e := by
  cases x with
  | error e' =>
    obtain rfl := Except.error.inj h
    exact Or.inl rfl
  | ok a => exact Or.inr ⟨a, rfl, h⟩

theorem exists_of_mapError_eq_error {ε ε' α : Type} {f : ε → ε'} {x : Except ε α} {e : ε'}
    (h : x.mapError f = .error e) : ∃ cause, f cause = e := by
  cases x with
  | error cause => exact ⟨cause, Except.error.inj h⟩
  | ok a => cases h

/-- A start that fails does so because of the store, the header or the start page. -/
theorem start_ne_run (cause : RunFailure) :
    start settings categories database ≠ .error (.run cause) := by
  intro h
  rw [start] at h
  obtain h | ⟨store, -, h⟩ := error_of_bind h
  · obtain ⟨_, hstorage⟩ := exists_of_mapError_eq_error h
    cases hstorage
  obtain h | ⟨-, -, h⟩ := error_of_bind h
  · obtain ⟨_, hstorage⟩ := exists_of_mapError_eq_error h
    cases hstorage
  cases hheader : isHeaderValue settings.agent.header with
  | false =>
    rw [hheader] at h
    cases h
  | true =>
    rw [hheader, if_neg (by decide)] at h
    dsimp only at h
    split at h
    · obtain h | ⟨root, -, h⟩ := error_of_bind h
      · obtain ⟨_, hurl⟩ := exists_of_mapError_eq_error h
        cases hurl
      · cases h
    · cases h

/-- A missing table stops the start before anything else is looked at. -/
theorem start_of_missing {db : Database} {name : String}
    (product : isIdentifier settings.database.productTable = true)
    (price : isIdentifier settings.database.priceTable = true)
    (missing : [settings.database.productTable, settings.database.priceTable].find?
      (fun name => !db.hasTable name) = some name) :
    start settings categories (.ok db) = .error (.storage (.missingTable name)) := by
  let store : Store :=
    ⟨db, settings.database.productTable, settings.database.priceTable, product, price⟩
  have hconnect : Store.connect (.ok db) settings.database.productTable
      settings.database.priceTable = .ok store := by
    rw [Store.connect, dif_pos product, dif_pos price]
  have hverify : store.verify = .error (.missingTable name) := by
    simp only [Store.verify, store]
    rw [List.find?_cons] at missing
    split at missing
    · next hproduct => simpa [hproduct] using missing
    · next hproduct =>
      rw [List.find?_singleton] at missing
      split at missing
      · next hprice => simpa [hproduct, hprice] using missing
      · simp at missing
  simp only [start, hconnect, hverify, Except.mapError, bind, Except.bind]

/-! ## The outcome -/

/-- A crawl fails at its start, or in a run. -/
theorem outcome_cases {failure : CrawlFailure}
    (h : (outcome settings categories web plan stop turns database).answer =
      some (.error failure)) :
    (∀ cause, failure ≠ .run cause) ∧
        outcome settings categories web plan stop turns database =
          { answer := some (.error failure), database } ∨
      ∃ (c d : Crawl Journal) (cause : RunFailure), failure = .run cause ∧
        c.run web (journalSink plan) stop turns = (some (.error cause), d) := by
  cases hstart : start settings categories database with
  | error cause =>
    simp only [outcome, hstart, Option.some.injEq, Except.error.injEq] at h ⊢
    subst h
    exact Or.inl ⟨fun other hother => start_ne_run other (hother ▸ hstart), rfl⟩
  | ok crawl =>
    simp only [outcome, hstart] at h
    refine Or.inr ⟨crawl.through fun store => { store : Journal }, ?_⟩
    cases hrun : (crawl.through fun store => { store : Journal }).run web (journalSink plan) stop
      turns with
    | mk result d =>
      rw [hrun] at h
      match result, h with
      | some (.error cause), h => exact ⟨d, cause, by simpa [Except.mapError] using h.symm, rfl⟩
      | some (.ok tally), h => simp [Except.mapError] at h
      | none, h => simp at h

/-- **A crawl that fails before it starts has no effect.** Settings of any kind, accepted or not,
any category pages and a database in any state or none, on any web: an answer that tells of a
failure comes from the start or from the run. If it tells of neither a batch that was not accepted
nor a stop, no page was asked for and the database is the one that was given. A run is only stopped
from outside, so without a stop nothing can fail but a batch once a page was asked for. If both
names are plain and the database opens, the first table that is missing stops the crawl, the product
table before the price table, whatever else is wrong with the settings. -/
theorem only_runs_have_effects (settings : Settings) (categories : List Url) (web : Web)
    (plan : Nat → Date × Option Interruption) (stop : Option Nat) (turns : Nat)
    (database : Except DatabaseFault Database) :
    let o := outcome settings categories web plan stop turns database
    let tables := [settings.database.productTable, settings.database.priceTable]
    (∀ failure, o.answer = some (.error failure) →
      (∀ cause, failure ≠ .run cause) ∧ o.requests = [] ∧ o.database = database ∨
        (∃ refusal, failure = .run (.write refusal)) ∨
        (∃ pending, failure = .run (.aborted pending)) ∧ stop.isSome = true) ∧
      (o.requests ≠ [] → stop = none → ∀ failure, o.answer = some (.error failure) →
        ∃ refusal, failure = .run (.write refusal)) ∧
      ∀ db name, database = .ok db → (∀ table ∈ tables, isIdentifier table = true) →
        tables.find? (fun table => !db.hasTable table) = some name →
          o = { answer := some (.error (.storage (.missingTable name))), database } := by
  intro o tables
  have hcauses : ∀ failure, o.answer = some (.error failure) →
      (∀ cause, failure ≠ .run cause) ∧ o.requests = [] ∧ o.database = database ∨
        (∃ refusal, failure = .run (.write refusal)) ∨
        (∃ pending, failure = .run (.aborted pending)) ∧ stop.isSome = true := by
    intro failure hanswer
    obtain ⟨hstart, houtcome⟩ | ⟨c, d, cause, rfl, hrun⟩ := outcome_cases hanswer
    · have hsame : o = { answer := some (.error failure), database } := houtcome
      rw [hsame]
      exact Or.inl ⟨hstart, rfl, rfl⟩
    · obtain ⟨refusal, -, rfl, -⟩ | ⟨time, pending, rfl, rfl⟩ := refused_or_stopped hrun
      · exact Or.inr (Or.inl ⟨refusal, rfl⟩)
      · exact Or.inr (Or.inr ⟨⟨pending, rfl⟩, rfl⟩)
  refine ⟨hcauses, fun hrequests hstop failure hanswer => ?_, ?_⟩
  · obtain ⟨-, hnone, -⟩ | hwrite | ⟨-, hsome⟩ := hcauses failure hanswer
    · exact absurd hnone hrequests
    · exact hwrite
    · rw [hstop] at hsome
      exact absurd hsome Bool.false_ne_true
  · rintro db name rfl valid missing
    have hstart : start settings categories (.ok db) = .error (.storage (.missingTable name)) :=
      start_of_missing (valid _ (by simp [tables])) (valid _ (by simp [tables])) missing
    simp only [o, outcome, hstart]

end PriceTracker.Crawl
