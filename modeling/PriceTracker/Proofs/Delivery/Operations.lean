import PriceTracker.Crawl.Start
import PriceTracker.Proofs.Crawl.Handover
import PriceTracker.Proofs.Delivery.Journal
import PriceTracker.Proofs.Url.Marks

/-!
# What becomes of a database file

A database file is opened as a store under any two table names and asked for something, or a crawl is
started on it, again and again. The file lasts between these operations, and with it a record of the
inserts that succeeded.

* `perform` is what an operation does to the file and the record;
* `leads_perform`: it makes the file grow by the inserts that it adds to the record, whatever comes
  of it, and all of these have prices that are numbers;
* `tables_keep_first_rows`: so no operation takes a row away, and the tables hold the first inserted
  row of each key, with all that was inserted.
-/

namespace PriceTracker

open Storage

/-! ## Operations -/

/-- What a store is asked for. -/
inductive Request where
  | createTables
  | verify
  | insertProducts (rows : List ProductRow)
  | insertSnapshots (snapshots : List Snapshot)
  /-- Write a batch, which may break off. -/
  | write (day : Date) (records : List ProductRecord) (fault : Option Interruption)
  /-- The numbers of rows and the latest day. -/
  | statistics

/-- The journal of a store after a request. -/
def Journal.serve (j : Journal) : Request → Journal
  | .createTables => { j with store := j.store.createTables.2 }
  | .verify => j
  | .insertProducts rows =>
    match j.store.insertProducts rows with
    | (.ok _, store) =>
      { j with store, insertions := j.insertions ++ [.products j.store.productTable rows] }
    | (.error _, store) => { j with store }
  | .insertSnapshots snapshots =>
    match j.store.insertSnapshots snapshots with
    | (.ok _, store) =>
      { j with store, insertions := j.insertions ++ [.prices j.store.priceTable snapshots] }
    | (.error _, store) => { j with store }
  | .write day records fault => ((journalSink fun _ => (day, fault)).write records j).2
  | .statistics => j

/-- What is done with a database file. -/
inductive Operation where
  /-- Open it with two table names, and ask for something. -/
  | ask (productTable priceTable : String) (request : Request)
  /-- Crawl a site, for at most so many turns and up to a time if one is given. -/
  | crawl (settings : Settings) (categories : List Url) (web : Web)
    (plan : Nat → Date × Option Interruption) (stop : Option Nat) (turns : Nat)

/-- A database file, and the inserts that succeeded on it so far. -/
structure Recorded where
  database : Database := {}
  insertions : List Insertion := []

/-- The part of a journal that lasts. -/
def Journal.recorded (j : Journal) : Recorded :=
  ⟨j.store.database, j.insertions⟩

/-- The journal of a store that was opened on the file. -/
def Recorded.journal (r : Recorded) (store : Store) : Journal where
  store
  insertions := r.insertions

/-- The file after an operation. A store that cannot be opened and a crawl that cannot start leave it
as it is. -/
def perform (r : Recorded) : Operation → Recorded
  | .ask productTable priceTable request =>
    match Store.connect (.ok r.database) productTable priceTable with
    | .error _ => r
    | .ok store => ((r.journal store).serve request).recorded
  | .crawl settings categories web plan stop turns =>
    match Crawl.start settings categories (.ok r.database) with
    | .error _ => r
    | .ok crawl =>
      ((crawl.through r.journal).run web (journalSink plan) stop turns).2.buffer.sink.recorded

/-- The file after operations, which was empty at first. -/
def performAll (operations : List Operation) : Recorded :=
  operations.foldl perform {}

/-- The database that `Crawl.fill` gives back is that of a crawl among the operations. -/
theorem database_fill (r : Recorded) (settings : Settings) (categories : List Url) (site : Site)
    (day : Date) (stop : Option Nat) :
    ∃ turns, (Crawl.fill settings categories site day stop (.ok r.database)).2 =
      .ok (perform r
        (.crawl settings categories site.reply (fun _ => (day, none)) stop turns)).database := by
  cases hstart : Crawl.start settings categories (.ok r.database) with
  | error failure =>
    refine ⟨0, ?_⟩
    rw [Crawl.fill_of_start_eq_error hstart, perform, hstart]
  | ok crawl =>
    refine ⟨crawl.turnsOn site, ?_⟩
    have hview : (crawl.through r.journal).through Journal.store = crawl := rfl
    have hrun := Crawl.run_through (shows_journalSink day) site.reply stop (crawl.turnsOn site)
      (crawl.through r.journal)
    rw [hview] at hrun
    rw [Crawl.fill, perform, hstart]
    dsimp only
    rw [Crawl.runOn, hrun]
    rfl

/-! ## One operation -/

/-- The second file has grown out of the first one by the inserts that were added to the record. -/
def Recorded.Leads (r r' : Recorded) : Prop :=
  ∃ new, r'.insertions = r.insertions ++ new ∧ (∀ i ∈ new, i.IsPriced) ∧
    r.database.Grows new r'.database

namespace Recorded.Leads

variable {r r' r'' : Recorded}

protected theorem refl (r : Recorded) : r.Leads r :=
  ⟨[], (List.append_nil _).symm, List.forall_mem_nil _, Database.grows_refl _⟩

theorem trans (h₁ : r.Leads r') (h₂ : r'.Leads r'') : r.Leads r'' := by
  obtain ⟨new, hnew, hpriced, hgrows⟩ := h₁
  obtain ⟨more, hmore, hpriced', hgrows'⟩ := h₂
  refine ⟨new ++ more, ?_, List.forall_mem_append.2 ⟨hpriced, hpriced'⟩, hgrows.trans hgrows'⟩
  rw [hmore, hnew, List.append_assoc]

end Recorded.Leads

theorem leads_write (plan : Nat → Date × Option Interruption) (batch : List ProductRecord)
    (j : Journal) : j.recorded.Leads ((journalSink plan).write batch j).2.recorded :=
  ⟨_, rfl, Store.isPriced_of_mem_inserted,
    Store.grows_attempt (plan j.count).1 batch (plan j.count).2 j.store⟩

theorem leads_serve (j : Journal) (request : Request) :
    j.recorded.Leads (j.serve request).recorded := by
  cases request with
  | createTables =>
    exact ⟨[], (List.append_nil _).symm, List.forall_mem_nil _, Store.grows_createTables j.store⟩
  | verify => exact .refl _
  | insertProducts rows =>
    rw [Journal.serve]
    cases hinsert : j.store.insertProducts rows with
    | mk result store =>
      cases result with
      | ok n =>
        exact ⟨_, rfl, List.forall_mem_singleton.2 trivial, Store.grows_insertProducts hinsert⟩
      | error =>
        obtain rfl := Store.eq_of_insertProducts_error hinsert
        exact .refl _
  | insertSnapshots snapshots =>
    rw [Journal.serve]
    cases hinsert : j.store.insertSnapshots snapshots with
    | mk result store =>
      cases result with
      | ok n =>
        have hpriced := Store.isNaN_of_insertSnapshots_ok hinsert
        exact ⟨_, rfl, List.forall_mem_singleton.2 hpriced, Store.grows_insertSnapshots hinsert⟩
      | error =>
        obtain rfl := Store.eq_of_insertSnapshots_error hinsert
        exact .refl _
  | write day records fault => exact leads_write _ records j
  | statistics => exact .refl _

/-- Opening a store does not change the database. -/
theorem database_of_connect {db : Database} {productTable priceTable : String} {store : Store}
    (h : Store.connect (.ok db) productTable priceTable = .ok store) : store.database = db := by
  unfold Store.connect at h
  split at h
  · split at h
    · obtain rfl := Except.ok.inj h
      rfl
    · simp at h
  · simp at h

/-- The store has the names that it is opened with. -/
theorem names_of_connect {database : Except DatabaseFault Database} {productTable priceTable : String}
    {store : Store} (h : Store.connect database productTable priceTable = .ok store) :
    store.productTable = productTable ∧ store.priceTable = priceTable := by
  unfold Store.connect at h
  split at h
  · split at h
    · split at h
      · obtain rfl := Except.ok.inj h
        exact ⟨rfl, rfl⟩
      · simp at h
    · simp at h
  · simp at h

/-- Nor does starting a crawl change it. -/
theorem database_of_start {settings : Settings} {categories : List Url} {db : Database}
    {crawl : Crawl Store} (h : Crawl.start settings categories (.ok db) = .ok crawl) :
    crawl.buffer.sink.database = db := by
  rw [Crawl.start] at h
  obtain ⟨store, hstore, h⟩ := Url.exists_of_bind_eq_ok h
  obtain ⟨-, -, h⟩ := Url.exists_of_bind_eq_ok h
  have hdatabase : store.database = db := by
    cases hconnect : Store.connect (.ok db) settings.database.productTable
      settings.database.priceTable with
    | error => simp [hconnect, Except.mapError] at hstore
    | ok opened =>
      obtain rfl : opened = store := by simpa [hconnect, Except.mapError] using hstore
      exact database_of_connect hconnect
  cases hheader : isHeaderValue settings.agent.header with
  | false => simp [hheader, throw, throwThe, MonadExceptOf.throw, bind, Except.bind] at h
  | true =>
    rw [hheader, if_neg (by decide)] at h
    dsimp only at h
    split at h
    · obtain ⟨root, -, h⟩ := Url.exists_of_bind_eq_ok h
      obtain rfl := Except.ok.inj h
      exact hdatabase
    · obtain rfl := Except.ok.inj h
      exact hdatabase

/-- **An operation makes the file grow by the inserts that it adds to the record.** -/
theorem leads_perform (r : Recorded) (operation : Operation) : r.Leads (perform r operation) := by
  cases operation with
  | ask productTable priceTable request =>
    rw [perform]
    cases hconnect : Store.connect (.ok r.database) productTable priceTable with
    | error => exact .refl r
    | ok store =>
      have hserve := leads_serve (r.journal store) request
      have hopened : (r.journal store).recorded = r := by
        rw [Journal.recorded, Recorded.journal, database_of_connect hconnect]
      rwa [hopened] at hserve
  | crawl settings categories web plan stop turns =>
    rw [perform]
    cases hstart : Crawl.start settings categories (.ok r.database) with
    | error => exact .refl r
    | ok crawl =>
      have hwrite : ∀ batch j, r.Leads j.recorded →
          r.Leads ((journalSink plan).write batch j).2.recorded :=
        fun batch j h => h.trans (leads_write plan batch j)
      have keeps := RecordBuffer.Keeps.of_write (fun j : Journal => r.Leads j.recorded) hwrite
      have hstarted : (crawl.through r.journal).buffer.sink.recorded = r := by
        have hsink : (crawl.through r.journal).buffer.sink.recorded =
          ⟨crawl.buffer.sink.database, r.insertions⟩ := rfl
        rw [hsink, database_of_start hstart]
      exact keeps.act (fun _ _ _ _ _ => trivial) (hstarted ▸ .refl r) (.run web stop turns)

theorem leads_performAll (operations : List Operation) :
    Recorded.Leads {} (performAll operations) := by
  induction operations using List.reverseRecOn with
  | nil => exact .refl _
  | append_singleton operations operation ih =>
    rw [performAll, List.foldl_append]
    exact ih.trans (leads_perform _ operation)

/-- **No operation takes a row away, and the first row of a key stays.** A database file was empty at
first, and any operations were carried out on it, some of which may have failed. The next one,
whatever it is and whatever comes of it, leaves the rows of each table in front of its new ones. No
two rows of the product table have the same shop and number, and no two of the price table also the
same written day. The rows of a table are those that the inserts which succeeded brought for it, the
first one of each key: product rows as they are, and for each snapshot a row with its shop, its
number, its day as a text, both prices and the stock. -/
theorem tables_keep_first_rows (operations : List Operation) :
    let r := performAll operations
    (∀ (operation : Operation) (name : String),
      (∀ rows ∈ r.database.productRows? name,
        ∃ new, (perform r operation).database.productRows? name = some (rows ++ new)) ∧
      ∀ rows ∈ r.database.priceRows? name,
        ∃ new, (perform r operation).database.priceRows? name = some (rows ++ new)) ∧
    ∀ name,
      let products := (r.database.productRows? name).getD []
      let prices := (r.database.priceRows? name).getD []
      let productKey (row : ProductRow) : ProductKey := ⟨row.shop, row.pid⟩
      let priceKey (row : PriceRow) : PriceKey := ⟨⟨row.shop, row.pid⟩, row.scrapedAt⟩
      (products.map productKey).Nodup ∧ (prices.map priceKey).Nodup ∧
        products = firstBy productKey (productsFor name r.insertions) ∧
        ∃ rows, List.Forall₂ Snapshot.IsKeptAs (snapshotsFor name r.insertions) rows ∧
          prices = firstBy priceKey rows := by
  intro r
  refine ⟨fun operation name => ?_, fun name => ?_⟩
  · obtain ⟨new, -, -, hgrows⟩ := leads_perform r operation
    exact ⟨fun rows => hgrows.exists_productRows?, fun rows => hgrows.exists_priceRows?⟩
  · intro products prices productKey priceKey
    obtain ⟨new, hnew, hpriced, hgrows⟩ : Recorded.Leads {} r := leads_performAll operations
    obtain rfl : r.insertions = new := hnew
    have hproducts : products = firstBy productKey (productsFor name r.insertions) :=
      hgrows.productRows?_eq name
    have hprices : prices = firstBy priceKey (pricesFor name r.insertions) :=
      hgrows.priceRows?_eq name
    exact ⟨hproducts ▸ nodup_map_firstBy _, hprices ▸ nodup_map_firstBy _, hproducts,
      _, forall₂_pricesFor hpriced name, hprices⟩

/-- The insert into a table that is missing fails. The later ones keep the first bell, also under
another spelling of the name. -/
example :
    let row (pid name : String) : ProductRow := ⟨"shop", pid, name, "/", none⟩
    let ask := Operation.ask "products" "prices"
    let r := performAll [ask (.insertProducts [row "1" "Lamp"]), ask .createTables,
      ask (.insertProducts [row "1" "Bell", row "2" "Horn", row "1" "Gong"]),
      .ask "Products" "prices" (.insertProducts [row "2" "Drum", row "3" "Lock"])]
    r.insertions.length = 2 ∧ (r.database.productRows? "products").map (·.map ProductRow.name) =
      some ["Bell", "Horn", "Lock"] := by
  decide +kernel

end PriceTracker
