import PriceTracker.Proofs.Delivery.Operations

/-!
# Whether created tables are found

The database compares the names of tables without regard to case when it creates them, and a store
compares them letter by letter when it looks for its tables. A database file is opened under
different names over time, so the two may disagree.

* `Database.Spelled` is the invariant of a file: its tables have names that they were created under,
  and no two of these are spellings of one name;
* `spelled_perform`: it holds after any operation, since only the creation of tables changes
  their names;
* `verify_iff_spelledAlike`: tables that were created are found exactly if each name is spelled in
  one way.
-/

namespace PriceTracker

open Storage

namespace Storage

/-! ## Names of tables -/

namespace Database

/-- The names of the tables, under the spelling that they were created with. -/
def tableNames (db : Database) : List String :=
  db.tables.map NamedTable.name

/-- Names that are the same to the database are spelled alike. -/
def SpelledAlike (names : List String) : Prop :=
  ∀ a ∈ names, ∀ b ∈ names, sameName a b = true → a = b

variable {db db' : Database} {name : String} {names created : List String}

theorem SpelledAlike.mono (h : SpelledAlike names) {fewer : List String} (sub : fewer ⊆ names) :
    SpelledAlike fewer :=
  fun a ha b hb => h a (sub ha) b (sub hb)

theorem hasTable_eq_true_iff : db.hasTable name = true ↔ name ∈ db.tableNames := by
  simp [hasTable, tableNames, List.any_eq_true, List.mem_map]

theorem isSome_find?_iff :
    (db.find? name).isSome = true ↔ ∃ n ∈ db.tableNames, sameName n name = true := by
  simp [find?, tableNames, List.find?_isSome]

/-- A table stays as long as no name is taken away. -/
theorem isSome_find?_mono (h : db.tableNames ⊆ db'.tableNames)
    (hfind : (db.find? name).isSome = true) : (db'.find? name).isSome = true := by
  obtain ⟨n, hn, hsame⟩ := isSome_find?_iff.1 hfind
  exact isSome_find?_iff.2 ⟨n, h hn, hsame⟩

theorem isSome_find?_of_mem (h : name ∈ db.tableNames) : (db.find? name).isSome = true :=
  isSome_find?_iff.2 ⟨name, h, sameName_self name⟩

/-- A new table is named as it is asked for. -/
theorem tableNames_createTable {empty : Table} (h : createTable name empty db = .ok db') :
    db'.tableNames =
      if (db.find? name).isSome then db.tableNames else db.tableNames ++ [name] := by
  unfold createTable at h
  split at h
  · simp at h
  · split at h
    · next hfind =>
      obtain rfl := Except.ok.inj h
      rw [if_pos hfind]
    · next hfind =>
      split at h
      · simp at h
      · obtain rfl := Except.ok.inj h
        rw [if_neg hfind, tableNames, List.map_append]
        rfl

/-- The database has a table of the name then, and no other one is new. -/
theorem names_of_createTable {empty : Table} (h : createTable name empty db = .ok db') :
    db.tableNames ⊆ db'.tableNames ∧ db'.tableNames ⊆ name :: db.tableNames ∧
      (db'.find? name).isSome = true := by
  have hnames := tableNames_createTable h
  by_cases hfind : (db.find? name).isSome = true
  · rw [if_pos hfind] at hnames
    have hkept : db.tableNames ⊆ db'.tableNames := hnames ▸ List.Subset.refl _
    exact ⟨hkept, hnames ▸ List.subset_cons_self _ _, isSome_find?_mono hkept hfind⟩
  · rw [if_neg hfind] at hnames
    have hname : name ∈ db'.tableNames := by simp [hnames]
    refine ⟨hnames ▸ List.subset_append_left _ _, fun n hn => ?_, isSome_find?_of_mem hname⟩
    rw [hnames, List.mem_append, List.mem_singleton] at hn
    exact List.mem_cons.2 hn.symm

theorem tableNames_createIndex {table : String} (h : createIndex name table db = .ok db') :
    db'.tableNames = db.tableNames := by
  unfold createIndex at h
  split at h
  · simp at h
  · split at h
    · simp at h
    · split at h <;> obtain rfl := Except.ok.inj h <;> rfl

theorem tableNames_replace (db : Database) (name : String) (table : Table) :
    (db.replace name table).tableNames = db.tableNames := by
  rw [tableNames, replace, List.map_map]
  refine List.map_congr_left fun t _ => ?_
  dsimp only [Function.comp_apply]
  split <;> rfl

/-! ### Adding rows -/

/-- What each step of a fold keeps, the fold keeps if it succeeds. -/
theorem foldlM_keeps {α β ε : Type} {f : β → α → Except ε β} {P : β → Prop}
    (h : ∀ {b a b'}, f b a = .ok b' → P b → P b') {l : List α} {b b' : β}
    (hfold : l.foldlM f b = .ok b') (hb : P b) : P b' := by
  induction l generalizing b with
  | nil =>
    obtain rfl := Except.ok.inj hfold
    exact hb
  | cons a l ih =>
    rw [List.foldlM_cons] at hfold
    obtain ⟨between, hbetween, hrest⟩ := Url.exists_of_bind_eq_ok hfold
    exact ih hrest (h hbetween hb)

/-- Statements that leave the names as they are do so one after the other, and when one fails. -/
theorem tableNames_insertAll {ι : Type}
    {statement : List ι → Database → Except DatabaseFault (Nat × Database)}
    (h : ∀ {items : List ι} {db db' : Database} {n : Nat},
      statement items db = .ok (n, db') → db'.tableNames = db.tableNames)
    (items : List ι) (db : Database) :
    (db.insertAll statement items).2.tableNames = db.tableNames := by
  have hstep : ∀ {done : Nat × Database} {piece : List ι} {result : Nat × Database},
      addPiece statement done piece = .ok result → done.2.tableNames = db.tableNames →
        result.2.tableNames = db.tableNames := by
    intro done piece result hpiece hdone
    obtain ⟨counted, hcounted, hresult⟩ := Url.exists_of_bind_eq_ok hpiece
    obtain rfl := Except.ok.inj hresult
    exact (h hcounted).trans hdone
  rw [insertAll_eq]
  split
  · next count changed hall =>
    exact foldlM_keeps (P := fun done => done.2.tableNames = db.tableNames) hstep hall rfl
  · rfl

theorem tableNames_insertProducts {rows : List ProductRow} {n : Nat}
    (h : insertProducts name rows db = .ok (n, db')) : db'.tableNames = db.tableNames := by
  unfold insertProducts at h
  split at h
  · simp at h
  · simp at h
  · obtain ⟨-, rfl⟩ := Prod.mk.inj (Except.ok.inj h)
    exact tableNames_replace db name _

theorem tableNames_insertSnapshots {snapshots : List Snapshot} {n : Nat}
    (h : insertSnapshots name snapshots db = .ok (n, db')) : db'.tableNames = db.tableNames := by
  unfold insertSnapshots at h
  split at h
  · simp at h
  · simp at h
  · split at h
    · simp at h
    · obtain ⟨-, rfl⟩ := Prod.mk.inj (Except.ok.inj h)
      exact tableNames_replace db name _

/-! ### The invariant -/

/-- The tables have names that they were created under, and of names that are the same to the
database there is one. -/
structure Spelled (created : List String) (db : Database) : Prop where
  mem : db.tableNames ⊆ created
  alike : SpelledAlike db.tableNames

theorem spelled_empty (created : List String) : ({} : Database).Spelled created :=
  ⟨List.nil_subset _, fun _ ha => absurd ha List.not_mem_nil⟩

namespace Spelled

theorem mono (h : db.Spelled created) (sub : created ⊆ names) : db.Spelled names :=
  ⟨List.Subset.trans h.mem sub, h.alike⟩

theorem congr (h : db.Spelled created) (same : db'.tableNames = db.tableNames) :
    db'.Spelled created :=
  ⟨same ▸ h.mem, same ▸ h.alike⟩

/-- A table is created only where no other spelling of its name is there. -/
theorem createTable {empty : Table} (h : db.Spelled created) (hname : name ∈ created)
    (hcreate : Database.createTable name empty db = .ok db') : db'.Spelled created := by
  have hnames := tableNames_createTable hcreate
  by_cases hfind : (db.find? name).isSome = true
  · rw [if_pos hfind] at hnames
    exact h.congr hnames
  · rw [if_neg hfind] at hnames
    have hnew : ∀ n ∈ db.tableNames, sameName n name = false := fun n hn => by
      by_contra hsame
      exact hfind (isSome_find?_iff.2 ⟨n, hn, (Bool.not_eq_false _).mp hsame⟩)
    constructor
    · rw [hnames]
      exact List.append_subset.2 ⟨h.mem, List.cons_subset.2 ⟨hname, List.nil_subset _⟩⟩
    · intro a ha b hb hsame
      rw [hnames, List.mem_append, List.mem_singleton] at ha hb
      obtain ha | rfl := ha <;> obtain hb | rfl := hb
      · exact h.alike a ha b hb hsame
      · simp [hnew a ha] at hsame
      · rw [sameName_comm] at hsame
        simp [hnew b hb] at hsame
      · rfl

/-- It stays while tables are created, also if that stops half-way. -/
theorem createTables {product price : String} (h : db.Spelled created)
    (hproduct : product ∈ created) (hprice : price ∈ created) :
    (db.createTables product price).2.Spelled created := by
  refine runAll_keeps (fun statement hstatement db db' hdb' h => ?_) h
  simp only [List.mem_cons, List.not_mem_nil, or_false] at hstatement
  obtain rfl | rfl | rfl := hstatement
  · exact h.createTable hproduct hdb'
  · exact h.createTable hprice hdb'
  · exact h.congr (tableNames_createIndex hdb')

end Spelled

end Database

/-! ## Stores -/

namespace Store

open Database

variable {s made : Store}

theorem tableNames_insertProducts (rows : List ProductRow) (s : Store) :
    (s.insertProducts rows).2.database.tableNames = s.database.tableNames :=
  tableNames_insertAll Database.tableNames_insertProducts rows s.database

theorem tableNames_insertSnapshots (snapshots : List Snapshot) (s : Store) :
    (s.insertSnapshots snapshots).2.database.tableNames = s.database.tableNames :=
  tableNames_insertAll Database.tableNames_insertSnapshots snapshots s.database

/-- No batch changes the names of tables, whatever comes of it. -/
theorem tableNames_attempt (day : Date) (records : List ProductRecord)
    (fault : Option Interruption) (s : Store) :
    (s.attempt day records fault).2.database.tableNames = s.database.tableNames := by
  generalize h : s.attempt day records fault = result
  cases attempt_outcome h with
  | untouched => rfl
  | halfway _ hproducts =>
    have hnames := tableNames_insertProducts (records.map ProductRow.ofRecord) s
    rwa [hproducts] at hnames
  | @accepted _ _ s' _ hproducts hprices =>
    have hnames := tableNames_insertProducts (records.map ProductRow.ofRecord) s
    have hnames' := tableNames_insertSnapshots (records.map (Snapshot.ofRecord day)) s'
    rw [hproducts] at hnames
    rw [hprices] at hnames'
    exact hnames'.trans hnames

theorem verify_eq_ok_iff : s.verify = .ok () ↔
    s.productTable ∈ s.database.tableNames ∧ s.priceTable ∈ s.database.tableNames := by
  rw [← hasTable_eq_true_iff, ← hasTable_eq_true_iff, verify]
  cases s.database.hasTable s.productTable <;> cases s.database.hasTable s.priceTable <;> simp

/-- What is missed is one of the two tables, under its own spelling. -/
theorem exists_of_verify_eq_error {cause : StorageError} (h : s.verify = .error cause) :
    ∃ name ∈ [s.productTable, s.priceTable],
      cause = .missingTable name ∧ name ∉ s.database.tableNames := by
  unfold verify at h
  split at h
  · next hmissing =>
    refine ⟨s.productTable, by simp, (Except.error.inj h).symm, ?_⟩
    rw [← hasTable_eq_true_iff]
    simpa using hmissing
  · split at h
    · next hmissing =>
      refine ⟨s.priceTable, by simp, (Except.error.inj h).symm, ?_⟩
      rw [← hasTable_eq_true_iff]
      simpa using hmissing
    · simp at h

/-- What the creation of tables has done once it says that it succeeded. The database has a table
of either name, though maybe under a spelling of its own. -/
structure Created (s made : Store) : Prop where
  productTable : made.productTable = s.productTable
  priceTable : made.priceTable = s.priceTable
  kept : s.database.tableNames ⊆ made.database.tableNames
  added : made.database.tableNames ⊆ s.productTable :: s.priceTable :: s.database.tableNames
  product : (made.database.find? s.productTable).isSome = true
  price : (made.database.find? s.priceTable).isSome = true

theorem created_of_createTables (h : s.createTables = (.ok (), made)) : s.Created made := by
  have hrun := database_of_onDatabase_ok h
  obtain ⟨db₁, hdb₁, hrun⟩ := runAll_cons_ok hrun
  obtain ⟨db₂, hdb₂, hrun⟩ := runAll_cons_ok hrun
  obtain ⟨db₃, hdb₃, hrun⟩ := runAll_cons_ok hrun
  obtain rfl : db₃ = made.database := congrArg Prod.snd hrun
  obtain ⟨hkept₁, hadded₁, hfind₁⟩ := names_of_createTable hdb₁
  obtain ⟨hkept₂, hadded₂, hfind₂⟩ := names_of_createTable hdb₂
  have hindex := tableNames_createIndex hdb₃
  have hmade : made = { s with database := made.database } := by
    obtain rfl := congrArg Prod.snd h
    rfl
  refine ⟨by rw [hmade], by rw [hmade], ?_, ?_, ?_, ?_⟩
  · rw [hindex]
    exact List.Subset.trans hkept₁ hkept₂
  · rw [hindex]
    have hadded₁' := List.Subset.trans hadded₁
      (List.cons_subset_cons s.productTable (List.subset_cons_self s.priceTable _))
    exact List.Subset.trans hadded₂ (List.cons_subset.2 ⟨by simp, hadded₁'⟩)
  · exact isSome_find?_mono (hindex ▸ hkept₂) hfind₁
  · exact isSome_find?_mono (hindex ▸ List.Subset.refl _) hfind₂

namespace Created

/-- The database has a table of either name, maybe under another spelling. -/
theorem exists_sameName (h : s.Created made) {name : String}
    (hname : name ∈ [s.productTable, s.priceTable]) :
    ∃ other ∈ made.database.tableNames, sameName other name = true := by
  simp only [List.mem_cons, List.not_mem_nil, or_false] at hname
  obtain rfl | rfl := hname
  · exact isSome_find?_iff.1 h.product
  · exact isSome_find?_iff.1 h.price

/-- **Created tables are found if each name is spelled in one way**, and only then. -/
theorem verify_iff (h : s.Created made) (alike : SpelledAlike made.database.tableNames) :
    made.verify = .ok () ↔
      SpelledAlike (s.productTable :: s.priceTable :: s.database.tableNames) := by
  rw [verify_eq_ok_iff, h.productTable, h.priceTable]
  constructor
  · rintro ⟨hproduct, hprice⟩
    exact alike.mono (List.cons_subset.2 ⟨hproduct, List.cons_subset.2 ⟨hprice, h.kept⟩⟩)
  · intro halike
    have hmem : ∀ name ∈ [s.productTable, s.priceTable], name ∈ made.database.tableNames := by
      intro name hname
      obtain ⟨other, hother, hsame⟩ := h.exists_sameName hname
      have hthere : name ∈ s.productTable :: s.priceTable :: s.database.tableNames :=
        List.mem_append_left s.database.tableNames hname
      exact halike other (h.added hother) name hthere hsame ▸ hother
    exact ⟨hmem _ (by simp), hmem _ (by simp)⟩

/-- What is missed is there under another spelling. -/
theorem exists_spelling (h : s.Created made) {cause : StorageError}
    (hverify : made.verify = .error cause) :
    ∃ name ∈ [s.productTable, s.priceTable], cause = .missingTable name ∧
      ∃ other ∈ s.productTable :: s.priceTable :: s.database.tableNames,
        sameName other name = true ∧ other ≠ name := by
  obtain ⟨name, hname, rfl, hmissing⟩ := exists_of_verify_eq_error hverify
  rw [h.productTable, h.priceTable] at hname
  obtain ⟨other, hother, hsame⟩ := h.exists_sameName hname
  refine ⟨name, hname, rfl, other, h.added hother, hsame, ?_⟩
  rintro rfl
  exact hmissing hother

end Created

end Store

end Storage

/-! ## Operations -/

/-- The names under which an operation creates tables where these are missing. -/
def Operation.created : Operation → List String
  | .ask productTable priceTable .createTables => [productTable, priceTable]
  | _ => []

open Database

/-- What a store is asked for leaves the invariant, if its own names are among those created. -/
theorem spelled_serve {created : List String} (j : Journal) (request : Request)
    (h : j.store.database.Spelled created)
    (hnames : request = .createTables →
      j.store.productTable ∈ created ∧ j.store.priceTable ∈ created) :
    (j.serve request).store.database.Spelled created := by
  cases request with
  | createTables => exact h.createTables (hnames rfl).1 (hnames rfl).2
  | verify => exact h
  | insertProducts rows =>
    have hsame := j.store.tableNames_insertProducts rows
    rw [Journal.serve]
    cases hinsert : j.store.insertProducts rows with
    | mk result store =>
      rw [hinsert] at hsame
      cases result <;> exact h.congr hsame
  | insertSnapshots snapshots =>
    have hsame := j.store.tableNames_insertSnapshots snapshots
    rw [Journal.serve]
    cases hinsert : j.store.insertSnapshots snapshots with
    | mk result store =>
      rw [hinsert] at hsame
      cases result <;> exact h.congr hsame
  | write day records fault => exact h.congr (j.store.tableNames_attempt day records fault)
  | statistics => exact h

/-- **An operation keeps the invariant.** -/
theorem spelled_perform {created : List String} {r : Recorded} (h : r.database.Spelled created)
    (operation : Operation) (hnames : operation.created ⊆ created) :
    (perform r operation).database.Spelled created := by
  cases operation with
  | ask productTable priceTable request =>
    rw [perform]
    cases hconnect : Store.connect (.ok r.database) productTable priceTable with
    | error => exact h
    | ok store =>
      obtain ⟨hproduct, hprice⟩ := names_of_connect hconnect
      refine spelled_serve (r.journal store) request (database_of_connect hconnect ▸ h) ?_
      rintro rfl
      rw [Recorded.journal, hproduct, hprice]
      exact ⟨hnames (by simp [Operation.created]), hnames (by simp [Operation.created])⟩
  | crawl settings categories web plan stop turns =>
    rw [perform]
    cases hstart : Crawl.start settings categories (.ok r.database) with
    | error => exact h
    | ok crawl =>
      have hwrite : ∀ batch (j : Journal), j.store.database.Spelled created →
          ((journalSink plan).write batch j).2.store.database.Spelled created :=
        fun batch j h => h.congr (j.store.tableNames_attempt _ batch _)
      have keeps := RecordBuffer.Keeps.of_write
        (fun j : Journal => j.store.database.Spelled created) hwrite
      have hstarted : (crawl.through r.journal).buffer.sink.store.database.Spelled created := by
        change crawl.buffer.sink.database.Spelled created
        rwa [database_of_start hstart]
      exact keeps.act (fun _ _ _ _ _ => trivial) hstarted (.run web stop turns)

/-- The names of the tables in a file are among those that the operations created. -/
theorem spelled_performAll (operations : List Operation) :
    (performAll operations).database.Spelled (operations.flatMap Operation.created) := by
  induction operations using List.reverseRecOn with
  | nil => exact spelled_empty _
  | append_singleton operations operation ih =>
    rw [performAll, List.foldl_append, List.flatMap_append, List.flatMap_singleton]
    exact spelled_perform (ih.mono (List.subset_append_left _ _)) operation
      (List.subset_append_right _ _)

/-- **Created tables are found exactly if each name is spelled in one way.** A database file was
empty at first, any operations were carried out on it, under any names of tables, and now a store is
opened on it whose tables are created with success. The file had no tables but those that the
operations created. It has a table of either name of the store then, but the store finds both if and
only if the two names and those of the tables that were there do not include two spellings of one
name. What it misses otherwise is a name of its own that is there under another spelling. -/
theorem verify_iff_spelledAlike (operations : List Operation) {product price : String}
    {s made : Store}
    (opened : Store.connect (.ok (performAll operations).database) product price = .ok s)
    (created : s.createTables = (.ok (), made)) :
    let names := s.database.tableNames
    names ⊆ operations.flatMap Operation.created ∧
      (made.database.find? product).isSome = true ∧ (made.database.find? price).isSome = true ∧
      (made.verify = .ok () ↔ SpelledAlike (product :: price :: names)) ∧
      ∀ cause, made.verify = .error cause → ∃ name ∈ [product, price],
        cause = .missingTable name ∧
          ∃ other ∈ product :: price :: names, sameName other name = true ∧ other ≠ name := by
  intro names
  obtain ⟨rfl, rfl⟩ := names_of_connect opened
  have hspelled := spelled_performAll operations
  rw [← database_of_connect opened] at hspelled
  have h := Store.created_of_createTables created
  have hmade : made.database.Spelled (s.productTable :: s.priceTable ::
      operations.flatMap Operation.created) := by
    have hdatabase : (s.database.createTables s.productTable s.priceTable).2 = made.database :=
      congrArg Prod.snd (Store.database_of_onDatabase_ok created)
    rw [← hdatabase]
    exact (hspelled.mono fun _ hn => by simp [hn]).createTables (by simp) (by simp)
  exact ⟨hspelled.mem, h.product, h.price, h.verify_iff hmade.alike, fun _ => h.exists_spelling⟩

/-- A file that is opened under the same names again, after a row was added. -/
theorem verify_after_same_names :
    let bell : ProductRow := ⟨"shop", "1", "Bell", "/1", none⟩
    let operations : List Operation := [.ask "products" "prices" .createTables,
      .ask "products" "prices" (.insertProducts [bell])]
    let s : Store := ⟨(performAll operations).database, "products", "prices", by decide, by decide⟩
    Store.connect (.ok (performAll operations).database) "products" "prices" = .ok s ∧
      s.createTables = (.ok (), s.createTables.2) ∧
      s.database.tableNames ⊆ operations.flatMap Operation.created ∧
      s.createTables.2.verify = .ok () := by
  intro bell operations s
  have opened : Store.connect (.ok (performAll operations).database) "products" "prices" = .ok s :=
    rfl
  have created : s.createTables = (.ok (), s.createTables.2) :=
    Prod.ext (by decide +kernel) rfl
  obtain ⟨hnames, -, -, hverify, -⟩ := verify_iff_spelledAlike operations opened created
  refine ⟨opened, created, hnames, hverify.2 ?_⟩
  have hthere : s.database.tableNames = ["products", "prices"] := by decide +kernel
  rw [hthere, SpelledAlike]
  decide +kernel

/-- Tables that were created under one spelling are there for another one, and so they are said to
be created, but not found. -/
theorem respelled_table_not_found :
    let operations : List Operation := [.ask "products" "prices" .createTables]
    let s : Store := ⟨(performAll operations).database, "Products", "prices", by decide, by decide⟩
    Store.connect (.ok (performAll operations).database) "Products" "prices" = .ok s ∧
      s.createTables.1 = .ok () ∧
      s.createTables.2.verify = .error (.missingTable "Products") := by
  intro operations s
  exact ⟨rfl, by decide +kernel, by decide +kernel⟩

end PriceTracker
