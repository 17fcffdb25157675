import PriceTracker.Proofs.Crawl.Handover
import PriceTracker.Proofs.Delivery.Prices
import PriceTracker.Proofs.Delivery.Tables
import PriceTracker.Proofs.Url.Characters
import PriceTracker.Settings.Validation

/-!
# Provisioning a database

The settings name two tables, which are created in an empty database together with an index on the
days of the price table. Whether that leaves a store which batches can be written to depends on the
names only. Accepted settings have names that are plain and spelled differently
(`DatabaseSettings.names_of_validate`). The database asks for more: it compares names without regard
to case, keeps some for itself, and has one space of names for tables and indexes.

* `Database.createTables_empty`: what there is after the tables were created;
* `Store.verify_ofNamesIndexed`: of two names that differ in case only, one table comes, and the other
  is missed;
* `provisioned_iff_names_apart`: the names with which a store can be provisioned.
-/

namespace PriceTracker

open Storage

/-- Accepted names are plain, and spelled differently. -/
theorem DatabaseSettings.names_of_validate {d : DatabaseSettings} (h : d.validate = .ok ()) :
    isIdentifier d.productTable = true ∧ isIdentifier d.priceTable = true ∧
      d.productTable ≠ d.priceTable := by
  rw [validate] at h
  split at h
  · simp [throw, throwThe, MonadExceptOf.throw, bind, Except.bind] at h
  · next hproduct =>
    dsimp only at h
    split at h
    · simp [throw, throwThe, MonadExceptOf.throw, bind, Except.bind] at h
    · next hprice =>
      split at h
      · simp [throw, throwThe, MonadExceptOf.throw] at h
      · next hsame =>
        exact ⟨by simpa using hproduct, by simpa using hprice, by simpa using hsame⟩

/-- Settings are accepted if each group is. -/
theorem Settings.validate_eq_ok_iff {settings : Settings} :
    settings.validate = .ok () ↔ settings.database.validate = .ok () ∧
      settings.crawl.validate = .ok () ∧ settings.agent.validate = .ok () := by
  constructor
  · intro h
    obtain ⟨_, hdatabase, h⟩ := Url.exists_of_bind_eq_ok h
    obtain ⟨_, hcrawl, hagent⟩ := Url.exists_of_bind_eq_ok h
    exact ⟨hdatabase, hcrawl, hagent⟩
  · rintro ⟨hdatabase, hcrawl, hagent⟩
    rw [validate, hdatabase, hcrawl, hagent]
    rfl

namespace Storage

/-! ## Names -/

namespace Database

theorem length_foldName (name : String) : (foldName name).toList.length = name.toList.length := by
  rw [foldName, String.toList_ofList, List.length_map]

theorem foldName_eq_of_sameName {a b : String} (h : sameName a b = true) :
    foldName a = foldName b := by
  simpa [sameName] using h

/-- The index has a longer name than its table, so these two never clash. -/
theorem sameName_dayIndexName (name : String) : sameName name (dayIndexName name) = false := by
  by_contra hsame
  have hfold := foldName_eq_of_sameName ((Bool.not_eq_false _).mp hsame)
  have hlength : (foldName name).toList.length = (foldName (dayIndexName name)).toList.length := by
    rw [hfold]
  have hindex : dayIndexName name = "idx_" ++ name ++ "_scraped_at" := rfl
  rw [length_foldName, length_foldName, hindex, String.toList_append, String.toList_append,
    List.length_append, List.length_append] at hlength
  have hidx : "idx_".toList.length = 4 := rfl
  omega

/-! ## Creating the tables -/

variable {product price : String}

/-- Both tables in a database, or one of them if their names are the same to the database. -/
def ofNames (product price : String) : Database where
  tables := ⟨product, .products []⟩ ::
    if sameName product price then [] else [⟨price, .prices []⟩]

/-- The same with the index on the days. -/
def ofNamesIndexed (product price : String) : Database :=
  { ofNames product price with indexes := [⟨dayIndexName price, price⟩] }

theorem find?_ofNames (product price name : String) :
    (ofNames product price).find? name =
      if sameName product name then some (.products [])
      else if sameName price name then some (.prices []) else none := by
  cases hsame : sameName product price with
  | true =>
    rw [← sameName_trans hsame name]
    cases hname : sameName product name <;> simp [find?, ofNames, hsame, hname]
  | false =>
    cases hname : sameName product name <;> cases hprice : sameName price name <;>
      simp [find?, ofNames, hsame, hname, hprice]

/-- Reserved names are refused. -/
theorem isReserved_of_createTable {name : String} {empty : Table} {db db' : Database}
    (h : createTable name empty db = .ok db') : isReserved name = false := by
  cases hname : isReserved name with
  | false => rfl
  | true => simp [createTable, hname] at h

theorem createTable_product (product : String) (h : isReserved product = false) :
    createTable product (.products []) {} = .ok { tables := [⟨product, .products []⟩] } := by
  simp [createTable, h, find?, hasIndex]

theorem createTable_price (product price : String) (h : isReserved price = false) :
    createTable price (.prices []) { tables := [⟨product, .products []⟩] } =
      .ok (ofNames product price) := by
  cases hsame : sameName product price <;>
    simp [createTable, h, find?, hasIndex, ofNames, hsame]

/-- **The tables in an empty database**, if no name is reserved. The index is refused if the product
table has its name. -/
theorem createTables_empty (hproduct : isReserved product = false)
    (hprice : isReserved price = false) :
    createTables product price {} =
      if sameName product (dayIndexName price) then
        (.error (.nameTaken (dayIndexName price)), ofNames product price)
      else (.ok (), ofNamesIndexed product price) := by
  have hindex := find?_ofNames product price (dayIndexName price)
  have htable := find?_ofNames product price price
  rw [sameName_dayIndexName] at hindex
  rw [sameName_self] at htable
  simp only [createTables, runAll, createTable_product product hproduct,
    createTable_price product price hprice, createIndex, hindex, htable]
  cases hclash : sameName product (dayIndexName price) <;>
    cases hsame : sameName product price <;> simp [hasIndex, ofNames, ofNamesIndexed]

theorem isReserved_of_createTables {db : Database}
    (h : createTables product price {} = (.ok (), db)) :
    isReserved product = false ∧ isReserved price = false := by
  obtain ⟨db₁, hdb₁, hrun⟩ := runAll_cons_ok h
  obtain ⟨db₂, hdb₂, -⟩ := runAll_cons_ok hrun
  exact ⟨isReserved_of_createTable hdb₁, isReserved_of_createTable hdb₂⟩

end Database

namespace Store

open Database

/-- The tables of the first store are created, which gives the second one. There they are found, and
each batch of records of product blocks can be written: of each key the first product row goes to the
product table and the first price row to the price table. -/
structure Provisioned (s made : Store) : Prop where
  created : s.createTables = (.ok (), made)
  verified : made.verify = .ok ()
  writes (day : Date) {batch : List ProductRecord} (read : ∀ r ∈ batch, r.IsRead) :
    ∃ rows written, batch.mapM (ProductRecord.priceRow? day) = some rows ∧
      let products := firstBy ProductRow.key (batch.map ProductRow.ofRecord)
      let prices := firstBy PriceRow.key rows
      made.writeBatch day batch = (.ok ⟨products.length, prices.length⟩, written) ∧
        written.Holds products prices

/-- The names of the two tables and of the index are free for use, and no two of them are the same
to the database. -/
structure NamesApart (s : Store) : Prop where
  product : isReserved s.productTable = false
  price : isReserved s.priceTable = false
  tables : sameName s.productTable s.priceTable = false
  index : sameName s.productTable (dayIndexName s.priceTable) = false

variable {s made : Store}

/-- **Of two names that differ in case only, the second is missed.** One table was created for both,
under the spelling of the product table. -/
theorem verify_ofNamesIndexed (ne : s.productTable ≠ s.priceTable) :
    ({ s with database := ofNamesIndexed s.productTable s.priceTable } : Store).verify =
      if sameName s.productTable s.priceTable then .error (.missingTable s.priceTable)
      else .ok () := by
  cases hsame : sameName s.productTable s.priceTable <;>
    simp [verify, hasTable, ofNamesIndexed, ofNames, hsame, ne]

theorem createTables_of_database_eq (empty : s.database = {})
    (hproduct : isReserved s.productTable = false) (hprice : isReserved s.priceTable = false)
    (hindex : sameName s.productTable (dayIndexName s.priceTable) = false) :
    s.createTables =
      (.ok (), { s with database := ofNamesIndexed s.productTable s.priceTable }) := by
  rw [createTables, empty, createTables_empty hproduct hprice, hindex]
  rfl

/-- The tables are created only if no name is reserved and the index has a name of its own. -/
theorem free_of_createTables (empty : s.database = {}) (h : s.createTables = (.ok (), made)) :
    isReserved s.productTable = false ∧ isReserved s.priceTable = false ∧
      sameName s.productTable (dayIndexName s.priceTable) = false := by
  generalize hrun : s.database.createTables s.productTable s.priceTable = result at h
  obtain ⟨result, db⟩ := result
  rw [createTables, hrun] at h
  cases result with
  | error fault => simp [onDatabase, Except.mapError] at h
  | ok =>
    rw [empty] at hrun
    obtain ⟨hproduct, hprice⟩ := isReserved_of_createTables hrun
    refine ⟨hproduct, hprice, ?_⟩
    rw [createTables_empty hproduct hprice] at hrun
    by_contra hindex
    rw [if_pos ((Bool.not_eq_false _).mp hindex)] at hrun
    simp at hrun

/-- **A store can be provisioned in an empty database exactly if its names are apart.** -/
theorem provisioned_iff (empty : s.database = {}) (ne : s.productTable ≠ s.priceTable) :
    (∃ made, s.Provisioned made) ↔ s.NamesApart := by
  constructor
  · rintro ⟨made, h⟩
    obtain ⟨hproduct, hprice, hindex⟩ := free_of_createTables empty h.created
    refine ⟨hproduct, hprice, ?_, hindex⟩
    have hmade := (createTables_of_database_eq empty hproduct hprice hindex).symm.trans h.created
    obtain ⟨-, rfl⟩ := Prod.mk.inj hmade
    have hverify := h.verified
    rw [verify_ofNamesIndexed ne] at hverify
    by_contra hsame
    rw [if_pos ((Bool.not_eq_false _).mp hsame)] at hverify
    simp at hverify
  · intro h
    have hcreated := createTables_of_database_eq empty h.product h.price h.index
    refine ⟨_, hcreated, ?_, fun day batch read => ?_⟩
    · rw [verify_ofNamesIndexed ne, h.tables]
      rfl
    · have hnone : ∀ name, s.database.find? name = none := by
        intro name
        rw [empty]
        rfl
      have hholds := holds_createTables (hnone _) (hnone _) h.tables hcreated
      have hpriced : ∀ r ∈ batch, r.currentPrice.isNaN = false := by
        intro r hr
        obtain ⟨raw, hraw⟩ := read r hr
        exact ProductRecord.isNaN_of_ofRaw hraw
      obtain ⟨rows, hrows⟩ := exists_mapM_priceRow? hpriced day
      obtain ⟨db, hwrite, hwritten⟩ := writeBatch_of_holds hholds hrows
      rw [newRows_nil, newRows_nil] at hwrite hwritten
      exact ⟨rows, _, hrows, hwrite, hwritten⟩

end Store

end Storage

/-- **When accepted settings can be provisioned.** The names of the tables are accepted, so a store
with them opens on an empty database. Its tables can be created, are found then, and take each batch
of records of product blocks, exactly if neither name is reserved and if the product table has, case
aside, the name neither of the price table nor of the index on it. The rules for settings see to the
spelling only and let through names for which one of these does not hold. -/
theorem provisioned_iff_names_apart {settings : Settings} (accepted : settings.validate = .ok ()) :
    let product := settings.database.productTable
    let price := settings.database.priceTable
    ∃ s, Store.connect (.ok {}) product price = .ok s ∧ s.productTable = product ∧
      s.priceTable = price ∧ ((∃ made, s.Provisioned made) ↔ s.NamesApart) := by
  intro product price
  obtain ⟨hproduct, hprice, ne⟩ :=
    DatabaseSettings.names_of_validate (Settings.validate_eq_ok_iff.1 accepted).1
  refine ⟨⟨{}, product, price, hproduct, hprice⟩, ?_, rfl, rfl, Store.provisioned_iff rfl ne⟩
  rw [Store.connect, dif_pos hproduct, dif_pos hprice]

/-- Accepted settings for a table of each kind. -/
theorem validate_of_names {product price : String}
    (h : DatabaseSettings.validate ⟨"prices.db", product, price⟩ = .ok ()) :
    Settings.validate { database := ⟨"prices.db", product, price⟩
                        crawl := { startUrl := "http://[::1]/" }
                        agent := { name := "-" } } = .ok () := by
  have hcrawl : CrawlSettings.validate { startUrl := "http://[::1]/" } = .ok () := by
    decide +kernel
  have hchar : isAgentNameChar '-' = true := by
    rw [isAgentNameChar, beq_self_eq_true, Bool.or_true]
  have hagent : AgentSettings.validate { name := "-" } = .ok () := by
    simp [AgentSettings.validate, hchar, pure, Except.pure]
  exact Settings.validate_eq_ok_iff.2 ⟨h, hcrawl, hagent⟩

/-- The usual names are apart. -/
theorem products_and_prices_provisioned :
    let settings : Settings :=
      { database := ⟨"prices.db", "products", "prices"⟩
        crawl := { startUrl := "http://[::1]/" }
        agent := { name := "-" } }
    settings.validate = .ok () ∧
      ∃ s, Store.connect (.ok {}) "products" "prices" = .ok s ∧ s.productTable = "products" ∧
        s.priceTable = "prices" ∧ ((∃ made, s.Provisioned made) ↔ s.NamesApart) ∧
        ∃ made, s.Provisioned made := by
  intro settings
  have accepted : settings.validate = .ok () := validate_of_names (by decide +kernel)
  obtain ⟨s, hconnect, hproduct, hprice, hiff⟩ := provisioned_iff_names_apart accepted
  have apart : s.NamesApart := by
    refine ⟨?_, ?_, ?_, ?_⟩ <;> simp only [hproduct, hprice] <;> decide +kernel
  exact ⟨accepted, s, hconnect, hproduct, hprice, hiff, hiff.2 apart⟩

/-- Two names that differ in case are accepted. Their tables are said to be created, but only one
is there, so the other is not found and no price can be written. -/
theorem names_differing_in_case_not_provisioned :
    let settings : Settings :=
      { database := ⟨"prices.db", "Prices", "prices"⟩
        crawl := { startUrl := "http://[::1]/" }
        agent := { name := "-" } }
    let day : Date := ⟨2026, 10, 16, by decide⟩
    let bell : ProductRecord := ⟨"shop", "1", "Bell", "/1", none, 99, none, true, "CZK"⟩
    let s : Store := ⟨{}, "Prices", "prices", by decide, by decide⟩
    settings.validate = .ok () ∧ Store.connect (.ok {}) "Prices" "prices" = .ok s ∧
      s.createTables.1 = .ok () ∧ s.createTables.2.verify = .error (.missingTable "prices") ∧
      (s.createTables.2.writeBatch day [bell]).1 =
        .error ⟨"prices", .database (.noSuchColumn "prices" "scrapedAt")⟩ ∧
      ¬∃ made, s.Provisioned made := by
  intro settings day bell s
  have accepted : settings.validate = .ok () := validate_of_names (by decide +kernel)
  have hcreated : s.createTables.1 = .ok () := by decide +kernel
  have hverify : s.createTables.2.verify = .error (.missingTable "prices") := by decide +kernel
  have hwrite : (s.createTables.2.writeBatch day [bell]).1 =
      .error ⟨"prices", .database (.noSuchColumn "prices" "scrapedAt")⟩ := by decide +kernel
  refine ⟨accepted, rfl, hcreated, hverify, hwrite, ?_⟩
  rintro ⟨made, h⟩
  have hmade : made.verify = .error (.missingTable "prices") := by
    rw [h.created] at hverify
    exact hverify
  rw [h.verified] at hmade
  simp at hmade

end PriceTracker
