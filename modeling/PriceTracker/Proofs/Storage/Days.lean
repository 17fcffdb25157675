import Mathlib.Data.String.Basic
import PriceTracker.Proofs.Storage.FailedWrites
import PriceTracker.Proofs.Calendar.Writing

/-!
# Days in a price table

A price table keeps the day of a price as a text, in which the database sees nothing but
characters: a row is new if its product has no row with the same text, and the latest day is the
greatest text.

* `days_are_told_apart`: the texts read back, so a product has one row for each day and different
  days never meet in a row;
* `Filled` is a sequence of inserts that all succeed, and `Filled.exists_rows` says which rows a
  table has then;
* `latest_day_is_latest`: the greatest text is the one of the latest day, as long as the years have
  four digits, and it is the text of a kept day in any case.
-/

namespace PriceTracker.Storage

/-! ## Keys of snapshots -/

namespace Snapshot

variable {x y : Snapshot} {row : PriceRow}

/-- The key under which a snapshot is kept. -/
def key (x : Snapshot) : PriceKey := ⟨⟨x.shop, x.pid⟩, x.day.text⟩

theorem key_of_row? (h : x.row? = some row) : row.key = x.key := by
  obtain ⟨price, -, rfl⟩ := Option.map_eq_some_iff.1 h
  rfl

theorem map_key_of_mapM {snapshots : List Snapshot} {rows : List PriceRow}
    (h : snapshots.mapM row? = some rows) : rows.map PriceRow.key = snapshots.map key :=
  map_eq_map_of_mapM (fun _ _ => key_of_row?) h

/-- Snapshots of one product are told apart by their days. -/
theorem key_eq_key_iff (shop : x.shop = y.shop) (pid : x.pid = y.pid) :
    x.key = y.key ↔ x.day = y.day := by
  rw [key, key, shop, pid, PriceKey.mk.injEq, Date.text_injective.eq_iff]
  exact and_iff_right rfl

end Snapshot

namespace Store

variable {s s' t : Store} {old : List PriceRow} {snapshots : List Snapshot} {n : ℕ}

/-! ## Inserts that succeed -/

/-- An insert that succeeds has rows of all its snapshots, and adds those whose keys are new. -/
theorem priceRows?_of_insertSnapshots_ok (table : s.database.priceRows? s.priceTable = some old)
    (h : s.insertSnapshots snapshots = (.ok n, s')) :
    ∃ rows, snapshots.mapM Snapshot.row? = some rows ∧
      n = (newRows PriceRow.key old rows).length ∧ s'.priceTable = s.priceTable ∧
      s'.database.priceRows? s.priceTable = some (rows.foldl (insertNew PriceRow.key) old) := by
  obtain ⟨rows, hrows⟩ := exists_mapM_row?_iff.2 (isNaN_of_insertSnapshots_ok h)
  obtain ⟨db, hdb, htable, -⟩ :=
    insertSnapshots_of_prices (Database.priceRows?_eq_some.1 table) hrows
  obtain ⟨hn, rfl⟩ := Prod.mk.inj (h.symm.trans hdb)
  exact ⟨rows, hrows, Except.ok.inj hn, rfl, Database.priceRows?_eq_some.2 htable⟩

theorem insertSnapshots_succeeds_iff (table : s.database.priceRows? s.priceTable = some old) :
    (∃ n s', s.insertSnapshots snapshots = (.ok n, s')) ↔
      ∀ x ∈ snapshots, x.currentPrice.isNaN = false := by
  constructor
  · rintro ⟨n, s', h⟩
    exact isNaN_of_insertSnapshots_ok h
  · intro hnumbers
    obtain ⟨rows, hrows⟩ := exists_mapM_row?_iff.2 hnumbers
    obtain ⟨db, hdb, -⟩ := insertSnapshots_of_prices (Database.priceRows?_eq_some.1 table) hrows
    exact ⟨_, _, hdb⟩

/-- **Days read back from their texts and are told apart by them**, whatever their years are. So
snapshots of one product on different days, none of which is in the table, are all added if the
insert succeeds, and it does if and only if all of them have prices that are numbers. -/
theorem days_are_told_apart :
    (∀ day : Date, Date.read day.text = .ok day) ∧
    (∀ x : Snapshot, ∀ row ∈ x.row?,
      row.key = x.key ∧ Date.read row.scrapedAt = .ok x.day) ∧
    (∀ x y : Snapshot, x.shop = y.shop → x.pid = y.pid → (x.key = y.key ↔ x.day = y.day)) ∧
    ∀ (s : Store) (old : List PriceRow), s.database.priceRows? s.priceTable = some old →
      ∀ (product : ProductKey) (snapshots : List Snapshot),
        (∀ x ∈ snapshots, x.key.product = product) → (snapshots.map Snapshot.day).Nodup →
        (∀ x ∈ snapshots, x.key ∉ old.map PriceRow.key) →
        ((∃ n s', s.insertSnapshots snapshots = (.ok n, s')) ↔
          ∀ x ∈ snapshots, x.currentPrice.isNaN = false) ∧
        ∀ n s', s.insertSnapshots snapshots = (.ok n, s') →
          n = snapshots.length ∧ ∃ rows, snapshots.mapM Snapshot.row? = some rows ∧
            s'.database.priceRows? s.priceTable = some (old ++ rows) := by
  refine ⟨Date.read_text, fun x row hrow => ?_, fun x y => Snapshot.key_eq_key_iff, ?_⟩
  · have hkey := Snapshot.key_of_row? hrow
    refine ⟨hkey, ?_⟩
    rw [show row.scrapedAt = x.day.text from congrArg PriceKey.scrapedAt hkey, Date.read_text]
  · intro s old table product snapshots hproduct hdays hnew
    refine ⟨insertSnapshots_succeeds_iff table, fun n s' h => ?_⟩
    obtain ⟨rows, hrows, rfl, -, htable⟩ := priceRows?_of_insertSnapshots_ok table h
    have hkeys := Snapshot.map_key_of_mapM hrows
    have hnodup : (rows.map PriceRow.key).Nodup := by
      rw [hkeys]
      refine List.Nodup.map_on (fun x hx y hy hxy => ?_) (List.Nodup.of_map _ hdays)
      have hsame : x.key.product = y.key.product := (hproduct x hx).trans (hproduct y hy).symm
      obtain ⟨hshop, hpid⟩ := ProductKey.mk.inj hsame
      exact List.inj_on_of_nodup_map hdays hx hy ((Snapshot.key_eq_key_iff hshop hpid).1 hxy)
    have hall : newRows PriceRow.key old rows = rows := by
      refine newRows_of_nodup hnodup fun row hrow hmem => ?_
      have hkey := List.mem_map_of_mem (f := PriceRow.key) hrow
      rw [hkeys] at hkey
      obtain ⟨x, hx, hxrow⟩ := List.mem_map.1 hkey
      exact hnew x hx (hxrow ▸ hmem)
    refine ⟨?_, rows, hrows, ?_⟩
    · rw [hall, ← List.length_map PriceRow.key, hkeys, List.length_map]
    · rw [htable, foldl_insertNew, hall]

/-- The days are far apart in years, of which only one has four digits. -/
theorem bells_of_three_millennia :
    let bell (day : Date) : Snapshot := ⟨"shop", "1", day, 99, none, true⟩
    let days : List Date :=
      [⟨-44, 3, 15, by decide⟩, ⟨2026, 10, 16, by decide⟩, ⟨12026, 10, 16, by decide⟩]
    (days.map bell).map (·.day.text) = ["-0044-03-15", "2026-10-16", "+12026-10-16"] ∧
      (days.map Date.text).map Date.read = days.map .ok ∧
      ∃ s', blank.insertSnapshots (days.map bell) = (.ok 3, s') ∧
        ∃ rows, s'.database.priceRows? "prices" = some rows ∧ rows.length = 3 := by
  intro bell days
  obtain ⟨hread, -, -, hinsert⟩ := days_are_told_apart
  have table := Database.priceRows?_eq_some.2 holds_blank.prices
  obtain ⟨hiff, hkept⟩ := hinsert blank [] table ⟨"shop", "1"⟩ (days.map bell) (by decide +kernel)
    (by decide +kernel) (by simp)
  obtain ⟨n, s', h⟩ := hiff.2 (by decide +kernel)
  obtain ⟨rfl, rows, hrows, htable⟩ := hkept n s' h
  have hlength := congrArg List.length (Snapshot.map_key_of_mapM hrows)
  refine ⟨by decide +kernel, ?_, s', h, rows, htable, ?_⟩
  · rw [List.map_map]
    exact List.map_congr_left fun day _ => hread day
  · rwa [List.length_map, List.length_map] at hlength

/-! ## Sequences of inserts -/

/-- A store is filled by inserts of snapshots that all succeed. -/
inductive Filled (s : Store) : List (List Snapshot) → Store → Prop where
  | unchanged : Filled s [] s
  | insert {calls : List (List Snapshot)} {t t' : Store} {snapshots : List Snapshot} {n : ℕ}
      (before : Filled s calls t) (h : t.insertSnapshots snapshots = (.ok n, t')) :
      Filled s (calls ++ [snapshots]) t'

variable {calls : List (List Snapshot)}

/-- Into an empty table, many inserts put the same rows as one. -/
theorem Filled.exists_rows (filled : s.Filled calls t)
    (table : s.database.priceRows? s.priceTable = some []) :
    t.priceTable = s.priceTable ∧ ∃ rows, calls.flatten.mapM Snapshot.row? = some rows ∧
      t.database.priceRows? t.priceTable = some (firstBy PriceRow.key rows) := by
  induction filled with
  | unchanged => exact ⟨rfl, [], rfl, table⟩
  | @insert calls t t' snapshots n before h ih =>
    obtain ⟨hname, rows, hrows, htable⟩ := ih
    obtain ⟨more, hmore, -, hname', htable'⟩ := priceRows?_of_insertSnapshots_ok htable h
    refine ⟨hname'.trans hname, rows ++ more, ?_, ?_⟩
    · rw [List.flatten_concat, List.mapM_append, hrows, hmore]
      rfl
    · rw [hname', htable', ← Database.foldl_insertNew_nil, ← Database.foldl_insertNew_nil,
        List.foldl_append]

/-- The first row of each key keeps the days of all rows. -/
theorem mem_scrapedAt_firstBy {rows : List PriceRow} {text : String}
    (h : snapshots.mapM Snapshot.row? = some rows) :
    text ∈ (firstBy PriceRow.key rows).map PriceRow.scrapedAt ↔
      ∃ x ∈ snapshots, x.day.text = text := by
  have hkey : ∀ l : List PriceRow,
      l.map PriceRow.scrapedAt = (l.map PriceRow.key).map PriceKey.scrapedAt := by
    intro l
    rw [List.map_map]
    rfl
  calc text ∈ (firstBy PriceRow.key rows).map PriceRow.scrapedAt
    _ ↔ ∃ k ∈ (firstBy PriceRow.key rows).map PriceRow.key, k.scrapedAt = text := by
      rw [hkey, List.mem_map]
    _ ↔ ∃ k ∈ snapshots.map Snapshot.key, k.scrapedAt = text := by
      simp only [mem_map_firstBy, Snapshot.map_key_of_mapM h]
    _ ↔ ∃ x ∈ snapshots, x.day.text = text := by
      simp only [List.mem_map, exists_exists_and_eq_and, Snapshot.key]

/-! ## The latest day -/

theorem greatest?_eq_max? (texts : List String) : Database.greatest? texts = texts.max? := by
  cases texts with
  | nil => rfl
  | cons t texts =>
    rw [List.max?_cons', Database.greatest?, List.foldl_cons]
    refine List.foldl_hom some fun best u => ?_
    dsimp only
    split
    · next h => rw [max_eq_right h.le]
    · next h => rw [max_eq_left (not_lt.1 h)]

/-- If rows keep days, the day with the greatest text comes back. -/
theorem latestDay_of_days {rows : List PriceRow} {days : List Date}
    (table : s.database.priceRows? s.priceTable = some rows)
    (hdays : rows.map PriceRow.scrapedAt = days.map Date.text) :
    ∃ latest, s.latestDay = .ok latest ∧ (latest = none ↔ rows = []) ∧
      ∀ day ∈ latest, day ∈ days ∧ ∀ d ∈ days, d.text ≤ day.text := by
  have hgreatest : s.database.greatestDay? s.priceTable = .ok (days.map Date.text).max? := by
    rw [Database.greatestDay?, Database.priceRows?_eq_some.1 table, ← hdays, ← greatest?_eq_max?]
  cases hmax : (days.map Date.text).max? with
  | none =>
    refine ⟨none, by rw [latestDay, hgreatest, hmax], iff_of_true rfl ?_, by simp⟩
    rwa [← hdays, List.max?_eq_none_iff, List.map_eq_nil_iff] at hmax
  | some text =>
    obtain ⟨hmem, hle⟩ := List.max?_eq_some_iff.1 hmax
    obtain ⟨day, hday, rfl⟩ := List.mem_map.1 hmem
    refine ⟨some day, ?_, iff_of_false nofun ?_, ?_⟩
    · rw [latestDay, hgreatest, hmax]
      dsimp only
      rw [day.read_text]
    · rintro rfl
      rw [← hdays] at hmem
      exact absurd hmem List.not_mem_nil
    · rintro _ ⟨⟩
      exact ⟨hday, fun d hd => hle _ (List.mem_map_of_mem hd)⟩

theorem eq_or_isBefore_of_text_le {a b : Date} (ha : 0 ≤ a.year ∧ a.year ≤ 9999)
    (hb : 0 ≤ b.year ∧ b.year ≤ 9999) (h : a.text ≤ b.text) : a = b ∨ a.isBefore b = true := by
  obtain hlt | heq := h.lt_or_eq
  · exact Or.inr ((Date.text_lt_text_iff ha hb).1 hlt)
  · exact Or.inl (Date.text_injective heq)

/-- A table that was created by the store holds no rows at first. -/
theorem priceRows?_createTables {rows : List PriceRow}
    (missing : s.database.find? s.priceTable = none)
    (created : s.createTables.2.database.priceRows? s.priceTable = some rows) : rows = [] := by
  have hgrows := s.grows_createTables s.priceTable
  rw [missing, Database.priceRows?_eq_some.1 created] at hgrows
  obtain ⟨empty, hempty, heq⟩ := hgrows.eq_of_none
  obtain rfl : Table.prices rows = empty := heq.trans empty.add_nil
  exact List.length_eq_zero_iff.1 hempty

/-- **The latest day of a price table is a day that was stored, and the latest one if the years have
four digits.** The table may have been filled by any inserts, in any order of their days and with
keys that are repeated. There is no latest day only if it is empty. -/
theorem latest_day_is_latest {new : List PriceRow}
    (missing : s.database.find? s.priceTable = none)
    (created : s.createTables.2.database.priceRows? s.priceTable = some new)
    (filled : s.createTables.2.Filled calls t) :
    ∃ (rows : List PriceRow) (days : List Date) (latest : Option Date),
      t.database.priceRows? t.priceTable = some rows ∧
      rows.map PriceRow.scrapedAt = days.map Date.text ∧
      (∀ day, day ∈ days ↔ ∃ x ∈ calls.flatten, x.day = day) ∧
      t.latestDay = .ok latest ∧ (latest = none ↔ rows = []) ∧
      ∀ day ∈ latest, day ∈ days ∧
        ((∀ d ∈ days, 0 ≤ d.year ∧ d.year ≤ 9999) →
          ∀ d ∈ days, d = day ∨ d.isBefore day = true) := by
  obtain rfl := priceRows?_createTables missing created
  obtain ⟨-, all, hall, htable⟩ := filled.exists_rows created
  have hstored : ∀ text, text ∈ (firstBy PriceRow.key all).map PriceRow.scrapedAt ↔
      ∃ x ∈ calls.flatten, x.day.text = text := fun _ => mem_scrapedAt_firstBy hall
  obtain ⟨days, hdays⟩ : (firstBy PriceRow.key all).map PriceRow.scrapedAt ∈
      Set.range (List.map Date.text) := by
    rw [Set.range_list_map]
    intro text htext
    obtain ⟨x, -, hx⟩ := (hstored text).1 htext
    exact ⟨x.day, hx⟩
  obtain ⟨latest, hlatest, hnone, hmax⟩ := latestDay_of_days htable hdays.symm
  refine ⟨_, days, latest, htable, hdays.symm, fun day => ?_, hlatest, hnone, fun day hday => ?_⟩
  · rw [← List.mem_map_of_injective Date.text_injective, hdays, hstored]
    simp only [Date.text_injective.eq_iff]
  · obtain ⟨hmem, hle⟩ := hmax day hday
    exact ⟨hmem, fun hyears d hd => eq_or_isBefore_of_text_le (hyears d hd) (hyears day hmem)
      (hle d hd)⟩

/-- The last insert is of an earlier day, and it has a bell that is priced already. -/
theorem latest_of_two_days :
    let first : Date := ⟨2026, 10, 15, by decide⟩
    let second : Date := ⟨2026, 10, 16, by decide⟩
    let bell (day : Date) (price : Float) : Snapshot := ⟨"shop", "1", day, price, none, true⟩
    let lamp (day : Date) : Snapshot := ⟨"shop", "2", day, 249, none, true⟩
    let s : Store := ⟨{}, "products", "prices", by decide, by decide⟩
    let calls := [[bell second 99, lamp second], [lamp first, bell second 80]]
    ∃ t, s.database.find? s.priceTable = none ∧
      s.createTables.2.database.priceRows? s.priceTable = some [] ∧
      s.createTables.2.Filled calls t ∧ t.countSnapshots = .ok 3 ∧
      t.latestDay = .ok (some second) := by
  intro first second bell lamp s calls
  have created : s.createTables.2.database.priceRows? s.priceTable = some [] :=
    Database.priceRows?_eq_some.2 holds_blank.prices
  let between := (s.createTables.2.insertSnapshots [bell second 99, lamp second]).2
  let t := (between.insertSnapshots [lamp first, bell second 80]).2
  have hbetween : s.createTables.2.insertSnapshots [bell second 99, lamp second] =
      (.ok 2, between) := Prod.ext (by decide +kernel) rfl
  have ht : between.insertSnapshots [lamp first, bell second 80] = (.ok 1, t) :=
    Prod.ext (by decide +kernel) rfl
  have filled : s.createTables.2.Filled calls t := .insert (.insert .unchanged hbetween) ht
  obtain ⟨rows, days, latest, htable, hrows, hdays, hlatest, hnone, hmax⟩ :=
    latest_day_is_latest rfl created filled
  have hsecond : second ∈ days := (hdays second).2 ⟨bell second 99, by simp [calls], rfl⟩
  have htwo : ∀ day ∈ days, day = first ∨ day = second := by
    intro day hday
    obtain ⟨x, hx, rfl⟩ := (hdays day).1 hday
    simp only [calls, List.flatten_cons, List.flatten_nil, List.cons_append, List.nil_append,
      List.mem_cons, List.not_mem_nil, or_false] at hx
    obtain rfl | rfl | rfl | rfl := hx
    · exact Or.inr rfl
    · exact Or.inr rfl
    · exact Or.inl rfl
    · exact Or.inr rfl
  refine ⟨t, rfl, created, filled, by decide +kernel, ?_⟩
  cases latest with
  | none =>
    rw [hnone.1 rfl, List.map_nil, eq_comm, List.map_eq_nil_iff] at hrows
    rw [hrows] at hsecond
    exact absurd hsecond List.not_mem_nil
  | some day =>
    obtain ⟨hmem, hlast⟩ := hmax day rfl
    have hyears : ∀ d ∈ days, 0 ≤ d.year ∧ d.year ≤ 9999 := by
      intro d hd
      obtain rfl | rfl := htwo d hd <;> decide
    obtain rfl | rfl := htwo day hmem
    · exact absurd (hlast hyears second hsecond) (by decide)
    · exact hlatest

end Store

end PriceTracker.Storage
