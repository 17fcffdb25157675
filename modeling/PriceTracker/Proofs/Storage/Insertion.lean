import PriceTracker.Proofs.FirstOccurrences
import PriceTracker.Storage.Store

/-!
# Adding rows

A table takes the first row of each new key: `foldl_insertNew` says what a table is after rows were
added one by one, and `foldl_insertNew_again` that rows which are added once more change nothing.
`Database.insertAll` adds the rows piece by piece, which comes to the same, and leaves all other
tables alone (`Database.Inserts.insertAll_of_some`); one row that cannot be kept fails them all
(`Database.Inserts.insertAll_of_none`).

`Store.Holds` says which rows the two tables of a store hold, and `insertProducts_of_holds` and
`insertSnapshots_of_holds` what the two inserts do to them and answer.
-/

namespace PriceTracker.Storage

/-! ## One row after the other -/

section

variable {ρ κ : Type} [DecidableEq κ] {key : ρ → κ}

/-- The first row of each key that a table does not have. -/
def newRows (key : ρ → κ) (old rows : List ρ) : List ρ :=
  (firstBy key rows).filter fun r => key r ∉ old.map key

/-- In an empty table all keys are new. -/
theorem newRows_nil (rows : List ρ) : newRows key [] rows = firstBy key rows := by
  simp [newRows]

theorem insertNew_of_mem {old : List ρ} {row : ρ} (h : key row ∈ old.map key) :
    insertNew key old row = old := by
  rw [insertNew, if_pos]
  simpa using h

theorem insertNew_of_notMem {old : List ρ} {row : ρ} (h : key row ∉ old.map key) :
    insertNew key old row = old ++ [row] := by
  rw [insertNew, if_neg]
  simpa using h

theorem mem_map_insertNew {k : κ} {old : List ρ} {row : ρ} :
    k ∈ (insertNew key old row).map key ↔ k ∈ old.map key ∨ k = key row := by
  by_cases h : key row ∈ old.map key
  · rw [insertNew_of_mem h]
    exact ⟨Or.inl, fun hk => hk.elim id fun hk => hk ▸ h⟩
  · rw [insertNew_of_notMem h, List.map_append, List.mem_append, List.map_singleton,
      List.mem_singleton]

/-- A table has the keys that it had and those of the added rows. -/
theorem mem_map_foldl_insertNew {k : κ} {old rows : List ρ} :
    k ∈ (rows.foldl (insertNew key) old).map key ↔ k ∈ old.map key ∨ k ∈ rows.map key := by
  induction rows generalizing old with
  | nil => simp
  | cons row rows ih =>
    rw [List.foldl_cons, ih, mem_map_insertNew, List.map_cons, List.mem_cons, or_assoc]

/-- **A table grows by the first row of each new key.** -/
theorem foldl_insertNew (old rows : List ρ) :
    rows.foldl (insertNew key) old = old ++ newRows key old rows := by
  induction rows using List.reverseRecOn with
  | nil => simp [newRows]
  | append_singleton rows row ih =>
    rw [List.foldl_append, List.foldl_cons, List.foldl_nil]
    by_cases hrow : key row ∈ rows.map key
    · rw [insertNew_of_mem (mem_map_foldl_insertNew.2 (Or.inr hrow)), ih, newRows, newRows,
        firstBy_concat_of_mem hrow]
    · by_cases hold : key row ∈ old.map key
      · rw [insertNew_of_mem (mem_map_foldl_insertNew.2 (Or.inl hold)), ih, newRows, newRows,
          firstBy_concat_of_notMem hrow, List.filter_append]
        simpa using hold
      · have hnew : key row ∉ (rows.foldl (insertNew key) old).map key := by
          rw [mem_map_foldl_insertNew]
          exact fun h => h.elim hold hrow
        rw [insertNew_of_notMem hnew, ih, newRows, newRows, firstBy_concat_of_notMem hrow,
          List.filter_append, List.append_assoc, List.filter_singleton]
        simp only [hold, not_false_eq_true, decide_true, cond_true]

theorem prefix_foldl_insertNew (old rows : List ρ) :
    old <+: rows.foldl (insertNew key) old := by
  rw [foldl_insertNew]
  exact List.prefix_append _ _

/-- Rows whose keys are all there change nothing. -/
theorem foldl_insertNew_of_subset {old rows : List ρ} (h : ∀ r ∈ rows, key r ∈ old.map key) :
    rows.foldl (insertNew key) old = old := by
  induction rows with
  | nil => rfl
  | cons row rows ih =>
    rw [List.foldl_cons, insertNew_of_mem (h row List.mem_cons_self)]
    exact ih fun r hr => h r (List.mem_cons_of_mem _ hr)

/-- Of rows whose keys are all there, none is new. -/
theorem newRows_of_subset {old rows : List ρ} (h : ∀ r ∈ rows, key r ∈ old.map key) :
    newRows key old rows = [] := by
  have hall : rows.foldl (insertNew key) old = old ++ newRows key old rows :=
    foldl_insertNew old rows
  rw [foldl_insertNew_of_subset h] at hall
  exact List.self_eq_append_right.1 hall

/-- Rows are all new if no two of them have the same key and the table has none of their keys. -/
theorem newRows_of_nodup {old rows : List ρ} (nodup : (rows.map key).Nodup)
    (h : ∀ r ∈ rows, key r ∉ old.map key) : newRows key old rows = rows := by
  rw [newRows, firstBy_of_nodup nodup, List.filter_eq_self]
  exact fun r hr => decide_eq_true (h r hr)

/-- A table grows by as many rows as are new. -/
theorem length_foldl_insertNew_sub (old rows : List ρ) :
    (rows.foldl (insertNew key) old).length - old.length = (newRows key old rows).length := by
  rw [foldl_insertNew, List.length_append, Nat.add_sub_cancel_left]

/-- The row of a key is the one that was there, or else the first one that was added. -/
theorem find?_append_newRows (old rows : List ρ) (k : κ) :
    (old ++ newRows key old rows).find? (fun r => key r = k) =
      (old.find? fun r => key r = k).or (rows.find? fun r => key r = k) := by
  rw [List.find?_append]
  cases hold : old.find? fun r => key r = k with
  | some row => rfl
  | none =>
    have hk : k ∉ old.map key := by
      rw [List.mem_map]
      rintro ⟨r, hr, hrk⟩
      simpa [hrk] using List.find?_eq_none.1 hold r hr
    rw [newRows, List.find?_filter, Option.none_or, Option.none_or, ← find?_firstBy k rows]
    congr 1
    funext r
    by_cases hr : key r = k
    · simp [hr, hk]
    · simp [hr]

/-- Adding rows of which the first ones were added before is the same as adding all of them now. -/
theorem foldl_insertNew_again {rows done : List ρ} (h : done <+: rows) (old : List ρ) :
    rows.foldl (insertNew key) (done.foldl (insertNew key) old) =
      rows.foldl (insertNew key) old := by
  obtain ⟨rest, rfl⟩ := h
  have hdone : done.foldl (insertNew key) (done.foldl (insertNew key) old) =
      done.foldl (insertNew key) old :=
    foldl_insertNew_of_subset fun r hr =>
      mem_map_foldl_insertNew.2 (Or.inr (List.mem_map_of_mem hr))
  rw [List.foldl_append, List.foldl_append, hdone]

end

/-! ## Snapshots that can be kept -/

theorem storedReal?_eq_none_iff {x : Float} : storedReal? x = none ↔ x.isNaN = true := by
  rw [storedReal?]
  split
  · next hnan => exact iff_of_true rfl hnan
  · next hnumber => exact iff_of_false (by split <;> simp) hnumber

theorem Snapshot.row?_eq_none_iff {snapshot : Snapshot} :
    snapshot.row? = none ↔ snapshot.currentPrice.isNaN = true := by
  rw [row?, Option.map_eq_none_iff, storedReal?_eq_none_iff]

/-- The number that is kept of a price: it has the same bits, but that a zero has no sign. -/
structure IsKept (x kept : Float) : Prop where
  isNaN : x.isNaN = false
  of_zero (h : x == 0) : kept = 0
  eq (h : (x == 0) = false) : kept = x

/-- What is kept of a price that may be missing; it goes missing if it is no number. -/
inductive IsKeptIfNumber : Option Float → Option Float → Prop where
  | missing : IsKeptIfNumber none none
  | noNumber {x : Float} (h : x.isNaN = true) : IsKeptIfNumber (some x) none
  | number {x kept : Float} (h : IsKept x kept) : IsKeptIfNumber (some x) (some kept)

/-- The row says all that the snapshot says, with the day as a text. -/
structure Snapshot.IsKeptAs (x : Snapshot) (row : PriceRow) : Prop where
  shop : row.shop = x.shop
  pid : row.pid = x.pid
  scrapedAt : row.scrapedAt = x.day.text
  currentPrice : IsKept x.currentPrice row.currentPrice
  originalPrice : IsKeptIfNumber x.originalPrice row.originalPrice
  inStock : row.inStock = x.inStock

theorem isKept_of_storedReal? {x kept : Float} (h : storedReal? x = some kept) :
    IsKept x kept := by
  unfold storedReal? at h
  split at h
  · cases h
  · next hnumber =>
    split at h
    · next hzero =>
      exact ⟨by simpa using hnumber, fun _ => (Option.some.inj h).symm, by simp [hzero]⟩
    · next hzero =>
      exact ⟨by simpa using hnumber, fun h => absurd h hzero, fun _ => (Option.some.inj h).symm⟩

theorem isKeptIfNumber_bind (x : Option Float) : IsKeptIfNumber x (x.bind storedReal?) := by
  cases x with
  | none => exact .missing
  | some x =>
    rw [Option.bind_some]
    cases hkept : storedReal? x with
    | none => exact .noNumber (storedReal?_eq_none_iff.1 hkept)
    | some kept => exact .number (isKept_of_storedReal? hkept)

theorem Snapshot.isKeptAs_of_row? {x : Snapshot} {row : PriceRow} (h : x.row? = some row) :
    x.IsKeptAs row := by
  obtain ⟨price, hprice, rfl⟩ := Option.map_eq_some_iff.1 h
  exact ⟨rfl, rfl, rfl, isKept_of_storedReal? hprice, isKeptIfNumber_bind _, rfl⟩

theorem mapM_eq_none_iff {α β : Type} {f : α → Option β} {l : List α} :
    l.mapM f = none ↔ ∃ a ∈ l, f a = none := by
  induction l with
  | nil => simp
  | cons a l ih =>
    rw [List.mapM_cons, List.exists_mem_cons_iff, ← ih]
    cases f a with
    | none => simp
    | some b => cases l.mapM f <;> simp

theorem mapM_cons_eq_some_iff {α β : Type} {f : α → Option β} {a : α} {l : List α} {bs : List β} :
    (a :: l).mapM f = some bs ↔ ∃ b rest, f a = some b ∧ l.mapM f = some rest ∧ b :: rest = bs := by
  simp [List.mapM_cons, Option.bind_eq_some_iff]

/-- What the results have in common with their arguments, the lists have in common. -/
theorem map_eq_map_of_mapM {α β γ : Type} {f : α → Option β} {g : β → γ} {g' : α → γ}
    (h : ∀ a b, f a = some b → g b = g' a) {l : List α} {bs : List β}
    (hl : l.mapM f = some bs) : bs.map g = l.map g' := by
  induction l generalizing bs with
  | nil =>
    obtain rfl : [] = bs := by simpa using hl
    rfl
  | cons a l ih =>
    obtain ⟨b, rest, hb, hrest, rfl⟩ := mapM_cons_eq_some_iff.1 hl
    rw [List.map_cons, List.map_cons, h a b hb, ih hrest]

theorem mapM_row?_eq_none_iff {snapshots : List Snapshot} :
    snapshots.mapM Snapshot.row? = none ↔ ∃ x ∈ snapshots, x.currentPrice.isNaN = true := by
  simp only [mapM_eq_none_iff, Snapshot.row?_eq_none_iff]

/-- Snapshots can be kept if all of their current prices are numbers, and only then. -/
theorem exists_mapM_row?_iff {snapshots : List Snapshot} :
    (∃ rows, snapshots.mapM Snapshot.row? = some rows) ↔
      ∀ x ∈ snapshots, x.currentPrice.isNaN = false := by
  rw [← Option.ne_none_iff_exists', Ne, mapM_row?_eq_none_iff]
  simp only [not_exists, not_and, Bool.not_eq_true]

/-! ## Tables of a database -/

namespace Database

@[simp] theorem sameName_self (a : String) : sameName a a = true := by
  simp [sameName]

theorem sameName_comm (a b : String) : sameName a b = sameName b a := by
  rw [sameName, sameName, Bool.eq_iff_iff, beq_iff_eq, beq_iff_eq]
  exact eq_comm

theorem sameName_trans {a b : String} (h : sameName a b = true) (c : String) :
    sameName a c = sameName b c := by
  have : foldName a = foldName b := by simpa [sameName] using h
  simp only [sameName, this]

theorem find?_congr {a b : String} (h : sameName a b = true) (db : Database) :
    db.find? a = db.find? b := by
  have hfold : foldName a = foldName b := by simpa [sameName] using h
  simp only [find?, sameName, hfold]

/-- After new rows were put into a table, that table holds them and the others are as before. -/
theorem find?_replace (db : Database) (name other : String) (table : Table) :
    (db.replace name table).find? other =
      if sameName other name then (db.find? other).map fun _ => table else db.find? other := by
  simp only [find?, replace, List.find?_map]
  have hcomp : (fun t : NamedTable => sameName t.name other) ∘
      (fun t => if sameName t.name name then { t with table } else t) =
        fun t => sameName t.name other := by
    funext t
    simp only [Function.comp_apply]
    split <;> rfl
  rw [hcomp]
  cases hfind : db.tables.find? fun t => sameName t.name other with
  | none => simp
  | some t =>
    have ht : sameName t.name other = true := by simpa using List.find?_some hfind
    simp only [Option.map_some, sameName_trans ht name]
    split <;> rfl

theorem find?_replace_self {db : Database} {name : String} {old : Table} (table : Table)
    (h : db.find? name = some old) : (db.replace name table).find? name = some table := by
  rw [find?_replace, if_pos (sameName_self name), h, Option.map_some]

theorem find?_replace_of_ne {db : Database} {name other : String} (table : Table)
    (h : sameName other name = false) : (db.replace name table).find? other = db.find? other := by
  rw [find?_replace, if_neg (by simp [h])]

/-- Of two changes to one table the later one counts. -/
theorem replace_replace (db : Database) (name : String) (table table' : Table) :
    (db.replace name table).replace name table' = db.replace name table' := by
  have hcomp : (fun t : NamedTable =>
        if sameName t.name name then { t with table := table' } else t) ∘
      (fun t => if sameName t.name name then { t with table } else t) =
        fun t => if sameName t.name name then { t with table := table' } else t := by
    funext t
    rw [Function.comp_apply]
    cases h : sameName t.name name <;> simp [h]
  simp only [replace, List.map_map, hcomp]

/-! ## Many rows -/

theorem flatten_pieces {α : Type} {size : Nat} (h : 0 < size) (xs : List α) :
    (pieces size xs).flatten = xs := by
  fun_induction pieces size xs with
  | case1 xs _ ih => rw [List.flatten_cons, ih, List.take_append_drop]
  | case2 xs hstop => simpa [h, eq_comm] using hstop

theorem pieces_eq_nil_iff {α : Type} {size : Nat} (h : 0 < size) {xs : List α} :
    pieces size xs = [] ↔ xs = [] := by
  rw [pieces]
  split <;> simp_all

section

variable {ι ρ κ : Type} [DecidableEq κ]

/-- A statement on the table of a name keeps, for each item, the row that `row?` gives, and skips
those whose key is there. If an item gives no row, it fails. -/
structure Inserts (statement : List ι → Database → Except DatabaseFault (Nat × Database))
    (name : String) (wrap : List ρ → Table) (key : ρ → κ) (row? : ι → Option ρ) : Prop where
  of_some {db : Database} {old rows : List ρ} {items : List ι}
    (table : db.find? name = some (wrap old)) (h : items.mapM row? = some rows) :
    statement items db = .ok ((rows.foldl (insertNew key) old).length - old.length,
      db.replace name (wrap (rows.foldl (insertNew key) old)))
  of_none {db : Database} {old : List ρ} {items : List ι}
    (table : db.find? name = some (wrap old)) (h : items.mapM row? = none) :
    ∃ fault, statement items db = .error fault

theorem mapM_some_eq (rows : List ρ) : rows.mapM some = some rows := by
  simpa using List.mapM_pure (m := Option) (l := rows) (f := id)

theorem inserts_insertProducts (name : String) :
    Inserts (insertProducts name) name .products ProductRow.key some where
  of_some {db old rows items} table h := by
    rw [mapM_some_eq] at h
    obtain rfl := Option.some.inj h
    simp [insertProducts, table]
  of_none table h := by simp [mapM_some_eq] at h

theorem inserts_insertSnapshots (name : String) :
    Inserts (insertSnapshots name) name .prices PriceRow.key Snapshot.row? where
  of_some table h := by simp [insertSnapshots, table, h]
  of_none table h := ⟨.missingValue name "currentPrice", by simp only [insertSnapshots, table, h]⟩

/-- If there is no product table of the name, each statement on it fails, whatever it adds. -/
theorem insertProducts_of_ne {name : String} {db : Database}
    (h : ∀ old, db.find? name ≠ some (.products old)) :
    ∃ fault, ∀ rows, insertProducts name rows db = .error fault := by
  cases hfind : db.find? name with
  | none => exact ⟨db.absent name, fun rows => by rw [insertProducts, hfind]⟩
  | some t =>
    cases t with
    | products old => exact absurd hfind (h old)
    | prices old => exact ⟨.noSuchColumn name "name", fun rows => by rw [insertProducts, hfind]⟩

theorem insertSnapshots_of_ne {name : String} {db : Database}
    (h : ∀ old, db.find? name ≠ some (.prices old)) :
    ∃ fault, ∀ snapshots, insertSnapshots name snapshots db = .error fault := by
  cases hfind : db.find? name with
  | none => exact ⟨db.absent name, fun rows => by rw [insertSnapshots, hfind]⟩
  | some t =>
    cases t with
    | products old =>
      exact ⟨.noSuchColumn name "scrapedAt", fun rows => by rw [insertSnapshots, hfind]⟩
    | prices old => exact absurd hfind (h old)

/-- One statement more: the count so far and the database go on. -/
def addPiece (statement : List ι → Database → Except DatabaseFault (Nat × Database))
    (done : Nat × Database) (piece : List ι) : Except DatabaseFault (Nat × Database) := do
  let (count, db) ← statement piece done.2
  return (done.1 + count, db)

theorem insertAll_eq (statement : List ι → Database → Except DatabaseFault (Nat × Database))
    (items : List ι) (db : Database) :
    insertAll statement items db =
      match (pieces rowsPerStatement items).foldlM (addPiece statement) (0, db) with
      | .ok (count, changed) => (.ok count, changed)
      | .error fault => (.error fault, db) := rfl

/-- If a statement fails, the database stays as it was. -/
theorem eq_of_insertAll_error
    {statement : List ι → Database → Except DatabaseFault (Nat × Database)}
    {items : List ι} {db db' : Database} {fault : DatabaseFault}
    (h : db.insertAll statement items = (.error fault, db')) : db' = db := by
  rw [insertAll_eq] at h
  split at h
  · simp at h
  · exact (Prod.mk.inj h).2.symm

/-- Where each statement fails, only no rows can be added. -/
theorem insertAll_of_refused
    {statement : List ι → Database → Except DatabaseFault (Nat × Database)} {db : Database}
    {fault : DatabaseFault} (refused : ∀ items, statement items db = .error fault)
    (items : List ι) :
    db.insertAll statement items = (if items = [] then .ok 0 else .error fault, db) := by
  cases items with
  | nil =>
    rw [insertAll_eq, pieces]
    simp [pure, Except.pure]
  | cons item items =>
    rw [insertAll_eq, pieces, dif_pos ⟨by decide, List.cons_ne_nil _ _⟩, List.foldlM_cons,
      addPiece, refused]
    simp [bind, Except.bind]

/-- A database differs from another in the table of a name at most. -/
def SameBut (name : String) (db db' : Database) : Prop :=
  ∀ other, sameName other name = false → db'.find? other = db.find? other

theorem sameBut_replace (db : Database) (name : String) (table : Table) :
    SameBut name db (db.replace name table) :=
  fun _ h => find?_replace_of_ne table h

namespace Inserts

variable {statement : List ι → Database → Except DatabaseFault (Nat × Database)} {name : String}
  {wrap : List ρ → Table} {key : ρ → κ} {row? : ι → Option ρ}

theorem foldlM_addPiece_of_some (h : Inserts statement name wrap key row?)
    {ps : List (List ι)} {db : Database} {old rows : List ρ} (n : Nat)
    (table : db.find? name = some (wrap old)) (hrows : ps.flatten.mapM row? = some rows) :
    ps.foldlM (addPiece statement) (n, db) =
      .ok (n + ((rows.foldl (insertNew key) old).length - old.length),
        if ps = [] then db else db.replace name (wrap (rows.foldl (insertNew key) old))) := by
  induction ps generalizing db old rows n with
  | nil =>
    obtain rfl : [] = rows := by simpa using hrows
    simp [pure, Except.pure]
  | cons piece ps ih =>
    rw [List.flatten_cons, List.mapM_append] at hrows
    simp only [Option.bind_eq_bind, Option.pure_def, Option.bind_eq_some_iff,
      Option.some.injEq] at hrows
    obtain ⟨first, hfirst, rest, hrest, rfl⟩ := hrows
    have hpieces := ih (n + ((first.foldl (insertNew key) old).length - old.length))
      (find?_replace_self (wrap (first.foldl (insertNew key) old)) table) hrest
    rw [List.foldlM_cons, addPiece, h.of_some table hfirst]
    refine hpieces.trans ?_
    have hle₁ : old.length ≤ (first.foldl (insertNew key) old).length :=
      (prefix_foldl_insertNew old first).length_le
    have hle₂ : (first.foldl (insertNew key) old).length ≤
        (rest.foldl (insertNew key) (first.foldl (insertNew key) old)).length :=
      (prefix_foldl_insertNew _ rest).length_le
    rw [List.foldl_append, if_neg (List.cons_ne_nil _ _), replace_replace]
    congr 2
    · omega
    · split
      · next hnil =>
        obtain rfl : [] = rest := by simpa [hnil] using hrest
        rfl
      · rfl

theorem foldlM_addPiece_of_none (h : Inserts statement name wrap key row?)
    {ps : List (List ι)} {db : Database} {old : List ρ} (n : Nat)
    (table : db.find? name = some (wrap old)) (hrows : ps.flatten.mapM row? = none) :
    ∃ fault, ps.foldlM (addPiece statement) (n, db) = .error fault := by
  induction ps generalizing db old n with
  | nil => simp at hrows
  | cons piece ps ih =>
    rw [List.flatten_cons, List.mapM_append] at hrows
    cases hfirst : piece.mapM row? with
    | none =>
      obtain ⟨fault, hfault⟩ := h.of_none table hfirst
      exact ⟨fault, by rw [List.foldlM_cons, addPiece, hfault]; rfl⟩
    | some first =>
      have hrest : ps.flatten.mapM row? = none := by
        cases hps : ps.flatten.mapM row? with
        | none => rfl
        | some rest => simp [hfirst, hps] at hrows
      rw [List.foldlM_cons, addPiece, h.of_some table hfirst]
      exact ih _ (find?_replace_self _ table) hrest

/-- **Many rows are added like one after the other.** The number of new rows comes back. -/
theorem insertAll_eq_of_some (h : Inserts statement name wrap key row?) {db : Database}
    {old rows : List ρ} {items : List ι} (table : db.find? name = some (wrap old))
    (hrows : items.mapM row? = some rows) :
    db.insertAll statement items = (.ok ((rows.foldl (insertNew key) old).length - old.length),
      if items = [] then db else db.replace name (wrap (rows.foldl (insertNew key) old))) := by
  have hsize : 0 < rowsPerStatement := by decide
  have hflat : (pieces rowsPerStatement items).flatten = items := flatten_pieces hsize items
  rw [insertAll_eq, h.foldlM_addPiece_of_some 0 table (hflat.symm ▸ hrows), Nat.zero_add,
    if_congr (pieces_eq_nil_iff hsize) rfl rfl]

/-- No other table changes. -/
theorem insertAll_of_some (h : Inserts statement name wrap key row?) {db : Database}
    {old rows : List ρ} {items : List ι} (table : db.find? name = some (wrap old))
    (hrows : items.mapM row? = some rows) :
    ∃ db', db.insertAll statement items =
        (.ok ((rows.foldl (insertNew key) old).length - old.length), db') ∧
      db'.find? name = some (wrap (rows.foldl (insertNew key) old)) ∧ SameBut name db db' := by
  refine ⟨_, h.insertAll_eq_of_some table hrows, ?_⟩
  split
  · next hnil =>
    obtain rfl : [] = rows := by simpa [hnil] using hrows
    exact ⟨table, fun _ _ => rfl⟩
  · exact ⟨find?_replace_self _ table, sameBut_replace db name _⟩

/-- **One row that cannot be kept fails them all**, and the database stays as it was. -/
theorem insertAll_of_none (h : Inserts statement name wrap key row?) {db : Database}
    {old : List ρ} {items : List ι} (table : db.find? name = some (wrap old))
    (hrows : items.mapM row? = none) :
    ∃ fault, db.insertAll statement items = (.error fault, db) := by
  have hflat : (pieces rowsPerStatement items).flatten = items := flatten_pieces (by decide) items
  obtain ⟨fault, hfault⟩ := h.foldlM_addPiece_of_none 0 table (hflat.symm ▸ hrows)
  exact ⟨fault, by rw [insertAll_eq, hfault]⟩

end Inserts

end

end Database

/-! ## The two tables of a store -/

namespace Store

variable {s : Store} {products : List ProductRow} {prices : List PriceRow}

/-- The product table and the price table of the store are there and hold these rows. -/
structure Holds (s : Store) (products : List ProductRow) (prices : List PriceRow) : Prop where
  products : s.database.find? s.productTable = some (.products products)
  prices : s.database.find? s.priceTable = some (.prices prices)

theorem Holds.sameName_eq_false (h : s.Holds products prices) :
    Database.sameName s.priceTable s.productTable = false := by
  by_contra hsame
  have hfind := Database.find?_congr ((Bool.not_eq_false _).mp hsame) s.database
  rw [h.products, h.prices] at hfind
  simp at hfind

/-- An insert that fails leaves the store as it was. -/
theorem eq_of_onDatabase_insertAll_error {ι : Type}
    {statement : List ι → Database → Except DatabaseFault (Nat × Database)} {items : List ι}
    {s s' : Store} {cause : StorageError}
    (h : s.onDatabase (s.database.insertAll statement items) = (.error cause, s')) : s' = s := by
  cases hinsert : s.database.insertAll statement items with
  | mk result db =>
    rw [hinsert, onDatabase] at h
    cases result with
    | ok n => simp [Except.mapError] at h
    | error fault =>
      obtain rfl := Database.eq_of_insertAll_error hinsert
      exact (Prod.mk.inj h).2.symm

theorem eq_of_insertProducts_error {s s' : Store} {rows : List ProductRow} {cause : StorageError}
    (h : s.insertProducts rows = (.error cause, s')) : s' = s :=
  eq_of_onDatabase_insertAll_error h

theorem eq_of_insertSnapshots_error {s s' : Store} {snapshots : List Snapshot}
    {cause : StorageError} (h : s.insertSnapshots snapshots = (.error cause, s')) : s' = s :=
  eq_of_onDatabase_insertAll_error h

/-- Product rows are added to the product table, and the number of new ones comes back. -/
theorem insertProducts_of_products
    (h : s.database.find? s.productTable = some (.products products)) (rows : List ProductRow) :
    ∃ db, s.insertProducts rows =
        (.ok (newRows ProductRow.key products rows).length, { s with database := db }) ∧
      db.find? s.productTable =
        some (.products (rows.foldl (insertNew ProductRow.key) products)) ∧
      s.database.SameBut s.productTable db := by
  obtain ⟨db, hdb, htable, hsame⟩ :=
    (Database.inserts_insertProducts s.productTable).insertAll_of_some h
      (Database.mapM_some_eq rows)
  rw [length_foldl_insertNew_sub] at hdb
  exact ⟨db, by rw [insertProducts, onDatabase, hdb]; rfl, htable, hsame⟩

theorem insertProducts_of_holds (h : s.Holds products prices) (rows : List ProductRow) :
    ∃ db, s.insertProducts rows =
        (.ok (newRows ProductRow.key products rows).length, { s with database := db }) ∧
      ({ s with database := db } : Store).Holds (rows.foldl (insertNew ProductRow.key) products)
        prices := by
  obtain ⟨db, hdb, htable, hsame⟩ := insertProducts_of_products h.products rows
  refine ⟨db, hdb, htable, ?_⟩
  rw [← h.prices]
  exact hsame s.priceTable h.sameName_eq_false

/-- The price rows of snapshots are added to the price table, if all of them can be kept, and the
number of new ones comes back. -/
theorem insertSnapshots_of_prices
    (h : s.database.find? s.priceTable = some (.prices prices)) {snapshots : List Snapshot}
    {rows : List PriceRow} (hrows : snapshots.mapM Snapshot.row? = some rows) :
    ∃ db, s.insertSnapshots snapshots =
        (.ok (newRows PriceRow.key prices rows).length, { s with database := db }) ∧
      db.find? s.priceTable = some (.prices (rows.foldl (insertNew PriceRow.key) prices)) ∧
      s.database.SameBut s.priceTable db := by
  obtain ⟨db, hdb, htable, hsame⟩ :=
    (Database.inserts_insertSnapshots s.priceTable).insertAll_of_some h hrows
  rw [length_foldl_insertNew_sub] at hdb
  exact ⟨db, by rw [insertSnapshots, onDatabase, hdb]; rfl, htable, hsame⟩

theorem insertSnapshots_of_holds (h : s.Holds products prices) {snapshots : List Snapshot}
    {rows : List PriceRow} (hrows : snapshots.mapM Snapshot.row? = some rows) :
    ∃ db, s.insertSnapshots snapshots =
        (.ok (newRows PriceRow.key prices rows).length, { s with database := db }) ∧
      ({ s with database := db } : Store).Holds products
        (rows.foldl (insertNew PriceRow.key) prices) := by
  obtain ⟨db, hdb, htable, hsame⟩ := insertSnapshots_of_prices h.prices hrows
  refine ⟨db, hdb, ?_, htable⟩
  rw [← h.products]
  refine hsame s.productTable ?_
  rw [Database.sameName_comm]
  exact h.sameName_eq_false

/-- Otherwise the store stays as it was. -/
theorem insertSnapshots_of_none (h : s.Holds products prices) {snapshots : List Snapshot}
    (hrows : snapshots.mapM Snapshot.row? = none) :
    ∃ cause, s.insertSnapshots snapshots = (.error cause, s) := by
  obtain ⟨fault, hfault⟩ :=
    (Database.inserts_insertSnapshots s.priceTable).insertAll_of_none h.prices hrows
  exact ⟨.database fault, by rw [insertSnapshots, onDatabase, hfault]; rfl⟩

end Store

end PriceTracker.Storage
