import PriceTracker.Storage.Database

/-!
# Written databases

A database as text, for keeping it in a file. Each line has fields between tabs, the first of which
tells what the line is: the head of a table, followed by its rows, or an index. Characters that
would break a line or a field are written with a backslash.

* `Database.written` writes a database and `Database.read?` reads one;
* `unescape_escape`: a field reads back as what was written.
-/

namespace PriceTracker.Storage

/-! ## Fields -/

/-- A field without tabs and line ends. -/
def escape : List Char → List Char
  | [] => []
  | '\\' :: cs => '\\' :: '\\' :: escape cs
  | '\t' :: cs => '\\' :: 't' :: escape cs
  | '\n' :: cs => '\\' :: 'n' :: escape cs
  | '\r' :: cs => '\\' :: 'r' :: escape cs
  | c :: cs => c :: escape cs

/-- The text of a written field. -/
def unescape : List Char → List Char
  | '\\' :: 't' :: cs => '\t' :: unescape cs
  | '\\' :: 'n' :: cs => '\n' :: unescape cs
  | '\\' :: 'r' :: cs => '\r' :: unescape cs
  | '\\' :: c :: cs => c :: unescape cs
  | c :: cs => c :: unescape cs
  | [] => []

/-- A field reads back as what was written. -/
theorem unescape_escape (cs : List Char) : unescape (escape cs) = cs := by
  fun_induction escape cs with
  | case1 => rfl
  | case2 cs ih => simp [unescape, ih]
  | case3 cs ih => simp [unescape, ih]
  | case4 cs ih => simp [unescape, ih]
  | case5 cs ih => simp [unescape, ih]
  | case6 c cs h _ _ _ ih =>
    rw [unescape.eq_def]
    split <;> simp_all

/-- A line of fields. -/
def writeLine (fields : List String) : String :=
  "\t".intercalate (fields.map fun field => String.ofList (escape field.toList))

/-- The fields of a line. -/
def readLine (line : String) : List String :=
  (line.splitOn "\t").map fun field => String.ofList (unescape field.toList)

/-- A value that may be missing. -/
def writeOptional : Option String → String
  | some text => "+" ++ text
  | none => "-"

/-- The value of a field that may be missing. -/
def readOptional (field : String) : Option String :=
  match field.toList with
  | '+' :: text => some (String.ofList text)
  | _ => none

/-- A number, bit for bit. -/
def writeReal (x : Float) : String :=
  toString x.toBits.toNat

/-- The number of a field. -/
def readReal? (field : String) : Option Float :=
  field.toNat?.map fun bits => Float.ofBits (UInt64.ofNat bits)

/-! ## Lines -/

/-- The line of a product row. -/
def ProductRow.fields (r : ProductRow) : List String :=
  ["product", r.shop, r.pid, r.name, r.url, writeOptional r.image]

/-- The line of a price row. -/
def PriceRow.fields (r : PriceRow) : List String :=
  ["price", r.shop, r.pid, r.scrapedAt, writeReal r.currentPrice,
    writeOptional (r.originalPrice.map writeReal), if r.inStock then "1" else "0"]

/-- The lines of a table. -/
def NamedTable.lines (t : NamedTable) : List (List String) :=
  match t.table with
  | .products rows => ["products", t.name] :: rows.map ProductRow.fields
  | .prices rows => ["prices", t.name] :: rows.map PriceRow.fields

namespace Database

/-- The written form of a database. -/
def written (db : Database) : String :=
  let lines := db.tables.flatMap NamedTable.lines ++
    db.indexes.map fun index => ["index", index.name, index.table]
  String.join (lines.map fun line => writeLine line ++ "\n")

/-- What the last lines of a written database hold: a database, and before it rows whose table is
still to come. -/
structure Tail where
  database : Database := {}
  products : List ProductRow := []
  prices : List PriceRow := []

/-- The tail that begins one line earlier. -/
def Tail.before? (fields : List String) (tail : Tail) : Option Tail :=
  match fields with
  | ["product", shop, pid, name, url, image] =>
    some { tail with
      products := ⟨shop, pid, name, url, readOptional image⟩ :: tail.products }
  | ["price", shop, pid, scrapedAt, current, original, inStock] => do
    let currentPrice ← readReal? current
    let originalPrice ← match readOptional original with
      | some text => some <$> readReal? text
      | none => some none
    return { tail with
      prices := { shop, pid, scrapedAt, currentPrice, originalPrice, inStock := inStock == "1" } ::
        tail.prices }
  | ["products", name] =>
    if !tail.prices.isEmpty then none
    else some { database := { tail.database with
      tables := ⟨name, .products tail.products⟩ :: tail.database.tables } }
  | ["prices", name] =>
    if !tail.products.isEmpty then none
    else some { database := { tail.database with
      tables := ⟨name, .prices tail.prices⟩ :: tail.database.tables } }
  | ["index", name, table] =>
    if !tail.products.isEmpty || !tail.prices.isEmpty then none
    else some { database := { tail.database with
      indexes := ⟨name, table⟩ :: tail.database.indexes } }
  | _ => none

/-- The database of a written form. -/
def read? (text : String) : Option Database := do
  let lines := (text.splitOn "\n").filter (!·.isEmpty)
  let tail ← lines.foldrM (fun line tail => tail.before? (readLine line)) ({} : Tail)
  if tail.products.isEmpty && tail.prices.isEmpty then some tail.database else none

end Database

end PriceTracker.Storage
