import PriceTracker.Calendar.Date
import PriceTracker.Product

/-!
# Rows

What the store keeps of an observation: one product row for each product of a shop, and one price
row for each product and day. A row's key tells it from all others of its table.
-/

namespace PriceTracker.Storage

/-- The shop and the number of a product. -/
structure ProductKey where
  shop : String
  pid : String
  deriving DecidableEq, Repr, Hashable

/-- What is known of a product. -/
structure ProductRow where
  shop : String
  pid : String
  name : String
  url : String
  image : Option String
  deriving DecidableEq, Repr

/-- The key of a product row. -/
def ProductRow.key (r : ProductRow) : ProductKey := ⟨r.shop, r.pid⟩

/-- The product row of a record. -/
def ProductRow.ofRecord (r : ProductRecord) : ProductRow where
  shop := r.shop
  pid := r.pid
  name := r.name
  url := r.url
  image := r.imageUrl

/-- The price of a product on a day. -/
structure Snapshot where
  shop : String
  pid : String
  day : Date
  currentPrice : Float
  originalPrice : Option Float
  inStock : Bool

/-- The snapshot of a record on a day. -/
def Snapshot.ofRecord (day : Date) (r : ProductRecord) : Snapshot where
  shop := r.shop
  pid := r.pid
  day := day
  currentPrice := r.currentPrice
  originalPrice := r.originalPrice
  inStock := r.inStock

/-- A product and a written day. -/
structure PriceKey where
  product : ProductKey
  scrapedAt : String
  deriving DecidableEq, Repr, Hashable

/-- A price as it is kept. -/
structure PriceRow where
  shop : String
  pid : String
  /-- The written day. -/
  scrapedAt : String
  currentPrice : Float
  originalPrice : Option Float
  inStock : Bool
  deriving Repr

/-- The key of a price row. -/
def PriceRow.key (r : PriceRow) : PriceKey := ⟨⟨r.shop, r.pid⟩, r.scrapedAt⟩

/-- The number that is kept: none for what is not a number, and a zero without its sign. -/
def storedReal? (x : Float) : Option Float :=
  if x.isNaN then none else if x == 0 then some 0 else some x

/-- The price row that is kept of a snapshot; its current price may not be missing. -/
def Snapshot.row? (s : Snapshot) : Option PriceRow :=
  (storedReal? s.currentPrice).map fun currentPrice => {
    shop := s.shop
    pid := s.pid
    scrapedAt := s.day.text
    currentPrice
    originalPrice := s.originalPrice.bind storedReal?
    inStock := s.inStock }

/-- Adds a row at the end, unless a row has its key. -/
def insertNew {ρ κ : Type} [DecidableEq κ] (key : ρ → κ) (rows : List ρ) (row : ρ) : List ρ :=
  if rows.any fun r => key r = key row then rows else rows ++ [row]

/-- The rows there were stay in front. -/
theorem prefix_insertNew {ρ κ : Type} [DecidableEq κ] (key : ρ → κ) (rows : List ρ) (row : ρ) :
    rows <+: insertNew key rows row := by
  unfold insertNew
  split
  · exact List.prefix_refl rows
  · exact List.prefix_append rows [row]

end PriceTracker.Storage
