import PriceTracker.Price

/-!
# Product observations

A `RawProduct` is the text found in one product block; any part may be missing. A
`ProductRecord` is a complete observation. `ProductRecord.ofRaw` accepts a block exactly when
`pid`, `name`, `url` and the current price are there and both prices can be read, and otherwise
names the first part that fails.
-/

namespace PriceTracker

/-- The text of one product block. -/
structure RawProduct where
  pid : Option String := none
  name : Option String := none
  url : Option String := none
  imageUrl : Option String := none
  currentPrice : Option String := none
  originalPrice : Option String := none
  inStock : Bool := false
  deriving DecidableEq, Repr, Inhabited

/-- One observation of a product. The day of the observation is added when it is written. -/
structure ProductRecord where
  shop : String
  pid : String
  name : String
  url : String
  imageUrl : Option String
  currentPrice : Float
  originalPrice : Option Float
  inStock : Bool
  currency : String
  deriving Repr

/-- The parts of a product block that can be at fault. -/
inductive ProductField where
  | pid
  | name
  | url
  | currentPrice
  | originalPrice
  deriving DecidableEq, Repr

/-- The name of the part in messages. -/
def ProductField.label : ProductField → String
  | .pid => "pid"
  | .name => "name"
  | .url => "url"
  | .currentPrice => "current_price"
  | .originalPrice => "original_price"

/-- Why a product block gives no record. -/
inductive ExtractionError where
  /-- A required part is absent or blank. -/
  | missingField (field : ProductField)
  /-- A price label cannot be read. -/
  | invalidPrice (field : ProductField) (pid : String) (cause : LabelError)
  deriving DecidableEq, Repr

/-- The wording of the error. -/
def ExtractionError.message : ExtractionError → String
  | .missingField field => s!"product block is missing required field '{field.label}'"
  | .invalidPrice field pid cause =>
    s!"invalid {field.label} for product {pid}: {cause.message}"

/-- The shop that every record belongs to. -/
def shopName : String := "bikero-cz"

/-- The currency of all prices of the shop. -/
def shopCurrency : String := "CZK"

/-- The trimmed text of a required part. -/
def RawProduct.require (field : ProductField) (value : Option String) :
    Except ExtractionError String :=
  match value.map Text.trim with
  | some text => if text.isEmpty then .error (.missingField field) else .ok text
  | none => .error (.missingField field)

/-- The amount on the label of a price, the label's fault told with the field and the product. -/
def RawProduct.amount (field : ProductField) (pid : String) (label : String) :
    Except ExtractionError (Option Float) :=
  match Price.ofLabel label with
  | .ok value => .ok value
  | .error cause => .error (.invalidPrice field pid cause)

/-- The record of a complete product block. A blank original price means no discount. -/
def ProductRecord.ofRaw (raw : RawProduct) : Except ExtractionError ProductRecord := do
  let pid ← RawProduct.require .pid raw.pid
  let name ← RawProduct.require .name raw.name
  let url ← RawProduct.require .url raw.url
  let label ← RawProduct.require .currentPrice raw.currentPrice
  let current ← RawProduct.amount .currentPrice pid label
  let some currentPrice := current | throw (.missingField .currentPrice)
  let originalPrice ← match raw.originalPrice with
    | some label => RawProduct.amount .originalPrice pid label
    | none => pure none
  return {
    shop := shopName
    pid, name, url
    imageUrl := raw.imageUrl.filter (!Text.isBlankText ·)
    currentPrice, originalPrice
    inStock := raw.inStock
    currency := shopCurrency }

end PriceTracker
