import PriceTracker.Settings.Basic
import PriceTracker.Storage.Identifier
import PriceTracker.Text.Alphanumeric
import PriceTracker.Text.Blank
import PriceTracker.Url.Parse

/-!
# Valid settings

`Settings.validate` accepts the settings that a crawl can start with and otherwise names the first
fault, in the order of the groups and of the rules within a group.
-/

namespace PriceTracker

/-- One of the two tables. -/
inductive TableRole where
  | product
  | price
  deriving DecidableEq, Repr

/-- The name of the table in messages. -/
def TableRole.label : TableRole → String
  | .product => "product table"
  | .price => "price table"

/-- Why settings are refused. -/
inductive SettingsFault where
  /-- A table name is no plain identifier. -/
  | badTableName (role : TableRole) (name : String)
  /-- Both tables have the same name. -/
  | sameTable (name : String)
  /-- The start page is no URL. -/
  | badStartUrl (cause : Url.ParseError)
  /-- The start page is no web page. -/
  | startUrlNotWeb (url : String)
  /-- The batch size is out of range. -/
  | badBatchSize (size : Nat)
  /-- A crawl of no pages. -/
  | noPages
  /-- The in-stock label is blank. -/
  | blankLabel
  /-- The crawler has no name. -/
  | emptyAgentName
  /-- The name of the crawler holds other characters than letters, digits and hyphens. -/
  | badAgentName (name : String)
  /-- The contact page is no URL. -/
  | badContactUrl (cause : Url.ParseError)
  deriving DecidableEq, Repr

/-- Whether the fault is in a URL. -/
def SettingsFault.isUrlFault : SettingsFault → Bool
  | .badStartUrl _ | .startUrlNotWeb _ | .badContactUrl _ => true
  | _ => false

/-- The largest batch. -/
def maxBatchSize : Nat := 1000

/-- The wording of the fault. -/
def SettingsFault.reason : SettingsFault → String
  | .badTableName role name => s!"{role.label} must be a plain SQL identifier, got '{name}'"
  | .sameTable name => s!"product and price tables must differ, both are '{name}'"
  | .badStartUrl cause => s!"Invalid start-url: {cause.message}"
  | .startUrlNotWeb url => s!"start-url '{url}' must use HTTP or HTTPS"
  | .badBatchSize size => s!"batch-size must be between 1 and {maxBatchSize}, got {size}"
  | .noPages => "max-pages must be >= 1 when set"
  | .blankLabel => "in-stock-label cannot be empty"
  | .emptyAgentName => "crawler-name cannot be empty"
  | .badAgentName name =>
    s!"crawler-name must contain only alphanumeric characters and hyphens, got '{name}'"
  | .badContactUrl cause => s!"Invalid contact-url: {cause.message}"

/-- Two plain and different table names. -/
def DatabaseSettings.validate (d : DatabaseSettings) : Except SettingsFault Unit := do
  if !Storage.isIdentifier d.productTable then throw (.badTableName .product d.productTable)
  if !Storage.isIdentifier d.priceTable then throw (.badTableName .price d.priceTable)
  if d.productTable == d.priceTable then throw (.sameTable d.productTable)

/-- A start page of the web, a batch size in range, some pages and a label. -/
def CrawlSettings.validate (c : CrawlSettings) : Except SettingsFault Unit := do
  match Url.parse c.startUrl with
  | .error cause => throw (.badStartUrl cause)
  | .ok url => if !url.isWeb then throw (.startUrlNotWeb c.startUrl)
  if c.batchSize < 1 || maxBatchSize < c.batchSize then throw (.badBatchSize c.batchSize)
  if c.maxPages == some 0 then throw .noPages
  if Text.isBlankText c.inStockLabel then throw .blankLabel

/-- A character of the name of the crawler. -/
def isAgentNameChar (c : Char) : Bool :=
  Text.isAlphanumeric c || c == '-'

/-- A name of letters, digits and hyphens, and a contact page that is a URL. -/
def AgentSettings.validate (a : AgentSettings) : Except SettingsFault Unit := do
  if a.name.isEmpty then throw .emptyAgentName
  if !a.name.toList.all isAgentNameChar then throw (.badAgentName a.name)
  if let some url := a.contactUrl then
    if let .error cause := Url.parse url then throw (.badContactUrl cause)

/-- The rules of all groups, in order. -/
def Settings.validate (s : Settings) : Except SettingsFault Unit := do
  s.database.validate
  s.crawl.validate
  s.agent.validate

end PriceTracker
