import PriceTracker.Html.Parse
import PriceTracker.Html.Selector
import PriceTracker.Product
import PriceTracker.Url.Parse

/-!
# The catalog

What the pages of the shop mean. The root page lists the categories; a listing page holds product
blocks and the links to the other pages of its category.

* `Catalog.categories` gives the category links of a page;
* `Catalog.listing` gives one record or error for each product block, and the pagination links.
-/

namespace PriceTracker.Catalog

open Html (Document NodeId Selector)

/-! ## Where things stand on a page -/

/-- A link to a category: `#ProductsMaster li.leaf a.name`. -/
def categoryLink : Selector where
  around := [{ id := some "ProductsMaster" }, { name := some "li", classes := ["leaf"] }]
  target := { name := some "a", classes := ["name"] }

/-- A product block: `#ProductListDefault .ProductView`. -/
def productBlock : Selector where
  around := [{ id := some "ProductListDefault" }]
  target := { classes := ["ProductView"] }

/-- The name of a product: `h2`. -/
def productName : Selector where
  target := { name := some "h2" }

/-- The link to a product: `h2 a`. -/
def productLink : Selector where
  around := [{ name := some "h2" }]
  target := { name := some "a" }

/-- The image of a product: `.image img`. -/
def productImage : Selector where
  around := [{ classes := ["image"] }]
  target := { name := some "img" }

/-- The price to pay: `.price.vat.primary.user .value`. -/
def currentPrice : Selector where
  around := [{ classes := ["price", "vat", "primary", "user"] }]
  target := { classes := ["value"] }

/-- The price before the discount: `.price.vat.primary.retail .value`. -/
def originalPrice : Selector where
  around := [{ classes := ["price", "vat", "primary", "retail"] }]
  target := { classes := ["value"] }

/-- The availability: `.AvailabilityView .label`. -/
def availability : Selector where
  around := [{ classes := ["AvailabilityView"] }]
  target := { classes := ["label"] }

/-- A link to another page of a category: `#CompoundPagingBottom a.page:not(.active)`. -/
def paginationLink : Selector where
  around := [{ id := some "CompoundPagingBottom" }]
  target := { name := some "a", classes := ["page"], absent := ["active"] }

/-- The attribute of a product block that holds the number of the product. -/
def pidAttribute : String := "data-clipboard"

/-- The attribute of an image that is loaded later. -/
def imageAttribute : String := "data-src"

/-! ## Links -/

/-- The web page that a link leads to. Links within the page, scripts and what is no web page lead
nowhere. -/
def resolveLink (base : Url) (href : String) : Option Url :=
  let text := Text.trimBy Text.isBlank href.toList
  if text.isEmpty || text.head? == some '#' || "javascript:".toList.isPrefixOf text then none
  else
    match Url.resolve base (String.ofList text) with
    | .ok url => if url.isWeb then some url else none
    | .error _ => none

/-- The web pages that elements link to, in order. -/
def links (d : Document) (base : Url) (elements : List NodeId) : List Url :=
  elements.filterMap fun id => (d.attribute? id "href").bind (resolveLink base)

/-! ## Pages -/

/-- What a product block says. A product is in stock if its availability is exactly the label. -/
def rawProduct (label : String) (d : Document) (base : Url) (block : NodeId) : RawProduct where
  pid := d.attribute? block pidAttribute
  name := d.firstText? block productName
  url := ((d.firstAttribute? block productLink "href").bind (resolveLink base)).map (·.toString)
  imageUrl :=
    ((d.firstAttribute? block productImage imageAttribute).bind (resolveLink base)).map (·.toString)
  currentPrice := d.firstText? block currentPrice
  originalPrice := d.firstText? block originalPrice
  inStock := d.firstText? block availability == some label

/-- What a listing page yields. -/
structure Listing where
  /-- One entry for each product block, in order. -/
  products : List (Except ExtractionError ProductRecord)
  /-- The other pages of the category. -/
  nextPages : List Url

/-- The category links of a document. -/
def categoriesOf (d : Document) (base : Url) : List Url :=
  links d base (d.select categoryLink)

/-- What a document yields as a listing page. -/
def listingOf (label : String) (d : Document) (base : Url) : Listing where
  products := (d.select productBlock).map fun block =>
    ProductRecord.ofRaw (rawProduct label d base block)
  nextPages := links d base (d.select paginationLink)

/-- The category links of a page. -/
def categories (page : String) (base : Url) : List Url :=
  categoriesOf (Html.parse page) base

/-- What a listing page yields, products with the label being in stock. -/
def listing (label : String) (page : String) (base : Url) : Listing :=
  listingOf label (Html.parse page) base

end PriceTracker.Catalog
