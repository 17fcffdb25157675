/-!
# Tokens

The pieces that the text of a page is made of.
-/

namespace PriceTracker.Html

/-- A name with a value in a start tag. -/
structure Attribute where
  name : String
  value : String
  deriving DecidableEq, Repr, Inhabited

/-- A start tag, its name in lower case. -/
structure Tag where
  name : String
  attributes : List Attribute := []
  /-- The tag ends with a slash. -/
  selfClosing : Bool := false
  deriving DecidableEq, Repr, Inhabited

/-- A document type declaration. -/
structure Doctype where
  name : Option String := none
  publicId : Option String := none
  systemId : Option String := none
  /-- The declaration is broken off or ill-formed. -/
  isBroken : Bool := false
  deriving DecidableEq, Repr, Inhabited

/-- A piece of a page. -/
inductive Token where
  | doctype (d : Doctype)
  | startTag (tag : Tag)
  | endTag (name : String)
  | comment
  /-- A character of text. The null character stands only for itself in the page. -/
  | character (c : Char)
  | endOfPage
  deriving Repr, Inhabited

/-- The characters that separate words in markup. -/
def isMarkupSpace (c : Char) : Bool :=
  c == ' ' || c == '\t' || c == '\n' || c == '\x0C' || c == '\r'

/-- The value of an attribute of a tag. -/
def Tag.attribute? (tag : Tag) (name : String) : Option String :=
  (tag.attributes.find? (·.name == name)).map (·.value)

/-- Whether two tags have the same name and the same attributes in any order. -/
def Tag.sameAs (a b : Tag) : Bool :=
  a.name == b.name && a.attributes.length == b.attributes.length &&
    a.attributes.all b.attributes.contains

end PriceTracker.Html
