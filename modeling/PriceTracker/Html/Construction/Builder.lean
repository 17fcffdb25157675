import PriceTracker.Html.Document.Edit
import PriceTracker.Html.Lexer.RawText

/-!
# The state of construction

A page is built while its tokens come in. `Builder` holds the parts made so far, the elements that
are still open, the formatting elements that must be opened again where they were broken off, and
the mode that says what the next token means.

* `Builder.inScope` looks for an open element, innermost first, up to an element that stops it;
* `Builder.place` is where the next part goes, which for stray parts of a table is before it.
-/

namespace PriceTracker.Html

/-- An element that was opened. -/
structure OpenElement where
  /-- Its number in the page. -/
  id : Nat
  vocabulary : Vocabulary
  name : String
  deriving DecidableEq, Repr, Inhabited

namespace OpenElement

/-- Whether the element is an HTML element of the name. -/
def isHtml (e : OpenElement) (name : String) : Bool :=
  e.vocabulary == .html && e.name == name

/-- Whether the element is an HTML element of one of the names. -/
def isHtmlIn (e : OpenElement) (names : List String) : Bool :=
  e.vocabulary == .html && names.contains e.name

/-- An element of mathematics that holds plain text. -/
def isMathText (e : OpenElement) : Bool :=
  e.vocabulary == .mathml && ["mi", "mo", "mn", "ms", "mtext"].contains e.name

/-- An element of a drawing that holds HTML. -/
def isDrawnHtml (e : OpenElement) : Bool :=
  e.vocabulary == .svg && ["foreignObject", "desc", "title"].contains e.name

/-- An element that ends the search for an open element. -/
def stopsSearch (e : OpenElement) : Bool :=
  e.isHtmlIn ["applet", "caption", "html", "table", "td", "th", "marquee", "object", "template"] ||
    e.isMathText || e.isDrawnHtml

/-- An element that ends the search for an open list item. -/
def stopsListSearch (e : OpenElement) : Bool :=
  e.stopsSearch || e.isHtmlIn ["ol", "ul"]

/-- An element that ends the search for an open paragraph. -/
def stopsParagraphSearch (e : OpenElement) : Bool :=
  e.stopsSearch || e.isHtml "button"

/-- An element that ends the search for a part of a table. -/
def stopsTableSearch (e : OpenElement) : Bool :=
  e.isHtmlIn ["html", "table", "template"]

/-- An element that ends the search for an open selection list. -/
def stopsSelectSearch (e : OpenElement) : Bool :=
  !e.isHtmlIn ["optgroup", "option"]

/-- The names of the elements that a stray end tag does not reach through. -/
def specialNames : List String :=
  ["address", "applet", "area", "article", "aside", "base", "basefont", "bgsound", "blockquote",
    "body", "br", "button", "caption", "center", "col", "colgroup", "dd", "details", "dir", "div",
    "dl", "dt", "embed", "fieldset", "figcaption", "figure", "footer", "form", "frame", "frameset",
    "h1", "h2", "h3", "h4", "h5", "h6", "head", "header", "hgroup", "hr", "html", "iframe", "img",
    "input", "isindex", "li", "link", "listing", "main", "marquee", "menu", "meta", "nav",
    "noembed", "noframes", "noscript", "object", "ol", "p", "param", "plaintext", "pre", "script",
    "section", "select", "source", "style", "summary", "table", "tbody", "td", "template",
    "textarea", "tfoot", "th", "thead", "title", "tr", "track", "ul", "wbr", "xmp"]

/-- An element that a stray end tag does not reach through. -/
def isSpecial (e : OpenElement) : Bool :=
  e.isHtmlIn specialNames

/-- A heading. -/
def isHeading (e : OpenElement) : Bool :=
  e.isHtmlIn ["h1", "h2", "h3", "h4", "h5", "h6"]

/-- A cell of a table. -/
def isCell (e : OpenElement) : Bool :=
  e.isHtmlIn ["td", "th"]

/-- An element whose end tag may be left out. -/
def mayEnd (e : OpenElement) : Bool :=
  e.isHtmlIn ["dd", "dt", "li", "option", "optgroup", "p", "rb", "rp", "rt", "rtc"]

/-- An element whose end tag may be left out at the end of a template. -/
def mayEndInTemplate (e : OpenElement) : Bool :=
  e.mayEnd || e.isHtmlIn
    ["caption", "colgroup", "tbody", "td", "tfoot", "th", "thead", "tr"]

end OpenElement

/-- What the next token means. -/
inductive Mode where
  | initial
  | beforeHtml
  | beforeHead
  | inHead
  | afterHead
  | inBody
  /-- In raw text. -/
  | inText
  | inTable
  /-- In text right inside a part of a table that holds no text. -/
  | inTableText
  | inCaption
  | inColumnGroup
  | inTableBody
  | inRow
  | inCell
  | inSelect
  | inSelectInTable
  | inTemplate
  | afterBody
  | inFrameset
  | afterFrameset
  | afterAfterBody
  | afterAfterFrameset
  deriving DecidableEq, Repr, Inhabited

/-- A formatting element that is opened again where it was broken off, or a boundary that such
elements do not cross. -/
inductive FormatEntry where
  | marker
  | element (opened : OpenElement) (tag : Tag)
  deriving Inhabited

namespace FormatEntry

/-- Whether the entry is this element. -/
def isElement (e : OpenElement) : FormatEntry → Bool
  | .marker => false
  | .element opened _ => opened.id == e.id

/-- Whether the entry is a boundary. -/
def isMarker : FormatEntry → Bool
  | .marker => true
  | .element _ _ => false

end FormatEntry

/-- A page in construction. -/
structure Builder where
  page : Document := {}
  mode : Mode := .initial
  /-- The mode to go back to behind raw text or text in a table. -/
  returnMode : Mode := .initial
  /-- The open elements, the innermost first. -/
  stack : List OpenElement := []
  /-- The formatting elements, the latest first. -/
  formatting : List FormatEntry := []
  /-- The modes of the open templates, the innermost first. -/
  templateModes : List Mode := []
  head : Option OpenElement := none
  /-- The form that form fields belong to. -/
  form : Option OpenElement := none
  /-- A set of frames may still take the place of the body. -/
  framesetAllowed : Bool := true
  /-- Parts that may not stand in a table go before it. -/
  isFostering : Bool := false
  /-- A table does not end a paragraph. -/
  isLegacy : Bool := false
  /-- A line end right here does not count. -/
  dropsLineEnd : Bool := false
  /-- The collected text of a table, the last character first. -/
  tableText : List Char := []
  deriving Inhabited

/-- What is to be done after a token. -/
inductive Verdict where
  /-- Go on with the next token. -/
  | done
  /-- Look at the token again, in the mode that is set now. -/
  | again
  /-- Raw text of an element follows. -/
  | raw (kind : RawKind) (name : String)
  deriving DecidableEq, Repr

namespace Builder

/-! ## Open elements -/

/-- The innermost open element. -/
def current? (b : Builder) : Option OpenElement :=
  b.stack.head?

/-- Whether the innermost open element passes a test. -/
def currentIs (b : Builder) (test : OpenElement → Bool) : Bool :=
  match b.stack with
  | e :: _ => test e
  | [] => false

/-- Closes the innermost element. -/
def pop (b : Builder) : Builder :=
  { b with stack := b.stack.tail }

/-- Opens an element. -/
def push (b : Builder) (e : OpenElement) : Builder :=
  { b with stack := e :: b.stack }

/-- Whether an element passes `target` before one passes `stops`. -/
def findUpTo (stops target : OpenElement → Bool) : List OpenElement → Bool
  | [] => false
  | e :: rest => target e || (!stops e && findUpTo stops target rest)

/-- Whether there is an open element of the kind within the boundary. -/
def inScope (b : Builder) (stops target : OpenElement → Bool) : Bool :=
  findUpTo stops target b.stack

/-- Whether an HTML element of the name is open within the usual boundary. -/
def hasOpen (b : Builder) (name : String) : Bool :=
  b.inScope OpenElement.stopsSearch (·.isHtml name)

/-- Whether an HTML element of the name is open within the table. -/
def hasOpenInTable (b : Builder) (name : String) : Bool :=
  b.inScope OpenElement.stopsTableSearch (·.isHtml name)

/-- Whether a template is open anywhere. -/
def inTemplateElement (b : Builder) : Bool :=
  b.stack.any (·.isHtml "template")

/-- Closes elements up to and with the first that passes the test. -/
def popThrough (b : Builder) (test : OpenElement → Bool) : Builder :=
  { b with stack := (b.stack.dropWhile (!test ·)).tail }

/-- Closes elements up to and with the first HTML element of the name. -/
def close (b : Builder) (name : String) : Builder :=
  b.popThrough (·.isHtml name)

/-- Closes elements before the first that passes the test. -/
def popUntil (b : Builder) (test : OpenElement → Bool) : Builder :=
  { b with stack := b.stack.dropWhile (!test ·) }

/-- Closes elements whose end tag may be left out. -/
def endImplied (b : Builder) : Builder :=
  { b with stack := b.stack.dropWhile OpenElement.mayEnd }

/-- Closes elements whose end tag may be left out, up to one of the name. -/
def endImpliedExcept (b : Builder) (name : String) : Builder :=
  { b with stack := b.stack.dropWhile fun e => e.mayEnd && !e.isHtml name }

/-- Takes an element out of the open ones, wherever it is. -/
def removeOpen (b : Builder) (e : OpenElement) : Builder :=
  { b with stack := b.stack.filter (·.id != e.id) }

/-- Closes a paragraph. -/
def closeParagraph (b : Builder) : Builder :=
  (b.endImpliedExcept "p").close "p"

/-- Closes an open paragraph, if there is one. -/
def closeOpenParagraph (b : Builder) : Builder :=
  if b.inScope OpenElement.stopsParagraphSearch (·.isHtml "p") then b.closeParagraph else b

/-! ## Places -/

/-- Where a part goes. -/
inductive Place where
  /-- Behind the children of a part. -/
  | inside (parent : Nat)
  /-- Before a table, or inside a part if the table has no place. -/
  | beforeTable (table : Nat) (otherwise : Nat)

/-- The number that an element holds its parts under. -/
def holder (b : Builder) (e : OpenElement) : Nat :=
  if e.isHtml "template" then b.page.contents e.id else e.id

/-- The place before the innermost table, or in an inner template. -/
def fosterPlace (b : Builder) : List OpenElement → Place
  | [] => .inside Document.root
  | [e] => .inside (b.holder e)
  | e :: outer :: rest =>
    if e.isHtml "template" then .inside (b.holder e)
    else if e.isHtml "table" then .beforeTable e.id outer.id
    else b.fosterPlace (outer :: rest)

/-- The place of a part that belongs into an element. -/
def placeIn (b : Builder) (target : OpenElement) : Place :=
  if b.isFostering && target.isHtmlIn ["table", "tbody", "tfoot", "thead", "tr"] then
    b.fosterPlace b.stack
  else .inside (b.holder target)

/-- The place of the next part. -/
def place (b : Builder) : Place :=
  match b.stack with
  | e :: _ => b.placeIn e
  | [] => .inside Document.root

/-- Puts a part into a place. -/
def put (b : Builder) (place : Place) (id : Nat) : Builder :=
  match place with
  | .inside parent => { b with page := b.page.append parent id }
  | .beforeTable table otherwise =>
    if (b.page.node table).parent.isSome then { b with page := b.page.insertBefore table id }
    else { b with page := b.page.append otherwise id }

/-- Puts a character into the next place. -/
def putCharacter (b : Builder) (c : Char) : Builder :=
  match b.place with
  | .inside parent => { b with page := b.page.appendText parent c }
  | .beforeTable table otherwise =>
    if (b.page.node table).parent.isSome then { b with page := b.page.insertTextBefore table c }
    else { b with page := b.page.appendText otherwise c }

/-- Puts a comment into the next place. -/
def putRemark (b : Builder) : Builder :=
  let (id, page) := b.page.make .remark
  { b with page }.put b.place id

/-- Puts a comment or document type behind all there is in a part. -/
def putRemarkIn (b : Builder) (parent : Nat) : Builder :=
  let (id, page) := b.page.make .remark
  { b with page := page.append parent id }

/-- Makes an element without a place. -/
def makeElement (b : Builder) (vocabulary : Vocabulary) (name : String)
    (attributes : List Attribute) : OpenElement × Builder :=
  let (id, page) := b.page.makeElement { vocabulary, name, attributes }
  (⟨id, vocabulary, name⟩, { b with page })

/-- Puts an element into the next place without opening it. -/
def putElement (b : Builder) (vocabulary : Vocabulary) (tag : Tag) : OpenElement × Builder :=
  let (e, b) := b.makeElement vocabulary tag.name tag.attributes
  (e, b.put b.place e.id)

/-- Puts an HTML element into the next place and opens it. -/
def enter (b : Builder) (tag : Tag) : Builder :=
  let (e, b) := b.putElement .html tag
  b.push e

/-- Puts an HTML element without a tag into the next place and opens it. -/
def enterImplied (b : Builder) (name : String) : Builder :=
  b.enter { name }

/-- Puts an HTML element that holds nothing into the next place. -/
def insertVoid (b : Builder) (tag : Tag) : Builder :=
  (b.putElement .html tag).2

/-- Adds attributes to an element that lacks them. -/
def addAttributes (b : Builder) (e : OpenElement) (attributes : List Attribute) : Builder :=
  { b with page := b.page.addAttributes e.id attributes }

/-- Gets ready for the raw text of an element. -/
def beginRaw (b : Builder) (kind : RawKind) (name : String) : Builder × Verdict :=
  ({ b with returnMode := b.mode, mode := .inText }, .raw kind name)

/-- Opens an element of raw text. -/
def enterRaw (b : Builder) (kind : RawKind) (tag : Tag) : Builder × Verdict :=
  (b.enter tag).beginRaw kind tag.name

/-- Sets the mode. -/
def inMode (b : Builder) (mode : Mode) : Builder :=
  { b with mode }

/-- No set of frames may come any more. -/
def forbidFrameset (b : Builder) : Builder :=
  { b with framesetAllowed := false }

/-- The outermost open element. -/
def outermost? (b : Builder) : Option OpenElement :=
  b.stack.getLast?

/-- The body, if it is the second open element. -/
def body? (b : Builder) : Option OpenElement :=
  match b.stack.reverse with
  | _ :: e :: _ => if e.isHtml "body" then some e else none
  | _ => none

/-- The mode that the open elements call for. -/
def modeFor (b : Builder) : List OpenElement → Mode
  | [] => .inBody
  | e :: outer =>
    let isLast := outer.isEmpty
    if e.vocabulary != .html then b.modeFor outer
    else
      match e.name with
      | "select" =>
        match outer.find? (·.isHtmlIn ["template", "table"]) with
        | some ancestor => if ancestor.name == "table" then .inSelectInTable else .inSelect
        | none => .inSelect
      | "td" | "th" => if isLast then b.modeFor outer else .inCell
      | "tr" => .inRow
      | "tbody" | "thead" | "tfoot" => .inTableBody
      | "caption" => .inCaption
      | "colgroup" => .inColumnGroup
      | "table" => .inTable
      | "template" => b.templateModes.headD .inTemplate
      | "head" => if isLast then b.modeFor outer else .inHead
      | "body" => .inBody
      | "frameset" => .inFrameset
      | "html" => if b.head.isSome then .afterHead else .beforeHead
      | _ => b.modeFor outer

/-- Sets the mode that the open elements call for. -/
def resetMode (b : Builder) : Builder :=
  { b with mode := b.modeFor b.stack }

end Builder

end PriceTracker.Html
