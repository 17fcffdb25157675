import PriceTracker.Html.Construction.Builder

/-!
# Formatting elements

Formatting elements such as `b` and `a` reach across block boundaries: `Builder.reopen` opens them
again where they were broken off, and `Builder.endFormatting` gives each of the overlapping
elements its share when one of them ends inside a block that began within it.
-/

namespace PriceTracker.Html

namespace Builder

/-! ## Opening again -/

/-- Whether an entry needs not be opened again, nor those before it. -/
def isSettled (b : Builder) : FormatEntry → Bool
  | .marker => true
  | .element e _ => b.stack.any (·.id == e.id)

/-- Opens the elements of entries, given oldest first. -/
def reopenAll (b : Builder) : List FormatEntry → Builder
  | [] => b
  | .marker :: rest => b.reopenAll rest
  | .element _ tag :: rest =>
    let (e, b) := b.putElement .html tag
    let b := b.push e
    reopenAll { b with formatting := .element e tag :: b.formatting } rest

/-- Opens the formatting elements again that were broken off. -/
def reopen (b : Builder) : Builder :=
  let broken := b.formatting.takeWhile (!b.isSettled ·)
  reopenAll { b with formatting := b.formatting.drop broken.length } broken.reverse

/-- The entries up to the boundary, the latest first. -/
def recentFormatting (b : Builder) : List FormatEntry :=
  b.formatting.takeWhile (!·.isMarker)

/-- Takes out the first entry that passes the test. -/
def dropEntry (b : Builder) (test : FormatEntry → Bool) : Builder :=
  { b with formatting := b.formatting.eraseP test }

/-- The most equal entries that are kept. -/
def mostEqualEntries : Nat := 3

/-- Opens a formatting element. Of more than three equal ones, the earliest is forgotten. -/
def enterFormatting (b : Builder) (tag : Tag) : Builder :=
  let isEqual : FormatEntry → Bool
    | .marker => false
    | .element _ t => t.sameAs tag
  let recent := b.recentFormatting
  let b :=
    if mostEqualEntries ≤ recent.countP isEqual then
      { b with
        formatting :=
          (recent.reverse.eraseP isEqual).reverse ++ b.formatting.drop recent.length }
    else b
  let (e, b) := b.putElement .html tag
  let b := b.push e
  { b with formatting := .element e tag :: b.formatting }

/-- Sets a boundary. -/
def mark (b : Builder) : Builder :=
  { b with formatting := .marker :: b.formatting }

/-- Forgets the entries up to and with the boundary. -/
def clearToMarker (b : Builder) : Builder :=
  { b with formatting := (b.formatting.dropWhile (!·.isMarker)).tail }

/-! ## Ending -/

/-- An end tag that no rule names: it closes the innermost element of its name, but reaches
through no special element. -/
def endOther (b : Builder) (name : String) : Builder :=
  let isBarrier (e : OpenElement) := e.isHtml name || e.isSpecial
  match b.stack.find? isBarrier with
  | some e =>
    if e.isHtml name then
      { b with stack := (b.stack.dropWhile (·.id != e.id)).tail }
    else b
  | none => b

/-- How the elements between a formatting element and a block within it are carried over. -/
structure Carried where
  builder : Builder
  /-- The elements that stay open, the innermost first. -/
  kept : List OpenElement := []
  /-- The element that holds what was carried so far. -/
  last : OpenElement
  /-- The entry that the new formatting element comes after; none if it takes the place of the
  old one. -/
  after : Option OpenElement := none

/-- The most elements between a formatting element and a block that are carried over. -/
def mostCarried : Nat := 3

/-- Carries over one element, the `count`-th: it is made again around what was carried so far. -/
def Carried.step (block : OpenElement) (count : Nat) (c : Carried) (e : OpenElement) : Carried :=
  let entry? := c.builder.formatting.find? (·.isElement e)
  match entry? with
  | some (.element _ tag) =>
    if mostCarried < count then { c with builder := c.builder.dropEntry (·.isElement e) }
    else
      let (new, b) := c.builder.makeElement .html tag.name tag.attributes
      let swap (entry : FormatEntry) : FormatEntry :=
        if entry.isElement e then .element new tag else entry
      { builder := { b with
          formatting := b.formatting.map swap
          page := b.page.append new.id c.last.id }
        kept := c.kept ++ [new]
        last := new
        after := if c.last.id == block.id then some new else c.after }
  | _ => c

/-- Carries over elements in order. -/
def Carried.run (block : OpenElement) : Nat → Carried → List OpenElement → Carried
  | _, c, [] => c
  | count, c, e :: rest => run block (count + 1) (c.step block count e) rest

/-- Puts the entry of the new formatting element where it belongs and takes out the old one. -/
def replaceEntry (b : Builder) (old : OpenElement) (after : Option OpenElement)
    (new : FormatEntry) : Builder :=
  match after with
  | none =>
    { b with formatting := b.formatting.map fun entry => if entry.isElement old then new else entry }
  | some e =>
    let formatting := b.formatting.flatMap fun entry =>
      if entry.isElement e then [new, entry] else [entry]
    { b with formatting := formatting.eraseP (·.isElement old) }

/-- Splits a formatting element around a block that began within it. `inner` are the open elements
within the block, `between` those between block and formatting element, `outer` those around it. -/
def splitAround (b : Builder) (old : OpenElement) (tag : Tag) (block : OpenElement)
    (inner between outer : List OpenElement) : Builder :=
  let c := Carried.run block 1 { builder := b, last := block } between
  let b := { c.builder with page := c.builder.page.detach c.last.id }
  let b := match outer with
    | ancestor :: _ => b.put (b.placeIn ancestor) c.last.id
    | [] => b
  let (new, b) := b.makeElement .html tag.name tag.attributes
  let page := b.page.moveChildren block.id new.id
  let b := { b with page := page.append block.id new.id }
  let b := b.replaceEntry old c.after (.element new tag)
  { b with stack := inner ++ new :: block :: c.kept ++ outer }

/-- One round of ending a formatting element; none if nothing is left to do. -/
def endFormattingOnce (b : Builder) (name : String) : Builder × Bool :=
  let isNamed : FormatEntry → Bool
    | .marker => false
    | .element _ tag => tag.name == name
  match b.recentFormatting.find? isNamed with
  | some (.element e tag) =>
    if !b.stack.any (·.id == e.id) then (b.dropEntry (·.isElement e), false)
    else if !b.inScope OpenElement.stopsSearch (·.id == e.id) then (b, false)
    else
      let above := b.stack.takeWhile (·.id != e.id)
      let outer := (b.stack.dropWhile (·.id != e.id)).tail
      match above.reverse.find? OpenElement.isSpecial with
      | none => ({ b with stack := outer }.dropEntry (·.isElement e), false)
      | some block =>
        let inner := above.takeWhile (·.id != block.id)
        let between := (above.dropWhile (·.id != block.id)).tail
        (b.splitAround e tag block inner between outer, true)
  | _ => (b.endOther name, false)

/-- Rounds of ending a formatting element, up to a number. -/
def endFormattingUpTo : Nat → Builder → String → Builder
  | 0, b, _ => b
  | rounds + 1, b, name =>
    let (b, goesOn) := b.endFormattingOnce name
    if goesOn then endFormattingUpTo rounds b name else b

/-- The most rounds of ending a formatting element. -/
def mostRounds : Nat := 8

/-- Ends a formatting element. -/
def endFormatting (b : Builder) (name : String) : Builder :=
  match b.stack with
  | e :: _ =>
    if e.isHtml name && !b.formatting.any (·.isElement e) then b.pop
    else endFormattingUpTo mostRounds b name
  | [] => b

/-- Ends a link that is still open before another begins. -/
def endOpenLink (b : Builder) : Builder :=
  let isLink : FormatEntry → Bool
    | .marker => false
    | .element e _ => e.isHtml "a"
  match b.recentFormatting.find? isLink with
  | some (.element e _) =>
    let b := b.endFormatting "a"
    (b.dropEntry (·.isElement e)).removeOpen e
  | _ => b

end Builder

end PriceTracker.Html
