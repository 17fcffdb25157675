import PriceTracker.Html.Document
import PriceTracker.Text.Blank

/-!
# Selectors

A selector names elements by what they are and what they stand in: the last of its conditions is
met by the element itself, the others by elements around it, from the outside in. Names of classes
and identifiers count with their letter case.
-/

namespace PriceTracker.Html

/-- The classes of an element. -/
def Element.classes (e : Element) : List (List Char) :=
  match e.attribute? "class" with
  | some value => Text.words value.toList
  | none => []

/-- Whether an element has a class. -/
def Element.hasClass (e : Element) (name : String) : Bool :=
  e.classes.contains name.toList

/-- A condition on one element. -/
structure Condition where
  /-- The name of the element. -/
  name : Option String := none
  /-- Its identifier. -/
  id : Option String := none
  /-- Classes that it has. -/
  classes : List String := []
  /-- Classes that it lacks. -/
  absent : List String := []
  deriving DecidableEq, Repr, Inhabited

/-- Whether an element meets a condition. -/
def Condition.holds (c : Condition) (e : Element) : Bool :=
  c.name.all (e.name == ·) && c.id.all (e.attribute? "id" == some ·) &&
    c.classes.all e.hasClass && c.absent.all (!e.hasClass ·)

/-- Conditions on an element and those around it: the outer ones come first. -/
structure Selector where
  /-- What elements around it meet, from the outside in. -/
  around : List Condition := []
  /-- What the element itself meets. -/
  target : Condition
  deriving DecidableEq, Repr, Inhabited

/-- Whether conditions, given from the inside out, are met in order by some of the elements. -/
def metInOrder : List Condition → List Element → Bool
  | [], _ => true
  | _ :: _, [] => false
  | c :: cs, e :: es => if c.holds e then metInOrder cs es else metInOrder (c :: cs) es

/-- Whether a node is an element that the selector names. -/
def Selector.names (s : Selector) (d : Document) (id : NodeId) : Bool :=
  match d.element? id with
  | some e => s.target.holds e && metInOrder s.around.reverse (d.ancestors id)
  | none => false

namespace Document

/-- The named elements of a document, in the order of making. -/
def select (d : Document) (s : Selector) : List NodeId :=
  d.elements.filter (s.names d)

/-- The value of an attribute of a node. -/
def attribute? (d : Document) (id : NodeId) (name : String) : Option String :=
  (d.element? id).bind (·.attribute? name)

/-- The text of a node: its words with one space between neighbours. Texts that stand apart in the
page do not run together. -/
def visibleText (d : Document) (id : NodeId) : List Char :=
  Text.squeeze ([' '].intercalate (d.texts id))

/-- The text of the first named element inside a node, unless it is blank. -/
def firstText? (d : Document) (id : NodeId) (s : Selector) : Option String :=
  match (d.inside id).find? (s.names d) with
  | none => none
  | some first =>
    let text := d.visibleText first
    if text.isEmpty then none else some (String.ofList text)

/-- The value of an attribute of the first named element inside a node. -/
def firstAttribute? (d : Document) (id : NodeId) (s : Selector) (name : String) : Option String :=
  ((d.inside id).find? (s.names d)).bind (d.attribute? · name)

end Document

end PriceTracker.Html
