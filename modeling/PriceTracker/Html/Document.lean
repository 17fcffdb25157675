import PriceTracker.Html.Token

/-!
# Documents

A document is a page as a web of nodes. Nodes are numbered in the order of making, which is also
the order in which a search of the whole document finds them; a page can put a later node before
an earlier one. Node 0 is the document itself.

Each node knows its parent, its neighbours, and its first and last child. A walk through a node
goes by these links: from a node to its first child, from the last of some neighbours to their
parent. The links of a page need not agree with each other, since children that are moved together
do not all learn of it (`Document.moveChildren`); a walk then goes where the links lead.

* `Document.ancestors` are the elements around a node, up to the first parent that is no element;
* `Document.inside` are the nodes that a walk through a node comes to, in order.
-/

namespace PriceTracker.Html

/-- The vocabulary that an element belongs to. -/
inductive Vocabulary where
  | html
  | svg
  | mathml
  deriving DecidableEq, Repr, Inhabited

/-- An element without its content. -/
structure Element where
  vocabulary : Vocabulary := .html
  name : String
  attributes : List Attribute := []
  deriving DecidableEq, Repr, Inhabited

/-- The value of an attribute. -/
def Element.attribute? (e : Element) (name : String) : Option String :=
  (e.attributes.find? (·.name == name)).map (·.value)

/-- The number of a node. -/
abbrev NodeId := Nat

/-- What a node is. -/
inductive Content where
  | document
  | element (e : Element)
  | text (s : String)
  /-- The contents of a template, which hang below it. -/
  | fragment
  /-- A comment or a document type, which holds nothing. -/
  | remark
  deriving DecidableEq, Repr, Inhabited

/-- A node with its links. -/
structure Node where
  content : Content
  parent : Option NodeId := none
  previous : Option NodeId := none
  next : Option NodeId := none
  /-- The first and the last child. -/
  children : Option (NodeId × NodeId) := none
  deriving DecidableEq, Repr, Inhabited

/-- A page. -/
structure Document where
  nodes : Array Node := #[{ content := .document }]
  deriving DecidableEq, Repr, Inhabited

namespace Document

/-- The number of the document itself. -/
def root : NodeId := 0

/-- The node of a number; a number without a node has a remark without links. -/
def node (d : Document) (id : NodeId) : Node :=
  d.nodes.getD id { content := .remark }

/-- The element that a node is, if it is one. -/
def element? (d : Document) (id : NodeId) : Option Element :=
  match (d.node id).content with
  | .element e => some e
  | _ => none

/-- The text that a node is, if it is one. -/
def text? (d : Document) (id : NodeId) : Option String :=
  match (d.node id).content with
  | .text s => some s
  | _ => none

/-- The elements around a node, the innermost first, at most `fuel` of them. -/
def ancestorsUpTo (d : Document) : Nat → NodeId → List Element
  | 0, _ => []
  | fuel + 1, id =>
    match (d.node id).parent with
    | none => []
    | some parent =>
      match d.element? parent with
      | none => []
      | some e => e :: d.ancestorsUpTo fuel parent

/-- The elements around a node, the innermost first. -/
def ancestors (d : Document) (id : NodeId) : List Element :=
  d.ancestorsUpTo d.nodes.size id

/-! ## Walks -/

/-- A step of a walk. -/
inductive Stop where
  /-- Coming to a node. -/
  | enter (id : NodeId)
  /-- Having been through a node. -/
  | leave (id : NodeId)
  deriving DecidableEq, Repr

/-- The step after a step of a walk through `start`. -/
def nextStop? (d : Document) (start : NodeId) : Stop → Option Stop
  | .enter id =>
    match (d.node id).children with
    | some (first, _) => some (.enter first)
    | none => some (.leave id)
  | .leave id =>
    if id = start then none
    else
      match (d.node id).next with
      | some next => some (.enter next)
      | none => (d.node id).parent.map .leave

/-- The nodes that a walk comes to from a step on, in at most `fuel` steps. -/
def walkUpTo (d : Document) (start : NodeId) : Nat → Stop → List NodeId
  | 0, _ => []
  | fuel + 1, stop =>
    let rest := match d.nextStop? start stop with
      | some next => d.walkUpTo start fuel next
      | none => []
    match stop with
    | .enter id => id :: rest
    | .leave _ => rest

/-- The nodes that a walk through a node comes to, without the node itself. A walk that ends takes
each step once, so their number bounds it. -/
def inside (d : Document) (id : NodeId) : List NodeId :=
  (d.walkUpTo id (2 * d.nodes.size + 1) (.enter id)).tail

/-- The texts inside a node, in order. -/
def texts (d : Document) (id : NodeId) : List (List Char) :=
  (d.inside id).filterMap fun n => (d.text? n).map String.toList

/-- The elements that hang below something, in the order of making. -/
def elements (d : Document) : List NodeId :=
  (List.range d.nodes.size).filter fun id => (d.element? id).isSome && (d.node id).parent.isSome

end Document

end PriceTracker.Html
