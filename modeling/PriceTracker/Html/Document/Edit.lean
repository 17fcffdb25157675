import PriceTracker.Html.Document

/-!
# Changing documents

How nodes are made and linked while a page is read.
-/

namespace PriceTracker.Html.Document

/-- Changes a node. -/
def update (d : Document) (id : NodeId) (change : Node → Node) : Document :=
  { d with nodes := d.nodes.modify id change }

/-- Changes a node, if there is one. -/
def updateAt? (d : Document) (id : Option NodeId) (change : Node → Node) : Document :=
  match id with
  | some id => d.update id change
  | none => d

/-- Makes a node without links. -/
def make (d : Document) (content : Content) : NodeId × Document :=
  (d.nodes.size, { d with nodes := d.nodes.push { content } })

/-- The children of a parent that loses one, whose neighbours are given. -/
def childrenWithout (id : NodeId) (previous next : Option NodeId) :
    Option (NodeId × NodeId) → Option (NodeId × NodeId)
  | none => none
  | some (first, last) =>
    if first = last then none
    else if first = id then next.map (·, last)
    else if last = id then previous.map (first, ·)
    else some (first, last)

/-- Takes a node away from its parent and its neighbours. -/
def detach (d : Document) (id : NodeId) : Document :=
  let n := d.node id
  match n.parent with
  | none => d
  | some parent =>
    let d := d.update id ({ · with parent := none, previous := none, next := none })
    let d := d.updateAt? n.previous ({ · with next := n.next })
    let d := d.updateAt? n.next ({ · with previous := n.previous })
    d.update parent fun p => { p with children := childrenWithout id n.previous n.next p.children }

/-- Puts a node behind the children of another. -/
def append (d : Document) (parent id : NodeId) : Document :=
  let d := d.detach id
  let last := (d.node parent).children.map (·.2)
  let d := d.update id ({ · with parent := some parent, previous := last })
  let d := d.updateAt? last ({ · with next := some id })
  d.update parent fun p => { p with children := some ((p.children.map (·.1)).getD id, id) }

/-- Puts a node right before another, below the parent of that. -/
def insertBefore (d : Document) (sibling id : NodeId) : Document :=
  let d := d.detach id
  let s := d.node sibling
  match s.parent with
  | none => d
  | some parent =>
    let d := d.update id
      ({ · with parent := some parent, previous := s.previous, next := some sibling })
    let d := d.updateAt? s.previous ({ · with next := some id })
    let d := d.update sibling ({ · with previous := some id })
    d.update parent fun p =>
      { p with
        children := p.children.map fun (first, last) =>
          (if first = sibling then id else first, last) }

/-- Moves all children of a node behind those of another. Of the moved children, only the first
and the last learn of their new parent. -/
def moveChildren (d : Document) (source target : NodeId) : Document :=
  match (d.node source).children with
  | none => d
  | some (first, last) =>
    let d := d.update source ({ · with children := none })
    let d := d.update first ({ · with parent := some target })
    let d := d.update last ({ · with parent := some target })
    match (d.node target).children with
    | none => d.update target ({ · with children := some (first, last) })
    | some (oldFirst, oldLast) =>
      let d := d.update oldLast ({ · with next := some first })
      let d := d.update first ({ · with previous := some oldLast })
      d.update target ({ · with children := some (oldFirst, last) })

/-! ## Elements and texts -/

/-- Makes an element without a place; a template gets its fragment. -/
def makeElement (d : Document) (e : Element) : NodeId × Document :=
  let (id, d) := d.make (.element e)
  if e.vocabulary == .html && e.name == "template" then
    let (contents, d) := d.make .fragment
    (id, d.append id contents)
  else (id, d)

/-- The node that holds the contents of a template. -/
def contents (d : Document) (template : NodeId) : NodeId :=
  match (d.node template).children with
  | some (first, _) => first
  | none => template

/-- Adds a character to a text. -/
def extendText (d : Document) (id : NodeId) (c : Char) : Document :=
  d.update id fun n =>
    match n with
    | { content := .text s, parent, previous, next, children } =>
      { content := .text (s.push c), parent, previous, next, children }
    | n => n

/-- Adds a character at the end of a node: to its last child if that is a text, or as a new
text. -/
def appendText (d : Document) (parent : NodeId) (c : Char) : Document :=
  let last := (d.node parent).children.map (·.2)
  match last.filter fun id => (d.text? id).isSome with
  | some id => d.extendText id c
  | none =>
    let (id, d) := d.make (.text (String.singleton c))
    d.append parent id

/-- Adds a character right before a node: to its neighbour if that is a text, or as a new text. -/
def insertTextBefore (d : Document) (sibling : NodeId) (c : Char) : Document :=
  match (d.node sibling).previous.filter fun id => (d.text? id).isSome with
  | some id => d.extendText id c
  | none =>
    let (id, d) := d.make (.text (String.singleton c))
    d.insertBefore sibling id

/-- Adds the attributes that an element does not have yet. -/
def addAttributes (d : Document) (id : NodeId) (attributes : List Attribute) : Document :=
  d.update id fun n =>
    match n.content with
    | .element e =>
      let new := attributes.filter fun x => !e.attributes.any (·.name == x.name)
      { n with content := .element { e with attributes := e.attributes ++ new } }
    | _ => n

end PriceTracker.Html.Document
