import PriceTracker.Html.Construction.Formatting
import PriceTracker.Html.Construction.LegacyMode

/-!
# Before the body

What tokens mean up to the body: the root, the head and what the head may hold.
-/

namespace PriceTracker.Html

namespace Builder

/-- Whether the token is an end tag that ends the head where it stands. -/
def endsHead (name : String) : Bool :=
  ["head", "body", "html", "br"].contains name

/-- A further `html` tag: its attributes go to the root. -/
def mergeRoot (b : Builder) (tag : Tag) : Builder :=
  if b.inTemplateElement then b
  else
    match b.outermost? with
    | some e => b.addAttributes e tag.attributes
    | none => b

/-- The names of start tags that belong into the head wherever they stand. -/
def headNames : List String :=
  ["base", "basefont", "bgsound", "link", "meta", "noframes", "script", "style", "template", "title"]

/-- A start tag that belongs into the head. -/
def startHeadContent (b : Builder) (tag : Tag) : Builder × Verdict :=
  match tag.name with
  | "title" => b.enterRaw .withReferences tag
  | "script" => b.enterRaw .script tag
  | "noframes" | "style" | "noscript" => b.enterRaw .plain tag
  | "template" =>
    let b := (b.enter tag).mark.forbidFrameset
    ({ b with mode := .inTemplate, templateModes := .inTemplate :: b.templateModes }, .done)
  | _ => (b.insertVoid tag, .done)

/-- The end tag of a template. -/
def endTemplate (b : Builder) : Builder :=
  if !b.inTemplateElement then b
  else
    let b := { b with stack := b.stack.dropWhile OpenElement.mayEndInTemplate }
    let b := (b.close "template").clearToMarker
    { b with templateModes := b.templateModes.tail }.resetMode

/-- A token before everything else. -/
def atInitial (b : Builder) (t : Token) : Builder × Verdict :=
  match t with
  | .character c =>
    if isMarkupSpace c then (b, .done)
    else ({ b with isLegacy := true, mode := .beforeHtml }, .again)
  | .comment => (b.putRemarkIn Document.root, .done)
  | .doctype d =>
    let b := b.putRemarkIn Document.root
    ({ b with isLegacy := d.isLegacy, mode := .beforeHtml }, .done)
  | _ => ({ b with isLegacy := true, mode := .beforeHtml }, .again)

/-- Makes the root. -/
def enterRoot (b : Builder) (attributes : List Attribute) : Builder :=
  let (e, b) := b.makeElement .html "html" attributes
  { b with page := b.page.append Document.root e.id, stack := [e], mode := .beforeHead }

/-- A token before the root. -/
def atBeforeHtml (b : Builder) (t : Token) : Builder × Verdict :=
  let otherwise := (b.enterRoot [], Verdict.again)
  match t with
  | .character c => if isMarkupSpace c then (b, .done) else otherwise
  | .comment => (b.putRemarkIn Document.root, .done)
  | .startTag tag => if tag.name == "html" then (b.enterRoot tag.attributes, .done) else otherwise
  | .endTag name => if endsHead name then otherwise else (b, .done)
  | _ => otherwise

/-- Opens the head. -/
def enterHead (b : Builder) (tag : Tag) : Builder :=
  let b := b.enter tag
  { b with head := b.current?, mode := .inHead }

/-- A token before the head. -/
def atBeforeHead (b : Builder) (t : Token) : Builder × Verdict :=
  let otherwise := (b.enterHead { name := "head" }, Verdict.again)
  match t with
  | .character c => if isMarkupSpace c then (b, .done) else otherwise
  | .comment => (b.putRemark, .done)
  | .startTag tag =>
    match tag.name with
    | "html" => (b.mergeRoot tag, .done)
    | "head" => (b.enterHead tag, .done)
    | _ => otherwise
  | .endTag name => if endsHead name then otherwise else (b, .done)
  | _ => otherwise

/-- A token in the head. -/
def atHead (b : Builder) (t : Token) : Builder × Verdict :=
  let otherwise := (b.pop.inMode .afterHead, Verdict.again)
  match t with
  | .character c => if isMarkupSpace c then (b.putCharacter c, .done) else otherwise
  | .comment => (b.putRemark, .done)
  | .startTag tag =>
    if tag.name == "html" then (b.mergeRoot tag, .done)
    else if headNames.contains tag.name || tag.name == "noscript" then b.startHeadContent tag
    else if tag.name == "head" then (b, .done)
    else otherwise
  | .endTag name =>
    match name with
    | "head" => (b.pop.inMode .afterHead, .done)
    | "template" => (b.endTemplate, .done)
    | _ => if endsHead name then otherwise else (b, .done)
  | _ => otherwise

/-- A token between the head and the body. -/
def atAfterHead (b : Builder) (t : Token) : Builder × Verdict :=
  let otherwise := ((b.enterImplied "body").inMode .inBody, Verdict.again)
  match t with
  | .character c => if isMarkupSpace c then (b.putCharacter c, .done) else otherwise
  | .comment => (b.putRemark, .done)
  | .startTag tag =>
    match tag.name with
    | "html" => (b.mergeRoot tag, .done)
    | "body" => ((b.enter tag).forbidFrameset.inMode .inBody, .done)
    | "frameset" => ((b.enter tag).inMode .inFrameset, .done)
    | "head" => (b, .done)
    | name =>
      if headNames.contains name then
        match b.head with
        | some head =>
          let (b, verdict) := (b.push head).startHeadContent tag
          (b.removeOpen head, verdict)
        | none => b.startHeadContent tag
      else otherwise
  | .endTag name =>
    match name with
    | "template" => (b.endTemplate, .done)
    | "body" | "html" | "br" => otherwise
    | _ => (b, .done)
  | _ => otherwise

end Builder

end PriceTracker.Html
