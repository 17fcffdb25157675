import PriceTracker.Html.Construction.Head

/-!
# In the body

What tokens mean in the body. Most other modes leave to these rules what they have no rule for.
-/

namespace PriceTracker.Html

namespace Builder

/-- The names of elements that end an open paragraph. -/
def blockNames : List String :=
  ["address", "article", "aside", "blockquote", "center", "details", "dialog", "dir", "div", "dl",
    "fieldset", "figcaption", "figure", "footer", "header", "hgroup", "main", "menu", "nav", "ol",
    "p", "section", "summary", "ul"]

/-- The names of block elements that an end tag closes. -/
def closableNames : List String :=
  ["address", "article", "aside", "blockquote", "button", "center", "details", "dialog", "dir",
    "div", "dl", "fieldset", "figcaption", "figure", "footer", "header", "hgroup", "listing",
    "main", "menu", "nav", "ol", "pre", "section", "summary", "ul"]

/-- The names of headings. -/
def headingNames : List String :=
  ["h1", "h2", "h3", "h4", "h5", "h6"]

/-- The names of formatting elements without rules of their own. -/
def formattingNames : List String :=
  ["b", "big", "code", "em", "font", "i", "s", "small", "strike", "strong", "tt", "u"]

/-- The names of start tags that mean nothing in the body. -/
def strayNames : List String :=
  ["caption", "col", "colgroup", "frame", "head", "tbody", "td", "tfoot", "th", "thead", "tr"]

/-- Whether an `input` tag makes a hidden field. -/
def isHiddenField (tag : Tag) : Bool :=
  (tag.attribute? "type").any fun value => value.toList.map Char.toLower == "hidden".toList

/-- The end of the page within templates: the innermost one is closed. -/
def endPageInTemplate (b : Builder) : Builder × Verdict :=
  if !b.inTemplateElement then (b, .done)
  else
    let b := (b.close "template").clearToMarker
    ({ b with templateModes := b.templateModes.tail }.resetMode, .again)

/-- The end of the page. -/
def endPage (b : Builder) : Builder × Verdict :=
  if b.templateModes.isEmpty then (b, .done) else b.endPageInTemplate

/-- A character of text. -/
def characterInBody (b : Builder) (c : Char) : Builder :=
  if c == '\x00' then b
  else
    let b := b.reopen
    let b := if isMarkupSpace c then b else b.forbidFrameset
    b.putCharacter c

/-! ## Start tags -/

/-- A further `body` tag: its attributes go to the body. -/
def mergeBody (b : Builder) (tag : Tag) : Builder :=
  match b.body? with
  | some body => if b.inTemplateElement then b else b.forbidFrameset.addAttributes body tag.attributes
  | none => b

/-- A set of frames, which takes the place of the body. -/
def replaceBody (b : Builder) (tag : Tag) : Builder :=
  match b.framesetAllowed, b.body? with
  | true, some body =>
    let b := { b with
      page := b.page.detach body.id
      stack := b.outermost?.toList }
    (b.enter tag).inMode .inFrameset
  | _, _ => b

/-- A list item, or a part of a definition list: it ends the open one before it. -/
def startItem (b : Builder) (tag : Tag) (siblings : List String) : Builder :=
  let b := b.forbidFrameset
  let stops (e : OpenElement) : Bool := e.isSpecial && !e.isHtmlIn ["address", "div", "p"]
  let b := match b.stack.find? fun e => e.isHtmlIn siblings || stops e with
    | some e =>
      if e.isHtmlIn siblings then (b.endImpliedExcept e.name).close e.name else b
    | none => b
  b.closeOpenParagraph.enter tag

/-- A form, unless one is open. -/
def startForm (b : Builder) (tag : Tag) : Builder :=
  if b.form.isSome && !b.inTemplateElement then b
  else
    let b := b.closeOpenParagraph.enter tag
    if b.inTemplateElement then b else { b with form := b.current? }

/-- An element of another vocabulary. -/
def enterForeign (b : Builder) (vocabulary : Vocabulary) (tag : Tag) : Builder :=
  let (e, b) := b.putElement vocabulary tag
  if tag.selfClosing then b else b.push e

/-- A start tag with a rule that its element shares with no other. -/
def startSingleInBody? (b : Builder) (tag : Tag) : Option (Builder × Verdict) :=
  match tag.name with
  | "html" => some (b.mergeRoot tag, .done)
  | "body" => some (b.mergeBody tag, .done)
  | "frameset" => some (b.replaceBody tag, .done)
  | "form" => some (b.startForm tag, .done)
  | "plaintext" => some (b.closeOpenParagraph.enter tag, .raw .endless tag.name)
  | "button" =>
    let b := if b.hasOpen "button" then b.endImplied.close "button" else b
    some ((b.reopen.enter tag).forbidFrameset, .done)
  | "a" => some (b.endOpenLink.reopen.enterFormatting tag, .done)
  | "nobr" =>
    let b := b.reopen
    let b := if b.hasOpen "nobr" then (b.endFormatting "nobr").reopen else b
    some (b.enterFormatting tag, .done)
  | "table" =>
    let b := if b.isLegacy then b else b.closeOpenParagraph
    some ((b.enter tag).forbidFrameset.inMode .inTable, .done)
  | "hr" => some ((b.closeOpenParagraph.insertVoid tag).forbidFrameset, .done)
  | "image" => some ((b.reopen.insertVoid { tag with name := "img" }).forbidFrameset, .done)
  | "input" =>
    let b := b.reopen.insertVoid tag
    some (if isHiddenField tag then b else b.forbidFrameset, .done)
  | "textarea" =>
    some ({ b with dropsLineEnd := true }.forbidFrameset.enterRaw .withReferences tag)
  | "xmp" => some (b.closeOpenParagraph.reopen.forbidFrameset.enterRaw .plain tag)
  | "iframe" => some (b.forbidFrameset.enterRaw .plain tag)
  | "noembed" | "noscript" => some (b.enterRaw .plain tag)
  | "select" =>
    let inTable := [Mode.inTable, .inCaption, .inTableBody, .inRow, .inCell].contains b.mode
    some ((b.reopen.enter tag).forbidFrameset.inMode (if inTable then .inSelectInTable else .inSelect),
      .done)
  | "math" => some (b.enterForeign .mathml tag, .done)
  | "svg" => some (b.enterForeign .svg tag, .done)
  | _ => none

/-- A start tag with a rule for several elements. -/
def startInBody (b : Builder) (tag : Tag) : Builder × Verdict :=
  let name := tag.name
  if headNames.contains name then b.startHeadContent tag
  else if blockNames.contains name then (b.closeOpenParagraph.enter tag, .done)
  else if headingNames.contains name then
    let b := b.closeOpenParagraph
    let b := if b.currentIs OpenElement.isHeading then b.pop else b
    (b.enter tag, .done)
  else if ["pre", "listing"].contains name then
    ({ b.closeOpenParagraph.enter tag with dropsLineEnd := true }.forbidFrameset, .done)
  else if name == "li" then (b.startItem tag ["li"], .done)
  else if ["dd", "dt"].contains name then (b.startItem tag ["dd", "dt"], .done)
  else if formattingNames.contains name then (b.reopen.enterFormatting tag, .done)
  else if ["applet", "marquee", "object"].contains name then
    ((b.reopen.enter tag).mark.forbidFrameset, .done)
  else if ["area", "br", "embed", "img", "keygen", "wbr"].contains name then
    ((b.reopen.insertVoid tag).forbidFrameset, .done)
  else if ["param", "source", "track"].contains name then (b.insertVoid tag, .done)
  else if ["optgroup", "option"].contains name then
    let b := if b.currentIs (·.isHtml "option") then b.pop else b
    (b.reopen.enter tag, .done)
  else if ["rb", "rtc"].contains name then
    ((if b.hasOpen "ruby" then b.endImplied else b).enter tag, .done)
  else if ["rp", "rt"].contains name then
    ((if b.hasOpen "ruby" then b.endImpliedExcept "rtc" else b).enter tag, .done)
  else if strayNames.contains name then (b, .done)
  else (b.reopen.enter tag, .done)

/-! ## End tags -/

/-- The end of a form. -/
def endForm (b : Builder) : Builder :=
  if b.inTemplateElement then
    if b.hasOpen "form" then b.endImplied.close "form" else b
  else
    match b.form with
    | none => b
    | some form =>
      let b := { b with form := none }
      if b.inScope OpenElement.stopsSearch (·.id == form.id) then b.endImplied.removeOpen form else b

/-- An end tag in the body. -/
def endInBody (b : Builder) (name : String) : Builder × Verdict :=
  match name with
  | "template" => (b.endTemplate, .done)
  | "body" => (if b.hasOpen "body" then b.inMode .afterBody else b, .done)
  | "html" => if b.hasOpen "body" then (b.inMode .afterBody, .again) else (b, .done)
  | "form" => (b.endForm, .done)
  | "p" =>
    let isOpen := b.inScope OpenElement.stopsParagraphSearch (·.isHtml "p")
    ((if isOpen then b else b.enterImplied "p").closeParagraph, .done)
  | "li" =>
    let isOpen := b.inScope OpenElement.stopsListSearch (·.isHtml "li")
    (if isOpen then (b.endImpliedExcept "li").close "li" else b, .done)
  | "dd" | "dt" => (if b.hasOpen name then (b.endImpliedExcept name).close name else b, .done)
  | "br" => ((b.reopen.insertVoid { name := "br" }).forbidFrameset, .done)
  | _ =>
    if closableNames.contains name then
      (if b.hasOpen name then b.endImplied.close name else b, .done)
    else if headingNames.contains name then
      let isOpen := b.inScope OpenElement.stopsSearch OpenElement.isHeading
      (if isOpen then b.endImplied.popThrough OpenElement.isHeading else b, .done)
    else if formattingNames.contains name || ["a", "nobr"].contains name then
      (b.endFormatting name, .done)
    else if ["applet", "marquee", "object"].contains name then
      (if b.hasOpen name then (b.endImplied.close name).clearToMarker else b, .done)
    else (b.endOther name, .done)

/-- A token in the body. -/
def atBody (b : Builder) (t : Token) : Builder × Verdict :=
  match t with
  | .character c => (b.characterInBody c, .done)
  | .comment => (b.putRemark, .done)
  | .doctype _ => (b, .done)
  | .startTag tag =>
    match b.startSingleInBody? tag with
    | some result => result
    | none => b.startInBody tag
  | .endTag name => b.endInBody name
  | .endOfPage => b.endPage

end Builder

end PriceTracker.Html
