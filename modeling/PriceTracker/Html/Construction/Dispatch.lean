import PriceTracker.Html.Construction.Table

/-!
# In all other places

What tokens mean in selection lists, templates, sets of frames, behind the body and in other
vocabularies, and `Builder.take`, which gives a token to the rules that apply.
-/

namespace PriceTracker.Html

namespace Builder

/-! ## Selection lists -/

/-- Closes the selection list. -/
def closeSelect (b : Builder) : Builder :=
  (b.close "select").resetMode

/-- Whether a selection list is open. -/
def hasOpenSelect (b : Builder) : Bool :=
  b.inScope OpenElement.stopsSelectSearch (·.isHtml "select")

/-- The end tag of a group of options, which may end an option as well. -/
def endOptionGroup (b : Builder) : Builder :=
  let b := match b.stack with
    | e :: outer :: _ => if e.isHtml "option" && outer.isHtml "optgroup" then b.pop else b
    | _ => b
  if b.currentIs (·.isHtml "optgroup") then b.pop else b

/-- A token in a selection list. -/
def atSelect (b : Builder) (t : Token) : Builder × Verdict :=
  match t with
  | .character c => (if c == '\x00' then b else b.putCharacter c, .done)
  | .comment => (b.putRemark, .done)
  | .doctype _ => (b, .done)
  | .startTag tag =>
    match tag.name with
    | "html" => (b.mergeRoot tag, .done)
    | "option" => ((if b.currentIs (·.isHtml "option") then b.pop else b).enter tag, .done)
    | "optgroup" =>
      let b := if b.currentIs (·.isHtml "option") then b.pop else b
      ((if b.currentIs (·.isHtml "optgroup") then b.pop else b).enter tag, .done)
    | "select" => (if b.hasOpenSelect then b.closeSelect else b, .done)
    | "input" | "keygen" | "textarea" =>
      if b.hasOpenSelect then (b.closeSelect, .again) else (b, .done)
    | "script" | "template" => b.startHeadContent tag
    | _ => (b, .done)
  | .endTag name =>
    match name with
    | "optgroup" => (b.endOptionGroup, .done)
    | "option" => (if b.currentIs (·.isHtml "option") then b.pop else b, .done)
    | "select" => (if b.hasOpenSelect then b.closeSelect else b, .done)
    | "template" => (b.endTemplate, .done)
    | _ => (b, .done)
  | .endOfPage => b.endPage

/-- A token in a selection list inside a table. -/
def atSelectInTable (b : Builder) (t : Token) : Builder × Verdict :=
  let isPart (name : String) : Bool :=
    ["caption", "table", "tbody", "tfoot", "thead", "tr", "td", "th"].contains name
  match t with
  | .startTag tag => if isPart tag.name then (b.closeSelect, .again) else b.atSelect t
  | .endTag name =>
    if isPart name then (if b.hasOpenInTable name then (b.closeSelect, .again) else (b, .done))
    else b.atSelect t
  | _ => b.atSelect t

/-! ## Templates -/

/-- A token right inside a template. -/
def atTemplate (b : Builder) (t : Token) : Builder × Verdict :=
  let goOn (mode : Mode) : Builder × Verdict :=
    ({ b with mode, templateModes := mode :: b.templateModes.tail }, .again)
  match t with
  | .character c => (if c == '\x00' then b else b.characterInBody c, .done)
  | .comment => (b.putRemark, .done)
  | .doctype _ => (b, .done)
  | .startTag tag =>
    if headNames.contains tag.name then b.startHeadContent tag
    else
      match tag.name with
      | "caption" | "colgroup" | "tbody" | "tfoot" | "thead" => goOn .inTable
      | "col" => goOn .inColumnGroup
      | "tr" => goOn .inTableBody
      | "td" | "th" => goOn .inRow
      | _ => goOn .inBody
  | .endTag name => (if name == "template" then b.endTemplate else b, .done)
  | .endOfPage => b.endPageInTemplate

/-! ## Behind the body and in sets of frames -/

/-- A token behind the body. -/
def atAfterBody (b : Builder) (t : Token) : Builder × Verdict :=
  let otherwise := (b.inMode .inBody, Verdict.again)
  match t with
  | .character c => if isMarkupSpace c then b.atBody t else otherwise
  | .comment =>
    match b.outermost? with
    | some e => (b.putRemarkIn e.id, .done)
    | none => (b, .done)
  | .startTag tag => if tag.name == "html" then (b.mergeRoot tag, .done) else otherwise
  | .endTag name => if name == "html" then (b.inMode .afterAfterBody, .done) else otherwise
  | .endOfPage => (b, .done)
  | .doctype _ => (b, .done)

/-- A token behind the end of everything. -/
def atAfterAfterBody (b : Builder) (t : Token) : Builder × Verdict :=
  let otherwise := (b.inMode .inBody, Verdict.again)
  match t with
  | .character c => if isMarkupSpace c then b.atBody t else otherwise
  | .comment => (b.putRemarkIn Document.root, .done)
  | .startTag tag => if tag.name == "html" then (b.mergeRoot tag, .done) else otherwise
  | .endTag _ => otherwise
  | .endOfPage => (b, .done)
  | .doctype _ => (b, .done)

/-- A token in a set of frames. -/
def atFrameset (b : Builder) (t : Token) : Builder × Verdict :=
  match t with
  | .character c => (if isMarkupSpace c then b.putCharacter c else b, .done)
  | .comment => (b.putRemark, .done)
  | .startTag tag =>
    match tag.name with
    | "html" => (b.mergeRoot tag, .done)
    | "frameset" => (b.enter tag, .done)
    | "frame" => (b.insertVoid tag, .done)
    | "noframes" => b.startHeadContent tag
    | _ => (b, .done)
  | .endTag name =>
    if name == "frameset" && b.stack.length != 1 then
      let b := b.pop
      (if b.currentIs (·.isHtml "frameset") then b else b.inMode .afterFrameset, .done)
    else (b, .done)
  | _ => (b, .done)

/-- A token behind a set of frames. -/
def atAfterFrameset (b : Builder) (t : Token) : Builder × Verdict :=
  match t with
  | .character c => (if isMarkupSpace c then b.putCharacter c else b, .done)
  | .comment => (b.putRemark, .done)
  | .startTag tag =>
    match tag.name with
    | "html" => (b.mergeRoot tag, .done)
    | "noframes" => b.startHeadContent tag
    | _ => (b, .done)
  | .endTag name => (if name == "html" then b.inMode .afterAfterFrameset else b, .done)
  | _ => (b, .done)

/-- A token behind the end of a set of frames. -/
def atAfterAfterFrameset (b : Builder) (t : Token) : Builder × Verdict :=
  match t with
  | .character c => if isMarkupSpace c then b.atBody t else (b, .done)
  | .comment => (b.putRemarkIn Document.root, .done)
  | .startTag tag =>
    match tag.name with
    | "html" => (b.mergeRoot tag, .done)
    | "noframes" => b.startHeadContent tag
    | _ => (b, .done)
  | _ => (b, .done)

/-- A token in raw text. -/
def atText (b : Builder) (t : Token) : Builder × Verdict :=
  match t with
  | .character c => (b.putCharacter c, .done)
  | .endTag _ => (b.pop.inMode b.returnMode, .done)
  | .endOfPage => (b.pop.inMode b.returnMode, .again)
  | _ => (b, .done)

/-- A token by the rules of the mode. -/
def atMode (b : Builder) (t : Token) : Builder × Verdict :=
  match b.mode with
  | .initial => b.atInitial t
  | .beforeHtml => b.atBeforeHtml t
  | .beforeHead => b.atBeforeHead t
  | .inHead => b.atHead t
  | .afterHead => b.atAfterHead t
  | .inBody => b.atBody t
  | .inText => b.atText t
  | .inTable => b.atTable t
  | .inTableText => b.atTableText t
  | .inCaption => b.atCaption t
  | .inColumnGroup => b.atColumnGroup t
  | .inTableBody => b.atTableBody t
  | .inRow => b.atRow t
  | .inCell => b.atCell t
  | .inSelect => b.atSelect t
  | .inSelectInTable => b.atSelectInTable t
  | .inTemplate => b.atTemplate t
  | .afterBody => b.atAfterBody t
  | .inFrameset => b.atFrameset t
  | .afterFrameset => b.atAfterFrameset t
  | .afterAfterBody => b.atAfterAfterBody t
  | .afterAfterFrameset => b.atAfterAfterFrameset t

/-! ## Other vocabularies -/

/-- The names of start tags that end a drawing or a formula. -/
def breakoutNames : List String :=
  ["b", "big", "blockquote", "body", "br", "center", "code", "dd", "div", "dl", "dt", "em",
    "embed", "h1", "h2", "h3", "h4", "h5", "h6", "head", "hr", "i", "img", "li", "listing", "menu",
    "meta", "nobr", "ol", "p", "pre", "ruby", "s", "small", "span", "strong", "strike", "sub",
    "sup", "table", "tt", "u", "ul", "var"]

/-- Whether a start tag ends a drawing or a formula. -/
def breaksOut (tag : Tag) : Bool :=
  breakoutNames.contains tag.name ||
    (tag.name == "font" && tag.attributes.any fun x => ["color", "face", "size"].contains x.name)

/-- Closes the elements of a drawing or a formula, as far as HTML does not start again. -/
def breakOut (b : Builder) : Builder :=
  b.pop.popUntil fun e => e.vocabulary == .html || e.isMathText || e.isDrawnHtml

/-- A start tag that goes on in the vocabulary of the innermost element. -/
def startForeign (b : Builder) (tag : Tag) : Builder :=
  match b.current? with
  | none => b
  | some e =>
    let renames := e.vocabulary == .svg && tag.name == "foreignobject"
    b.enterForeign e.vocabulary (if renames then { tag with name := "foreignObject" } else tag)

/-- An end tag among the elements of another vocabulary, looked for from `stack` on. -/
def endForeign (b : Builder) (name : String) (isFirst : Bool) :
    List OpenElement → Builder × Verdict
  | [] | [_] => (b, .done)
  | e :: outer =>
    if !isFirst && e.vocabulary == .html then b.atMode (.endTag name)
    else if e.name.toList.map Char.toLower == name.toList then ({ b with stack := outer }, .done)
    else b.endForeign name false outer

/-- A token in a drawing or a formula. -/
def atForeign (b : Builder) (t : Token) : Builder × Verdict :=
  match t with
  | .character c =>
    if c == '\x00' then (b.putCharacter '\uFFFD', .done)
    else ((if isMarkupSpace c then b else b.forbidFrameset).putCharacter c, .done)
  | .comment => (b.putRemark, .done)
  | .startTag tag => if breaksOut tag then (b.breakOut, .again) else (b.startForeign tag, .done)
  | .endTag name => b.endForeign name true b.stack
  | _ => (b, .done)

/-- Whether the innermost element is one of another vocabulary. -/
def isForeign (b : Builder) : Bool :=
  b.currentIs (·.vocabulary != .html)

/-- Whether the rules of other vocabularies apply to a token. -/
def isForeignToken (b : Builder) (t : Token) : Bool :=
  match b.stack with
  | [] => false
  | e :: _ =>
    e.vocabulary != .html &&
      match t with
      | .endOfPage => false
      | .character _ => !e.isMathText && !e.isDrawnHtml
      | .startTag tag =>
        !(e.isMathText && !(["mglyph", "malignmark"].contains tag.name)) && !e.isDrawnHtml &&
          !(e.vocabulary == .mathml && e.name == "annotation-xml" && tag.name == "svg")
      | _ => true

/-! ## Tokens -/

/-- Gives a token to the rules that apply, at most `fuel` times. -/
def takeUpTo : Nat → Builder → Token → Builder × Verdict
  | 0, b, _ => (b, .done)
  | fuel + 1, b, t =>
    let result := if b.isForeignToken t then b.atForeign t else b.atMode t
    match result with
    | (b, .again) => takeUpTo fuel b t
    | result => result

/-- Takes a token. How often rules can pass it on is bounded by what is open. -/
def take (b : Builder) (t : Token) : Builder × Verdict :=
  let isDropped := match t with
    | .character '\n' => b.dropsLineEnd
    | _ => false
  let b := { b with dropsLineEnd := false }
  let isLateDoctype := match t with
    | .doctype _ => b.mode != .initial
    | _ => false
  if isDropped || isLateDoctype then (b, .done)
  else takeUpTo (4 * (b.stack.length + b.templateModes.length) + 20) b t

end Builder

end PriceTracker.Html
