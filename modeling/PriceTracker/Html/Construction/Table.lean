import PriceTracker.Html.Construction.Body

/-!
# In tables

What tokens mean inside tables. What may not stand in a table goes before it.
-/

namespace PriceTracker.Html

namespace Builder

/-- A token by the rules of the body, its parts going before the table. -/
def foster (b : Builder) (t : Token) : Builder × Verdict :=
  let (b, verdict) := { b with isFostering := true }.atBody t
  ({ b with isFostering := false }, verdict)

/-- A character where a table holds no text. -/
def characterInTable (b : Builder) (t : Token) : Builder × Verdict :=
  if b.currentIs (·.isHtmlIn ["table", "tbody", "tfoot", "thead", "tr"]) then
    ({ b with returnMode := b.mode, mode := .inTableText, tableText := [] }, .again)
  else b.foster t

/-- Closes elements up to the table. -/
def backToTable (b : Builder) : Builder :=
  b.popUntil OpenElement.stopsTableSearch

/-- Closes elements up to the body of the table. -/
def backToTableBody (b : Builder) : Builder :=
  b.popUntil (·.isHtmlIn ["tbody", "tfoot", "thead", "template", "html"])

/-- Closes elements up to the row. -/
def backToRow (b : Builder) : Builder :=
  b.popUntil (·.isHtmlIn ["tr", "template", "html"])

/-- A start tag inside a table. -/
def startInTable (b : Builder) (tag : Tag) : Builder × Verdict :=
  match tag.name with
  | "caption" => ((b.backToTable.mark.enter tag).inMode .inCaption, .done)
  | "colgroup" => ((b.backToTable.enter tag).inMode .inColumnGroup, .done)
  | "col" => ((b.backToTable.enterImplied "colgroup").inMode .inColumnGroup, .again)
  | "tbody" | "tfoot" | "thead" => ((b.backToTable.enter tag).inMode .inTableBody, .done)
  | "td" | "th" | "tr" => ((b.backToTable.enterImplied "tbody").inMode .inTableBody, .again)
  | "table" => if b.hasOpenInTable "table" then ((b.close "table").resetMode, .again) else (b, .done)
  | "style" | "script" | "template" => b.startHeadContent tag
  | "input" => if isHiddenField tag then (b.insertVoid tag, .done) else b.foster (.startTag tag)
  | "form" =>
    if b.inTemplateElement || b.form.isSome then (b, .done)
    else
      let (e, b) := b.putElement .html tag
      ({ b with form := some e }, .done)
  | _ => b.foster (.startTag tag)

/-- A token inside a table. -/
def atTable (b : Builder) (t : Token) : Builder × Verdict :=
  match t with
  | .character _ => b.characterInTable t
  | .comment => (b.putRemark, .done)
  | .doctype _ => (b, .done)
  | .startTag tag => b.startInTable tag
  | .endTag name =>
    match name with
    | "table" => (if b.hasOpenInTable "table" then (b.close "table").resetMode else b, .done)
    | "body" | "caption" | "col" | "colgroup" | "html" | "tbody" | "td" | "tfoot" | "th" | "thead"
    | "tr" => (b, .done)
    | "template" => (b.endTemplate, .done)
    | _ => b.foster t
  | .endOfPage => b.endPage

/-- Puts the collected text of a table where it belongs. -/
def flushTableText (b : Builder) : Builder :=
  let text := b.tableText.reverse
  let b := { b with tableText := [] }
  if text.all isMarkupSpace then text.foldl putCharacter b
  else text.foldl (fun b c => (b.foster (.character c)).1) b

/-- A token in text right inside a part of a table. -/
def atTableText (b : Builder) (t : Token) : Builder × Verdict :=
  match t with
  | .character c => (if c == '\x00' then b else { b with tableText := c :: b.tableText }, .done)
  | _ => (b.flushTableText.inMode b.returnMode, .again)

/-- The names of the parts of a table. -/
def tablePartNames : List String :=
  ["caption", "col", "colgroup", "tbody", "td", "tfoot", "th", "thead", "tr"]

/-- A token in a caption. -/
def atCaption (b : Builder) (t : Token) : Builder × Verdict :=
  let leave (verdict : Verdict) : Builder × Verdict :=
    if b.hasOpenInTable "caption" then
      ((b.endImplied.close "caption").clearToMarker.inMode .inTable, verdict)
    else (b, .done)
  match t with
  | .startTag tag => if tablePartNames.contains tag.name then leave .again else b.atBody t
  | .endTag name =>
    if name == "caption" then leave .done
    else if name == "table" then leave .again
    else if tablePartNames.contains name || ["body", "html"].contains name then (b, .done)
    else b.atBody t
  | _ => b.atBody t

/-- A token in a group of columns. -/
def atColumnGroup (b : Builder) (t : Token) : Builder × Verdict :=
  let isHere := b.currentIs (·.isHtml "colgroup")
  let otherwise : Builder × Verdict := if isHere then (b.pop.inMode .inTable, .again) else (b, .done)
  match t with
  | .character c => if isMarkupSpace c then (b.putCharacter c, .done) else otherwise
  | .comment => (b.putRemark, .done)
  | .doctype _ => (b, .done)
  | .startTag tag =>
    match tag.name with
    | "html" => (b.mergeRoot tag, .done)
    | "col" => (b.insertVoid tag, .done)
    | "template" => b.startHeadContent tag
    | _ => otherwise
  | .endTag name =>
    match name with
    | "colgroup" => (if isHere then b.pop.inMode .inTable else b, .done)
    | "col" => (b, .done)
    | "template" => (b.endTemplate, .done)
    | _ => otherwise
  | .endOfPage => b.endPage

/-- A token in the body of a table. -/
def atTableBody (b : Builder) (t : Token) : Builder × Verdict :=
  let leave : Builder × Verdict :=
    if b.inScope OpenElement.stopsTableSearch (·.isHtmlIn ["table", "tbody", "tfoot"]) then
      (b.backToTableBody.pop.inMode .inTable, .again)
    else (b, .done)
  match t with
  | .startTag tag =>
    match tag.name with
    | "tr" => ((b.backToTableBody.enter tag).inMode .inRow, .done)
    | "th" | "td" => ((b.backToTableBody.enterImplied "tr").inMode .inRow, .again)
    | "caption" | "col" | "colgroup" | "tbody" | "tfoot" | "thead" => leave
    | _ => b.atTable t
  | .endTag name =>
    match name with
    | "tbody" | "tfoot" | "thead" =>
      (if b.hasOpenInTable name then b.backToTableBody.pop.inMode .inTable else b, .done)
    | "table" => leave
    | "body" | "caption" | "col" | "colgroup" | "html" | "td" | "th" | "tr" => (b, .done)
    | _ => b.atTable t
  | _ => b.atTable t

/-- A token in a row. -/
def atRow (b : Builder) (t : Token) : Builder × Verdict :=
  let leave (verdict : Verdict) : Builder × Verdict :=
    if b.hasOpenInTable "tr" then (b.backToRow.pop.inMode .inTableBody, verdict) else (b, .done)
  match t with
  | .startTag tag =>
    match tag.name with
    | "th" | "td" => ((b.backToRow.enter tag).mark.inMode .inCell, .done)
    | "caption" | "col" | "colgroup" | "tbody" | "tfoot" | "thead" | "tr" => leave .again
    | _ => b.atTable t
  | .endTag name =>
    match name with
    | "tr" => leave .done
    | "table" => leave .again
    | "tbody" | "tfoot" | "thead" => if b.hasOpenInTable name then leave .again else (b, .done)
    | "body" | "caption" | "col" | "colgroup" | "html" | "td" | "th" => (b, .done)
    | _ => b.atTable t
  | _ => b.atTable t

/-- Closes the cell. -/
def closeCell (b : Builder) : Builder :=
  (b.endImplied.popThrough OpenElement.isCell).clearToMarker

/-- A token in a cell. -/
def atCell (b : Builder) (t : Token) : Builder × Verdict :=
  match t with
  | .startTag tag =>
    if tablePartNames.contains tag.name then
      if b.inScope OpenElement.stopsTableSearch OpenElement.isCell then
        (b.closeCell.inMode .inRow, .again)
      else (b, .done)
    else b.atBody t
  | .endTag name =>
    match name with
    | "td" | "th" =>
      (if b.hasOpenInTable name then (b.endImplied.close name).clearToMarker.inMode .inRow else b,
        .done)
    | "body" | "caption" | "col" | "colgroup" | "html" => (b, .done)
    | "table" | "tbody" | "tfoot" | "thead" | "tr" =>
      if b.hasOpenInTable name then (b.closeCell.inMode .inRow, .again) else (b, .done)
    | _ => b.atBody t
  | _ => b.atBody t

end Builder

end PriceTracker.Html
