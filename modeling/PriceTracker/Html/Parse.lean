import PriceTracker.Html.Construction.Dispatch
import PriceTracker.Html.Lexer

/-!
# Reading pages

`Html.parse` gives the document of any text: there is no text that is no page.
-/

namespace PriceTracker.Html

namespace Builder

/-- Takes tokens in order; tells the raw text that follows the last, if any does. -/
def takeAll (b : Builder) : List Token → Builder × Verdict
  | [] => (b, .done)
  | [t] => b.take t
  | t :: rest => (b.take t).1.takeAll rest

/-- Takes the characters of raw text. -/
def takeText (b : Builder) (text : List Char) : Builder :=
  text.foldl (fun b c => (b.take (.character c)).1) b

/-- Builds on with the rest of a page; `fuel` bounds the number of pieces. -/
def run : Nat → Builder → List Char → Builder
  | 0, b, _ | _, b, [] => (b.take .endOfPage).1
  | fuel + 1, b, c :: cs =>
    let (tokens, rest) := nextTokens b.isForeign c cs
    match b.takeAll tokens with
    | (b, .raw kind name) =>
      let (text, rest) := kind.split name rest
      run fuel (b.takeText (kind.characters text)) rest
    | (b, _) => run fuel b rest

end Builder

/-- The document of a page. -/
def parse (text : String) : Document :=
  let cs := normalizeText text.toList
  (Builder.run (cs.length + 1) {} cs).page

end PriceTracker.Html
