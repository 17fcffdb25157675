import PriceTracker.Html.Lexer.Declarations
import PriceTracker.Html.Lexer.RawText
import PriceTracker.Html.Lexer.Tags

/-!
# Reading tokens

`nextTokens` takes the first piece of markup or the first character off a page. Raw text is taken
off by `RawKind.split` instead, where the construction of the document asks for it.
-/

namespace PriceTracker.Html

/-- Line ends in one spelling, and no byte order mark at the start. -/
def normalizeText (cs : List Char) : List Char :=
  unifyLineEnds (if cs.head? == some '\uFEFF' then cs.tail else cs)
where
  /-- Writes every line end as a line feed. -/
  unifyLineEnds : List Char → List Char
    | [] => []
    | '\r' :: '\n' :: cs => '\n' :: unifyLineEnds cs
    | '\r' :: cs => '\n' :: unifyLineEnds cs
    | c :: cs => c :: unifyLineEnds cs

/-- The text of a section of literal characters, and what follows the section. -/
def splitLiteral : List Char → List Char × List Char
  | [] => ([], [])
  | ']' :: ']' :: '>' :: cs => ([], cs)
  | c :: cs =>
    let (text, rest) := splitLiteral cs
    (c :: text, rest)

/-- The tokens of `<!` and what follows it. Sections of literal characters are markup only outside
of HTML proper. -/
def readDeclaration (isForeign : Bool) (cs : List Char) : List Token × List Char :=
  match cs with
  | '-' :: '-' :: rest => ([.comment], skipComment .start rest)
  | _ =>
    match behindWord? "doctype" cs with
    | some rest =>
      let (d, rest) := Doctype.read rest
      ([.doctype d], rest)
    | none =>
      if isForeign && cs.take 7 == "[CDATA[".toList then
        let (text, rest) := splitLiteral (cs.drop 7)
        (text.map .character, rest)
      else ([.comment], skipPastBracket cs)

/-- The tokens of `</` and what follows it. -/
def readEndTag (cs : List Char) : List Token × List Char :=
  match cs with
  | [] => ([.character '<', .character '/'], [])
  | '>' :: rest => ([], rest)
  | c :: _ =>
    if c.isAlpha then
      let (tag, rest) := readTag .name {} cs
      ((tag.map fun t => Token.endTag t.name).toList, rest)
    else ([.comment], skipPastBracket cs)

/-- The tokens of `<` and what follows it. -/
def readMarkup (isForeign : Bool) (cs : List Char) : List Token × List Char :=
  match cs with
  | '!' :: rest => readDeclaration isForeign rest
  | '/' :: rest => readEndTag rest
  | '?' :: rest => ([.comment], skipPastBracket rest)
  | c :: _ =>
    if c.isAlpha then
      let (tag, rest) := readTag .name {} cs
      ((tag.map Token.startTag).toList, rest)
    else ([.character '<'], cs)
  | [] => ([.character '<'], [])

/-- The characters of `&` and what follows it, outside of tags. -/
def readReference (cs : List Char) : List Char × List Char :=
  match CharacterReference.resolve? false cs with
  | some (chars, rest) => (chars, rest)
  | none => (['&'], cs)

/-- The tokens of a character and what follows it; markup that means nothing has none. -/
def nextTokens (isForeign : Bool) (c : Char) (cs : List Char) : List Token × List Char :=
  if c == '<' then readMarkup isForeign cs
  else if c == '&' then
    let (chars, rest) := readReference cs
    (chars.map .character, rest)
  else ([.character c], cs)

/-- The characters of raw text in which references count; `fuel` bounds the number of
characters. -/
def resolveText : Nat → List Char → List Char
  | 0, _ | _, [] => []
  | fuel + 1, '&' :: cs =>
    let (chars, rest) := readReference cs
    chars ++ resolveText fuel rest
  | fuel + 1, c :: cs => c :: resolveText fuel cs

/-- The characters of raw text; null characters cannot stand in it. -/
def RawKind.characters (kind : RawKind) (text : List Char) : List Char :=
  let text := text.map TagDraft.visible
  match kind with
  | .withReferences => resolveText text.length text
  | _ => text

end PriceTracker.Html
