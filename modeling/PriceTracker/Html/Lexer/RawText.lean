import PriceTracker.Html.Token

/-!
# Raw text

The content of elements whose text holds no tags. It ends at the end tag of the element; in a
script that end tag does not count between `<!--` with a `<script>` behind it and `-->`, unless a
`</script>` came in between.
-/

namespace PriceTracker.Html

/-- How the content of an element is read. -/
inductive RawKind where
  /-- References count. -/
  | withReferences
  /-- Only the end tag counts. -/
  | plain
  /-- A script. -/
  | script
  /-- Nothing counts, and the text goes on to the end of the page. -/
  | endless
  deriving DecidableEq, Repr

/-- Whether a name, in letters of either case, stands in front with a delimiter behind it. -/
def startsWithTagName (name : List Char) (cs : List Char) : Bool :=
  (cs.take name.length).map Char.toLower == name &&
    match cs.drop name.length with
    | c :: _ => isMarkupSpace c || c == '/' || c == '>'
    | [] => false

/-- Whether the end tag of an element stands in front. -/
def startsWithEndTag (name : List Char) : List Char → Bool
  | '<' :: '/' :: cs => startsWithTagName name cs
  | _ => false

/-- The text up to the end tag of an element, and the rest from the end tag on. -/
def splitRaw (name : List Char) : List Char → List Char × List Char
  | [] => ([], [])
  | c :: cs =>
    if startsWithEndTag name (c :: cs) then ([], c :: cs)
    else
      let (text, rest) := splitRaw name cs
      (c :: text, rest)

/-! ## Scripts -/

/-- Where in a script a character stands. -/
inductive ScriptPlace where
  | plain
  /-- Behind `<!--`; `dashes` counts hyphens just before, up to two. -/
  | hidden (dashes : Nat)
  /-- Behind a script start tag behind `<!--`. -/
  | nested (dashes : Nat)
  deriving DecidableEq, Repr

/-- The name of the element. -/
def scriptName : List Char := "script".toList

/-- The place behind a character, seeing what follows it. The opening `<!--` counts as two
hyphens. -/
def ScriptPlace.next (place : ScriptPlace) (c : Char) (following : List Char) : ScriptPlace :=
  match place with
  | .plain =>
    if c == '<' && following.take 3 == ['!', '-', '-'] then .hidden 0 else .plain
  | .hidden dashes =>
    if c == '-' then .hidden (min (dashes + 1) 2)
    else if c == '>' && dashes == 2 then .plain
    else if c == '<' && startsWithTagName scriptName following then .nested 0
    else .hidden 0
  | .nested dashes =>
    if c == '-' then .nested (min (dashes + 1) 2)
    else if c == '>' && dashes == 2 then .plain
    else .nested 0

/-- The text of a script, and the rest from its end tag on. -/
def splitScript (place : ScriptPlace) : List Char → List Char × List Char
  | [] => ([], [])
  | c :: cs =>
    let isNested := match place with
      | .nested _ => true
      | _ => false
    if !isNested && startsWithEndTag scriptName (c :: cs) then ([], c :: cs)
    else
      let place :=
        if isNested && startsWithEndTag scriptName (c :: cs) then .hidden 0 else place.next c cs
      let (text, rest) := splitScript place cs
      (c :: text, rest)

/-- The raw text of an element, and the rest. -/
def RawKind.split (kind : RawKind) (name : String) (cs : List Char) : List Char × List Char :=
  match kind with
  | .withReferences | .plain => splitRaw name.toList cs
  | .script => splitScript .plain cs
  | .endless => (cs, [])

end PriceTracker.Html
