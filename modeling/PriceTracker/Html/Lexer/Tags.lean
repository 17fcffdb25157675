import PriceTracker.Html.CharacterReference
import PriceTracker.Html.Token

/-!
# Reading tags

A tag is read one character at a time; `TagPlace` says what the next character means. A tag that
the page breaks off is no tag.
-/

namespace PriceTracker.Html

/-- Where in a tag a character stands. -/
inductive TagPlace where
  /-- In the name of the tag. -/
  | name
  /-- Where an attribute may start. -/
  | beforeAttribute
  /-- In the name of an attribute. -/
  | attributeName
  /-- Behind the name of an attribute and a space. -/
  | afterAttributeName
  /-- Behind an equals sign. -/
  | beforeValue
  /-- In a value between quotes of this kind. -/
  | quoted (quote : Char)
  /-- In a value without quotes. -/
  | unquoted
  /-- Right behind a closing quote. -/
  | afterQuote
  /-- Right behind a slash. -/
  | slash
  deriving DecidableEq, Repr

/-- A tag in reading. Texts hold the last character first. -/
structure TagDraft where
  name : List Char := []
  /-- The finished attributes, the last one first. -/
  attributes : List Attribute := []
  /-- The attribute in reading: its name and its value. -/
  current : Option (List Char × List Char) := none
  selfClosing : Bool := false
  deriving Inhabited

namespace TagDraft

/-- Stands for a null character in a tag. -/
def visible (c : Char) : Char :=
  if c == '\x00' then '\uFFFD' else c

/-- Ends the attribute in reading; a second attribute of one name is dropped. -/
def endAttribute (d : TagDraft) : TagDraft :=
  match d.current with
  | none => d
  | some (name, value) =>
    let name := String.ofList name.reverse
    if d.attributes.any (·.name == name) then { d with current := none }
    else
      let value := String.ofList (CharacterReference.decode value.reverse)
      { d with attributes := ⟨name, value⟩ :: d.attributes, current := none }

/-- Starts an attribute. -/
def startAttribute (d : TagDraft) (c : Char) : TagDraft :=
  { d.endAttribute with current := some ([(visible c).toLower], []) }

/-- Adds a character to the name of the tag. -/
def addToTagName (d : TagDraft) (c : Char) : TagDraft :=
  { d with name := (visible c).toLower :: d.name }

/-- Adds a character to the name of the attribute in reading. -/
def addToName (d : TagDraft) (c : Char) : TagDraft :=
  { d with current := d.current.map fun (n, v) => ((visible c).toLower :: n, v) }

/-- Adds a character to the value of the attribute in reading. -/
def addToValue (d : TagDraft) (c : Char) : TagDraft :=
  { d with current := d.current.map fun (n, v) => (n, visible c :: v) }

/-- The finished tag. -/
def toTag (d : TagDraft) : Tag where
  name := String.ofList d.name.reverse
  attributes := d.endAttribute.attributes.reverse
  selfClosing := d.selfClosing

end TagDraft

/-- What a character of a tag leads to. -/
inductive TagStep where
  | next (place : TagPlace) (draft : TagDraft)
  /-- The tag ends here. -/
  | done (draft : TagDraft)

namespace TagPlace

/-- A character where an attribute may start. -/
def atBeforeAttribute (d : TagDraft) (c : Char) : TagStep :=
  if isMarkupSpace c then .next .beforeAttribute d
  else if c == '/' then .next .slash d
  else if c == '>' then .done d
  else .next .attributeName (d.startAttribute c)

/-- A character of a value without quotes. -/
def atUnquoted (d : TagDraft) (c : Char) : TagStep :=
  if isMarkupSpace c then .next .beforeAttribute d
  else if c == '>' then .done d
  else .next .unquoted (d.addToValue c)

/-- What the next character of a tag leads to. -/
def step (d : TagDraft) (c : Char) : TagPlace → TagStep
  | .name =>
    if isMarkupSpace c then .next .beforeAttribute d
    else if c == '/' then .next .slash d
    else if c == '>' then .done d
    else .next .name (d.addToTagName c)
  | .beforeAttribute => atBeforeAttribute d c
  | .attributeName =>
    if isMarkupSpace c then .next .afterAttributeName d
    else if c == '/' then .next .slash d
    else if c == '=' then .next .beforeValue d
    else if c == '>' then .done d
    else .next .attributeName (d.addToName c)
  | .afterAttributeName =>
    if isMarkupSpace c then .next .afterAttributeName d
    else if c == '=' then .next .beforeValue d
    else atBeforeAttribute d c
  | .beforeValue =>
    if isMarkupSpace c then .next .beforeValue d
    else if c == '"' || c == '\'' then .next (.quoted c) d
    else atUnquoted d c
  | .quoted quote =>
    if c == quote then .next .afterQuote d else .next (.quoted quote) (d.addToValue c)
  | .unquoted => atUnquoted d c
  | .afterQuote => atBeforeAttribute d c
  | .slash => if c == '>' then .done { d with selfClosing := true } else atBeforeAttribute d c

end TagPlace

/-- Reads on in a tag up to its end, if it has one. -/
def readTag (place : TagPlace) (d : TagDraft) : List Char → Option Tag × List Char
  | [] => (none, [])
  | c :: cs =>
    match place.step d c with
    | .done d => (some d.toTag, cs)
    | .next place d => readTag place d cs

end PriceTracker.Html
