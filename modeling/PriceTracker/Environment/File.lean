import PriceTracker.Environment.Basic
import PriceTracker.Text.Alphanumeric
import PriceTracker.Text.Blank
import PriceTracker.Text.Utf8

/-!
# Files of environment variables

A file of assignments such as `export NAME="value" # remark`. `Environment.loadFile?` offers the
assignments of a file one by one, so that a variable already set keeps its value and a value may
refer to every variable set so far; the file is refused if any of its lines breaks a rule.

* `assignmentLines` cuts the text into lines. A line goes on past its end inside quotes, and a
  comment starts at a `#` behind a blank or at the start of a line.
* `readValue` reads a value with its quotes, escapes and references `$NAME` and `$` with the name
  in braces.
-/

namespace PriceTracker.Environment

/-! ## Lines -/

/-- Where in a line a character stands. -/
inductive LinePlace where
  | plain
  /-- Behind a blank outside quotes. -/
  | gap
  /-- Behind a backslash outside quotes. -/
  | escape
  /-- Between double quotes. -/
  | double
  /-- Behind a backslash between double quotes. -/
  | doubleEscape
  /-- Between single quotes. -/
  | single
  /-- Behind a backslash between single quotes. -/
  | singleEscape
  /-- In a comment. -/
  | comment
  deriving DecidableEq, Repr

/-- The place behind a character that stands at a place. -/
def LinePlace.next (place : LinePlace) (c : Char) : LinePlace :=
  match place with
  | .plain =>
    if Text.isBlank c && c != '\n' && c != '\r' then .gap
    else if c == '\\' then .escape
    else if c == '"' then .double
    else if c == '\'' then .single
    else .plain
  | .gap =>
    if c == '#' then .comment
    else if c == '\\' then .escape
    else if c == '"' then .double
    else if c == '\'' then .single
    else .plain
  | .escape => .plain
  | .double => if c == '\\' then .doubleEscape else if c == '"' then .plain else .double
  | .doubleEscape => .double
  | .single => if c == '\\' then .singleEscape else if c == '\'' then .plain else .single
  | .singleEscape => .single
  | .comment => if c == '\n' then .plain else .comment

/-- The lines of a text, without comments. `line` holds the characters of the line in reading, the
last one first. Nothing if the text ends inside quotes or right behind a backslash or a blank. -/
def assignmentLines (place : LinePlace) (line : List Char) : List Char → Option (List (List Char))
  | [] => if place = .plain ∨ place = .comment then some [line.reverse] else none
  | c :: cs =>
    let place :=
      if c == '#' && place == .plain && line.all Text.isBlank then .comment else place.next c
    if c == '\n' && place == .plain then
      (assignmentLines .plain [] cs).map (line.reverse :: ·)
    else if place == .comment then assignmentLines place line cs
    else assignmentLines place (c :: line) cs

/-! ## Values -/

/-- Where in a value a character stands; `quoted` tells whether double quotes are open. -/
inductive ValuePlace where
  | plain (quoted : Bool)
  /-- Between single quotes. -/
  | single
  /-- Behind a backslash. -/
  | escape (quoted : Bool)
  /-- In a reference without braces. -/
  | reference (quoted : Bool) (name : List Char)
  /-- In a reference in braces. -/
  | braced (quoted : Bool) (name : List Char)
  /-- Behind the value. -/
  | ended
  deriving DecidableEq, Repr

/-- The value of the variable in a reference; one that is not set counts as empty. -/
def referenced (env : Environment) (name : List Char) : List Char :=
  ((env.get? (String.ofList name)).getD "").toList

/-- The text of a value from a place on. -/
def readValue (env : Environment) : ValuePlace → List Char → Option (List Char)
  | .plain quoted, [] => if quoted then none else some []
  | .escape quoted, [] => if quoted then none else some []
  | .reference quoted name, [] => if quoted then none else some (referenced env name)
  | .single, [] => none
  | .braced _ _, [] => none
  | .ended, [] => some []
  | .ended, c :: cs =>
    if c == ' ' || c == '\t' then readValue env .ended cs
    else if c == '#' then some []
    else none
  | .escape quoted, c :: cs =>
    if c == '\\' || c == '\'' || c == '"' || c == '$' || c == ' ' then
      (readValue env (.plain quoted) cs).map (c :: ·)
    else if c == 'n' then (readValue env (.plain quoted) cs).map ('\n' :: ·)
    else none
  | .single, c :: cs =>
    if c == '\'' then readValue env (.plain false) cs
    else (readValue env .single cs).map (c :: ·)
  | .reference quoted name, c :: cs =>
    if Text.isAlphanumeric c then readValue env (.reference quoted (name ++ [c])) cs
    else if c == '\x7b' && name.isEmpty then readValue env (.braced quoted []) cs
    else if c == '$' then
      (readValue env (.reference quoted []) cs).map (referenced env name ++ ·)
    else (readValue env (.plain quoted) cs).map fun text => referenced env name ++ c :: text
  | .braced quoted name, c :: cs =>
    if c == '\x7d' then (readValue env (.plain quoted) cs).map (referenced env name ++ ·)
    else readValue env (.braced quoted (name ++ [c])) cs
  | .plain quoted, c :: cs =>
    if c == '$' then readValue env (.reference quoted []) cs
    else if c == '"' then readValue env (.plain !quoted) cs
    else if c == '\\' then readValue env (.escape quoted) cs
    else if quoted then (readValue env (.plain quoted) cs).map (c :: ·)
    else if c == '\'' then readValue env .single cs
    else if c == ' ' || c == '\t' then readValue env .ended cs
    else (readValue env (.plain quoted) cs).map (c :: ·)

/-! ## Assignments -/

/-- A character of a name: a letter, a digit, an underscore or a dot. -/
def isNameChar (c : Char) : Bool :=
  c.isAlphanum || c == '_' || c == '.'

/-- The name before an assignment: a letter or underscore, then characters of a name. -/
def readName (cs : List Char) : Option (List Char × List Char) :=
  match cs with
  | c :: _ =>
    if c.isAlpha || c == '_' then some (cs.takeWhile isNameChar, cs.dropWhile isNameChar) else none
  | [] => none

/-- The text behind an equals sign. -/
def behindEquals? : List Char → Option (List Char)
  | '=' :: cs => some cs
  | _ => none

/-- The name behind the word `export`, and the text behind the equals sign. -/
def exported? (cs : List Char) : Option (List Char × List Char) := do
  let (name, rest) ← readName cs
  return (name, ← behindEquals? (rest.dropWhile Text.isBlank))

/-- Carries out the assignment of a line, which may start with the word `export`; a line without
text changes nothing. -/
def loadLine? (env : Environment) (line : List Char) : Option Environment := do
  let cs := Text.trimBy Text.isBlank line
  if cs.isEmpty || cs.head? == some '#' then return env
  let (name, rest) ← readName cs
  let rest := rest.dropWhile Text.isBlank
  let (name, rest) ← match behindEquals? rest with
    | some rest => some (name, rest)
    | none => if name == "export".toList then exported? rest else none
  let rest := rest.dropWhile Text.isBlank
  let value ← if rest.head? == some '#' then some [] else readValue env (.plain false) rest
  return env.offer (String.ofList name) (String.ofList value)

/-- Carries out the assignments of a file in UTF-8, with or without a byte order mark. -/
def loadFile? (env : Environment) (bytes : List UInt8) : Option Environment := do
  let text ← Text.Utf8.decode? bytes
  let lines ← assignmentLines .plain [] (if text.head? == some '\uFEFF' then text.tail else text)
  lines.foldlM loadLine? env

/-- The names of all variables that a file can assign or refer to. -/
def mentionedNames (bytes : List UInt8) : List String :=
  ((Text.Utf8.decodeLossy bytes).splitOnP (!isNameChar ·)).filterMap fun name =>
    if name.isEmpty then none else some (String.ofList name)

end PriceTracker.Environment
