import PriceTracker.Html.Token

/-!
# Comments and document types

What may follow `<!`. The text of a comment means nothing, so comments are only passed over.
-/

namespace PriceTracker.Html

/-! ## Comments -/

/-- Where in a comment a character stands. -/
inductive CommentPlace where
  /-- At its start. -/
  | start
  /-- Behind one hyphen at its start. -/
  | startDash
  | inside
  /-- Behind a hyphen. -/
  | dash
  /-- Behind two hyphens. -/
  | dashes
  /-- Behind two hyphens and an exclamation mark. -/
  | bang
  deriving DecidableEq, Repr

/-- The place behind a character; none if the comment ends with it. -/
def CommentPlace.next? (place : CommentPlace) (c : Char) : Option CommentPlace :=
  match place with
  | .start => if c == '-' then some .startDash else if c == '>' then none else some .inside
  | .startDash => if c == '-' then some .dashes else if c == '>' then none else some .inside
  | .inside => if c == '-' then some .dash else some .inside
  | .dash => if c == '-' then some .dashes else some .inside
  | .dashes =>
    if c == '>' then none
    else if c == '!' then some .bang
    else if c == '-' then some .dashes
    else some .inside
  | .bang => if c == '-' then some .dash else if c == '>' then none else some .inside

/-- Passes the rest of a comment. -/
def skipComment (place : CommentPlace) : List Char → List Char
  | [] => []
  | c :: cs =>
    match place.next? c with
    | some place => skipComment place cs
    | none => cs

/-- Passes the next closing bracket and all before it. -/
def skipPastBracket (cs : List Char) : List Char :=
  (cs.dropWhile (· != '>')).drop 1

/-! ## Document types -/

/-- The text behind a word in letters of either case. -/
def behindWord? (word : String) (cs : List Char) : Option (List Char) :=
  let n := word.length
  if (cs.take n).map Char.toLower == word.toList then some (cs.drop n) else none

/-- Stands for null characters in a document type. -/
def visibleText (cs : List Char) : String :=
  String.ofList (cs.map fun c => if c == '\x00' then '\uFFFD' else c)

namespace Doctype

/-- Ends a document type, from any place behind its last part. -/
def finish (d : Doctype) (cs : List Char) : Doctype × List Char :=
  (d, skipPastBracket cs)

/-- Ends a document type that breaks a rule. -/
def abandon (d : Doctype) (cs : List Char) : Doctype × List Char :=
  finish { d with isBroken := true } cs

/-- An identifier between quotes: its text, and what follows the closing quote. Nothing follows
if the declaration or the page ends first. -/
def readQuoted (quote : Char) (cs : List Char) : List Char × Option (List Char) :=
  let text := cs.takeWhile fun c => c != quote && c != '>'
  match cs.drop text.length with
  | c :: rest => (text, if c == quote then some rest else none)
  | [] => (text, none)

/-- Reads the system identifier, whose quote is the next character, and the end. -/
def readSystem (d : Doctype) (quote : Char) (cs : List Char) : Doctype × List Char :=
  let (text, rest) := readQuoted quote cs
  let d := { d with systemId := some (visibleText text) }
  match rest with
  | none => abandon d (cs.drop text.length)
  | some rest =>
    if (rest.dropWhile isMarkupSpace).isEmpty then abandon d [] else finish d rest

/-- Reads what may follow the public identifier. -/
def afterPublic (d : Doctype) (cs : List Char) : Doctype × List Char :=
  match cs.dropWhile isMarkupSpace with
  | '>' :: rest => (d, rest)
  | '"' :: rest => readSystem d '"' rest
  | '\'' :: rest => readSystem d '\'' rest
  | rest => abandon d rest

/-- Reads the public identifier, whose quote is the next character, and the rest. -/
def readPublic (d : Doctype) (quote : Char) (cs : List Char) : Doctype × List Char :=
  let (text, rest) := readQuoted quote cs
  let d := { d with publicId := some (visibleText text) }
  match rest with
  | none => abandon d (cs.drop text.length)
  | some rest => afterPublic d rest

/-- Reads the quote behind a keyword and all that follows. -/
def afterKeyword (d : Doctype) (read : Doctype → Char → List Char → Doctype × List Char)
    (cs : List Char) : Doctype × List Char :=
  match cs.dropWhile isMarkupSpace with
  | '"' :: rest => read d '"' rest
  | '\'' :: rest => read d '\'' rest
  | rest => abandon d rest

/-- Reads what may follow the name. -/
def afterName (d : Doctype) (cs : List Char) : Doctype × List Char :=
  match cs.dropWhile isMarkupSpace with
  | '>' :: rest => (d, rest)
  | rest =>
    match behindWord? "public" rest, behindWord? "system" rest with
    | some rest, _ => afterKeyword d readPublic rest
    | none, some rest => afterKeyword d readSystem rest
    | none, none => abandon d rest

/-- Reads a document type, from behind its keyword. -/
def read (cs : List Char) : Doctype × List Char :=
  let cs := cs.dropWhile isMarkupSpace
  let isInside (c : Char) := !isMarkupSpace c && c != '>'
  match cs.takeWhile isInside with
  | [] => abandon {} cs
  | name => afterName { name := some (visibleText (name.map Char.toLower)) } (cs.dropWhile isInside)

end Doctype

end PriceTracker.Html
