import PriceTracker.Number.Decimal
import PriceTracker.Text.CharTable
import PriceTracker.Toml.Value

/-!
# Reading TOML

`Toml.parse` reads a document of TOML 1.0 and gives its root table, or nothing if the text breaks
a rule. Each reader takes the characters before it and gives what it read with the characters
left. Values nest less than `nestingLimit` deep, and a key has fewer parts than that.
-/

namespace PriceTracker.Toml

/-- Below this depth values may nest. -/
def nestingLimit : Nat := 80

/-! ## Blanks and comments -/

/-- A space or a tab. -/
def isSpace (c : Char) : Bool :=
  c == ' ' || c == '\t'

/-- A character of a comment or a literal text: no control character but the tab. -/
def isPrintable (c : Char) : Bool :=
  c == '\t' || (0x20 ≤ c.toNat && c.toNat != 0x7F)

/-- Passes spaces and tabs. -/
def skipSpaces (cs : List Char) : List Char :=
  cs.dropWhile isSpace

/-- Passes a comment. -/
def skipComment (cs : List Char) : List Char :=
  match cs with
  | '#' :: rest => rest.dropWhile isPrintable
  | _ => cs

/-- Passes the end of a line. -/
def lineEnd? : List Char → Option (List Char)
  | '\n' :: cs => some cs
  | '\r' :: '\n' :: cs => some cs
  | _ => none

/-- Passes what may stand at the end of a line: blanks, a comment, and the line end. -/
def restOfLine? (cs : List Char) : Option (List Char) :=
  match skipComment (skipSpaces cs) with
  | [] => some []
  | rest => lineEnd? rest

/-- Passes blanks, comments and line ends; `fuel` bounds the number of lines. -/
def skipLines : Nat → List Char → List Char
  | 0, cs => cs
  | fuel + 1, cs =>
    let rest := skipComment (skipSpaces cs)
    match lineEnd? rest with
    | some next => skipLines fuel next
    | none => rest

/-! ## Texts -/

/-- The character of a `\u` or `\U` escape with `width` digits. -/
def readCodePoint (width : Nat) (cs : List Char) : Option (Char × List Char) :=
  let digits := cs.take width
  if digits.length = width ∧ digits.all (fun c => (Text.lowerHexDigit? c.toLower).isSome) then
    let n := Text.ofLowerHex (digits.map Char.toLower)
    if n.isValidChar then some (Char.ofNat n, cs.drop width) else none
  else none

/-- The character of an escape, behind its backslash. -/
def readEscape : List Char → Option (Char × List Char)
  | 'b' :: cs => some ('\x08', cs)
  | 't' :: cs => some ('\t', cs)
  | 'n' :: cs => some ('\n', cs)
  | 'f' :: cs => some ('\x0C', cs)
  | 'r' :: cs => some ('\r', cs)
  | '"' :: cs => some ('"', cs)
  | '\\' :: cs => some ('\\', cs)
  | 'u' :: cs => readCodePoint 4 cs
  | 'U' :: cs => readCodePoint 8 cs
  | _ => none

/-- The rest of a text in double quotes, behind the first. -/
def readBasic : Nat → List Char → Option (List Char × List Char)
  | 0, _ | _, [] => none
  | _ + 1, '"' :: cs => some ([], cs)
  | fuel + 1, '\\' :: cs => do
    let (c, cs) ← readEscape cs
    let (text, cs) ← readBasic fuel cs
    return (c :: text, cs)
  | fuel + 1, c :: cs => do
    if !isPrintable c then none
    let (text, cs) ← readBasic fuel cs
    return (c :: text, cs)

/-- The rest of a text in single quotes, behind the first. -/
def readLiteral (cs : List Char) : Option (List Char × List Char) :=
  let isInside (c : Char) := isPrintable c && c != '\''
  match cs.dropWhile isInside with
  | '\'' :: rest => some (cs.takeWhile isInside, rest)
  | _ => none

/-- The closing quotes of a text over several lines: three, before which up to two more belong to
the text. -/
def closeLong? (quote : Char) (cs : List Char) : Option (List Char × List Char) :=
  let run := (cs.takeWhile (· == quote)).length
  if run < 3 then none
  else
    let inside := min (run - 3) 2
    some (List.replicate inside quote, cs.drop (inside + 3))

/-- Passes a line end behind a backslash and all blank lines after it. -/
def skipJoined? (cs : List Char) : Option (List Char) := do
  let next ← lineEnd? (skipSpaces cs)
  return skipBlankLines (next.length + 1) next
where
  /-- Passes blanks and line ends; `fuel` bounds the number of lines. -/
  skipBlankLines : Nat → List Char → List Char
    | 0, cs => cs
    | fuel + 1, cs =>
      match lineEnd? (skipSpaces cs) with
      | some next => skipBlankLines fuel next
      | none => skipSpaces cs

/-- The rest of a text over several lines in double quotes. -/
def readLongBasic : Nat → List Char → Option (List Char × List Char)
  | 0, _ => none
  | fuel + 1, cs =>
    match closeLong? '"' cs with
    | some r => some r
    | none =>
      match lineEnd? cs with
      | some rest => do
        let (text, rest) ← readLongBasic fuel rest
        return ('\n' :: text, rest)
      | none =>
        match cs with
        | [] => none
        | '\\' :: rest =>
          match skipJoined? rest with
          | some rest => readLongBasic fuel rest
          | none => do
            let (c, rest) ← readEscape rest
            let (text, rest) ← readLongBasic fuel rest
            return (c :: text, rest)
        | c :: rest => do
          if !isPrintable c then none
          let (text, rest) ← readLongBasic fuel rest
          return (c :: text, rest)

/-- The rest of a text over several lines in single quotes. -/
def readLongLiteral : Nat → List Char → Option (List Char × List Char)
  | 0, _ => none
  | fuel + 1, cs =>
    match closeLong? '\'' cs with
    | some r => some r
    | none =>
      match lineEnd? cs with
      | some rest => do
        let (text, rest) ← readLongLiteral fuel rest
        return ('\n' :: text, rest)
      | none =>
        match cs with
        | [] => none
        | c :: rest => do
          if !isPrintable c then none
          let (text, rest) ← readLongLiteral fuel rest
          return (c :: text, rest)

/-- Passes a line end right behind opening quotes. -/
def skipFirstLineEnd (cs : List Char) : List Char :=
  (lineEnd? cs).getD cs

/-- A text in quotes of any kind. -/
def readText (cs : List Char) : Option (String × List Char) :=
  let fuel := cs.length + 1
  let chars := match cs with
    | '"' :: '"' :: '"' :: rest => readLongBasic fuel (skipFirstLineEnd rest)
    | '\'' :: '\'' :: '\'' :: rest => readLongLiteral fuel (skipFirstLineEnd rest)
    | '"' :: rest => readBasic fuel rest
    | '\'' :: rest => readLiteral rest
    | _ => none
  chars.map fun (text, rest) => (String.ofList text, rest)

/-! ## Keys -/

/-- A character of a key without quotes. -/
def isKeyChar (c : Char) : Bool :=
  c.isAlphanum || c == '_' || c == '-'

/-- One part of a key. -/
def readKeyPart (cs : List Char) : Option (String × List Char) :=
  match cs with
  | '"' :: rest => (readBasic (rest.length + 1) rest).map fun (k, r) => (String.ofList k, r)
  | '\'' :: rest => (readLiteral rest).map fun (k, r) => (String.ofList k, r)
  | _ =>
    let key := cs.takeWhile isKeyChar
    if key.isEmpty then none else some (String.ofList key, cs.dropWhile isKeyChar)

/-- The parts of a key between dots, with blanks around each. -/
def readKeyParts : Nat → List Char → Option (List String × List Char)
  | 0, _ => none
  | fuel + 1, cs => do
    let (part, cs) ← readKeyPart (skipSpaces cs)
    match skipSpaces cs with
    | '.' :: rest =>
      let (parts, rest) ← readKeyParts fuel rest
      return (part :: parts, rest)
    | rest => return ([part], rest)

/-- A key: the parts before the last, and the last. -/
def readKey (cs : List Char) : Option ((List String × String) × List Char) := do
  let (parts, rest) ← readKeyParts (cs.length + 1) cs
  if nestingLimit ≤ parts.length then none
  return ((parts.dropLast, ← parts.getLast?), rest)

/-! ## Numbers -/

/-- The digits of a run of digits and underscores, in which each underscore stands between two
digits; `afterDigit` tells whether a digit precedes the run. -/
def digitsBetween? (afterDigit : Bool) : List Char → Option (List Char)
  | [] => if afterDigit then some [] else none
  | c :: cs =>
    if c != '_' then (digitsBetween? true cs).map (c :: ·)
    else if afterDigit then digitsBetween? false cs
    else none

/-- Digits with single underscores between them, the underscores left out. -/
def readDigits (isDigit : Char → Bool) (cs : List Char) : Option (List Char × List Char) := do
  let isInside (c : Char) := isDigit c || c == '_'
  return (← digitsBetween? false (cs.takeWhile isInside), cs.dropWhile isInside)

/-- A sign, if there is one: whether it is a minus. -/
def readSign : List Char → Bool × List Char
  | '+' :: cs => (false, cs)
  | '-' :: cs => (true, cs)
  | cs => (false, cs)

/-- Decimal digits that do not start with a zero, unless they are the zero. -/
def readWhole (cs : List Char) : Option (List Char × List Char) :=
  match cs with
  | '0' :: rest => some (['0'], rest)
  | _ => readDigits Char.isDigit cs

/-- The number that digits of a base spell. -/
def ofDigits (base : Nat) (ds : List Char) : Nat :=
  ds.foldl (fun n d => base * n + (Text.lowerHexDigit? d.toLower).getD 0) 0

/-- Whether the character is a digit of the base. -/
def isDigitOf (base : Nat) (c : Char) : Bool :=
  match Text.lowerHexDigit? c.toLower with
  | some d => d < base
  | none => false

/-- An integer of 64 bits. -/
def boundedInteger (n : Int) (rest : List Char) : Option (Value × List Char) :=
  if -0x8000000000000000 ≤ n && n < 0x8000000000000000 then some (.integer n, rest) else none

/-- An integer in one of the four bases. -/
def readInteger (cs : List Char) : Option (Value × List Char) := do
  let inBase (base : Nat) (cs : List Char) : Option (Value × List Char) := do
    let (ds, rest) ← readDigits (isDigitOf base) cs
    boundedInteger (ofDigits base ds) rest
  match cs with
  | '0' :: 'x' :: rest => inBase 16 rest
  | '0' :: 'o' :: rest => inBase 8 rest
  | '0' :: 'b' :: rest => inBase 2 rest
  | _ =>
    let (negative, cs) := readSign cs
    let (ds, rest) ← readWhole cs
    let n : Int := ofDigits 10 ds
    boundedInteger (if negative then -n else n) rest

/-- The binary number nearest to `units * 10 ^ exponent`. -/
def scaledFloat (negative : Bool) (units : Nat) (exponent : Int) : Float :=
  let digits : Int := (Nat.toDigits 10 units).length
  let size :=
    if units = 0 || digits + exponent < -400 then 0
    else if 400 < digits + exponent then Decimal.infinityRank
    else if exponent < 0 then Decimal.nearestRank units (Nat.pow 10 exponent.natAbs)
    else Decimal.nearestRank (units * Nat.pow 10 exponent.natAbs) 1
  Float.ofBits (UInt64.ofNat (if negative then 0x8000000000000000 + size else size))

/-- The part of a float behind `e`. -/
def readExponent : List Char → Option (Int × List Char)
  | e :: cs =>
    if e == 'e' || e == 'E' then do
      let (negative, cs) := readSign cs
      let (ds, rest) ← readDigits Char.isDigit cs
      let n : Int := ofDigits 10 ds
      return (if negative then -n else n, rest)
    else none
  | [] => none

/-- A float: an infinity, not a number, or digits with a fraction, an exponent or both. One that
is too large is refused. -/
def readFloat (cs : List Char) : Option (Value × List Char) := do
  let (negative, cs) := readSign cs
  match cs with
  | 'i' :: 'n' :: 'f' :: rest =>
    return (.float (Float.ofBits (if negative then 0xFFF0000000000000 else 0x7FF0000000000000)), rest)
  | 'n' :: 'a' :: 'n' :: rest => return (.float (Float.ofBits 0x7FF8000000000000), rest)
  | _ =>
    let (whole, cs) ← readWhole cs
    let (fraction, exponent, rest) ← match cs with
      | '.' :: cs => do
        let (fraction, cs) ← readDigits Char.isDigit cs
        match readExponent cs with
        | some (e, rest) => some (fraction, e, rest)
        | none => some (fraction, 0, cs)
      | _ => do
        let (e, rest) ← readExponent cs
        some ([], e, rest)
    let x := scaledFloat negative (ofDigits 10 (whole ++ fraction)) (exponent - fraction.length)
    if x.toBits == 0x7FF0000000000000 then none
    return (.float x, rest)

/-! ## Dates and times -/

/-- A number of exactly `width` digits within bounds. -/
def readField (width least greatest : Nat) (cs : List Char) : Option (Nat × List Char) :=
  let digits := cs.take width
  if digits.length = width ∧ digits.all Char.isDigit then
    let n := ofDigits 10 digits
    if least ≤ n && n ≤ greatest then some (n, cs.drop width) else none
  else none

/-- Passes a character. -/
def expect (c : Char) : List Char → Option (List Char)
  | d :: cs => if c == d then some cs else none
  | [] => none

/-- The number of days of a month. -/
def monthLength (year month : Nat) : Nat :=
  if month = 2 then
    if year % 4 = 0 ∧ (year % 100 ≠ 0 ∨ year % 400 = 0) then 29 else 28
  else if [4, 6, 9, 11].contains month then 30
  else 31

/-- Passes a date. -/
def skipDate? (cs : List Char) : Option (List Char) := do
  let (year, cs) ← readField 4 0 9999 cs
  let (month, cs) ← readField 2 1 12 (← expect '-' cs)
  let (_, cs) ← readField 2 1 (monthLength year month) (← expect '-' cs)
  return cs

/-- Passes a time of day. -/
def skipTime? (cs : List Char) : Option (List Char) := do
  let (_, cs) ← readField 2 0 23 cs
  let (_, cs) ← readField 2 0 59 (← expect ':' cs)
  let (_, cs) ← readField 2 0 60 (← expect ':' cs)
  match cs with
  | '.' :: rest =>
    if (rest.takeWhile Char.isDigit).isEmpty then return cs
    return rest.dropWhile Char.isDigit
  | _ => return cs

/-- Passes a distance from universal time. -/
def skipOffset? : List Char → Option (List Char)
  | 'Z' :: cs | 'z' :: cs => some cs
  | s :: cs =>
    if s == '+' || s == '-' then do
      let (_, cs) ← readField 2 0 23 cs
      let (_, cs) ← readField 2 0 59 (← expect ':' cs)
      return cs
    else none
  | [] => none

/-- Passes a date, a time, or both. -/
def skipMoment? (cs : List Char) : Option (List Char) :=
  match skipDate? cs with
  | none => skipTime? cs
  | some rest =>
    let time := match rest with
      | 'T' :: r | 't' :: r | ' ' :: r => skipTime? r
      | _ => none
    match time with
    | none => some rest
    | some afterTime => some ((skipOffset? afterTime).getD afterTime)

/-- A date, a time, or both. -/
def readMoment (cs : List Char) : Option (Value × List Char) := do
  let rest ← skipMoment? cs
  return (.moment (String.ofList (cs.take (cs.length - rest.length))), rest)

/-! ## Values -/

/-- The values of an array, behind its bracket. -/
def readItems (value : List Char → Option (Value × List Char)) : Nat → List Char → Option (List Value × List Char)
  | 0, _ => none
  | fuel + 1, cs =>
    match skipLines (cs.length + 1) cs with
    | ']' :: rest => some ([], rest)
    | cs => do
      let (v, cs) ← value cs
      match skipLines (cs.length + 1) cs with
      | ',' :: rest =>
        let (vs, rest) ← readItems value fuel rest
        return (v :: vs, rest)
      | ']' :: rest => return ([v], rest)
      | _ => none

/-- A key, an equals sign and a value. -/
def readPair (value : List Char → Option (Value × List Char)) (cs : List Char) :
    Option (((List String × String) × Value) × List Char) := do
  let (key, cs) ← readKey cs
  let (v, cs) ← value (skipSpaces (← expect '=' cs))
  return ((key, v), cs)

/-- The pairs of a table in braces, behind the first brace, added to a table. -/
def readPairs (value : List Char → Option (Value × List Char)) : Nat → Node → List Char → Option (Node × List Char)
  | 0, _, _ => none
  | fuel + 1, table, cs => do
    let (((path, key), v), cs) ← readPair value cs
    let table ← Node.define path key (.leaf v) table
    match skipSpaces cs with
    | ',' :: rest => readPairs value fuel table rest
    | '\x7d' :: rest => return (table, rest)
    | _ => none

/-- An empty table that is stated. -/
def emptyTable : Node := .table .stated []

/-- A value, within which values nest less than `depth` deep. -/
def readValue : Nat → List Char → Option (Value × List Char)
  | 0, _ => none
  | depth + 1, cs =>
    match cs with
    | '"' :: _ | '\'' :: _ => (readText cs).map fun (s, rest) => (.text s, rest)
    | '[' :: rest =>
      (readItems (readValue depth) (rest.length + 1) rest).map fun (vs, r) => (.array vs, r)
    | '\x7b' :: rest =>
      match skipSpaces rest with
      | '\x7d' :: after => some (.table [], after)
      | inside =>
        (readPairs (readValue depth) (inside.length + 1) emptyTable inside).map
          fun (table, after) => (table.toValue, after)
    | 't' :: 'r' :: 'u' :: 'e' :: rest => some (.boolean true, rest)
    | 'f' :: 'a' :: 'l' :: 's' :: 'e' :: rest => some (.boolean false, rest)
    | _ => (readMoment cs).orElse fun _ => (readFloat cs).orElse fun _ => readInteger cs

/-! ## Documents -/

/-- A document in reading: its root, and the way to the table that keys go to. -/
structure Progress where
  root : Node := emptyTable
  path : List String := []

/-- Takes up a header between single or double brackets, or a key and its value. -/
def Progress.readEntry (p : Progress) (cs : List Char) : Option (Progress × List Char) :=
  match cs with
  | '[' :: '[' :: rest => do
    let ((path, key), rest) ← readKey rest
    let rest ← expect ']' (← expect ']' rest)
    return ({ root := ← p.root.openItem? path key, path := path ++ [key] }, ← restOfLine? rest)
  | '[' :: rest => do
    let ((path, key), rest) ← readKey rest
    let rest ← expect ']' rest
    return ({ root := ← p.root.openTable? path key, path := path ++ [key] }, ← restOfLine? rest)
  | _ => do
    let (((path, key), v), rest) ← readPair (readValue nestingLimit) cs
    let root ← Node.within .passed (Node.define path key (.leaf v)) p.path p.root
    return ({ p with root }, ← restOfLine? rest)

/-- Reads entries up to the end; `fuel` bounds their number. -/
def Progress.readAll : Nat → Progress → List Char → Option Progress
  | 0, _, _ => none
  | fuel + 1, p, cs =>
    match skipLines (cs.length + 1) cs with
    | [] => some p
    | cs => do
      let (p, rest) ← p.readEntry cs
      readAll fuel p rest

/-- The root table of a document. A byte order mark before it is passed over. -/
def parse (text : List Char) : Option (List (String × Value)) := do
  let cs := match text with
    | '\uFEFF' :: rest => rest
    | _ => text
  let p ← Progress.readAll (cs.length + 1) {} cs
  match p.root.toValue with
  | .table entries => some entries
  | _ => none

end PriceTracker.Toml
