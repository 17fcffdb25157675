import PriceTracker.Html.CharacterReference.Names
import PriceTracker.Text.CharTable
import Std.Data.HashMap

/-!
# Character references

What may stand behind an ampersand: the number of a character, or one of the names of `nameTable`.
`resolve?` reads a reference and gives its characters with what follows it; `decode` replaces all
references of an attribute value.

The longest name that fits counts. In an attribute value, a name without its semicolon counts only
if neither an equals sign nor a letter or digit follows.
-/

namespace PriceTracker.Html.CharacterReference

/-! ## Names -/

/-- The name and the characters of an entry of the table. -/
def readName (entry : List Char) : String × List Char :=
  let points := (entry.dropWhile (· != '=')).drop 1
  (String.ofList (entry.takeWhile (· != '=')),
    (points.splitOn '.').map fun ds => Char.ofNat (Text.ofLowerHex ds))

/-- The characters of each name. A name that may go without its semicolon is listed both ways. -/
def names : Std.HashMap String (List Char) :=
  Std.HashMap.ofList <| (Text.words nameTable.toList).flatMap fun entry =>
    let (name, chars) := readName entry
    if name.endsWith ";" then [(name, chars)] else [(name, chars), (name ++ ";", chars)]

/-- The length of the longest name. -/
def longestName : Nat := 33

/-- The longest name in front of a text that has at most `length` characters, with the characters
it stands for and what follows it. -/
def longestMatch? (cs : List Char) : Nat → Option (List Char × List Char × List Char)
  | 0 => none
  | length + 1 =>
    let name := cs.take (length + 1)
    match names[String.ofList name]? with
    | some chars => some (name, chars, cs.drop (length + 1))
    | none => longestMatch? cs length

/-- Reads a name. -/
def named? (inAttribute : Bool) (cs : List Char) : Option (List Char × List Char) :=
  let candidates := (cs.takeWhile Char.isAlphanum).length + 1
  match longestMatch? cs (min candidates (min longestName cs.length)) with
  | none => none
  | some (name, chars, rest) =>
    let continues := match rest with
      | c :: _ => c == '=' || c.isAlphanum
      | [] => false
    if inAttribute && name.getLast? != some ';' && continues then none else some (chars, rest)

/-! ## Numbers -/

/-- What the numbers from 80 to 9F in hexadecimal digits stand for; where nothing is listed, they
stand for themselves. -/
def highControls : List Nat :=
  [0x20AC, 0, 0x201A, 0x0192, 0x201E, 0x2026, 0x2020, 0x2021, 0x02C6, 0x2030, 0x0160, 0x2039,
    0x0152, 0, 0x017D, 0, 0, 0x2018, 0x2019, 0x201C, 0x201D, 0x2022, 0x2013, 0x2014, 0x02DC,
    0x2122, 0x0161, 0x203A, 0x0153, 0, 0x017E, 0x0178]

/-- The character of a number; a number that is no character stands for U+FFFD. -/
def ofNumber (n : Nat) : Char :=
  if n = 0 ∨ !n.isValidChar then '\uFFFD'
  else if 0x80 ≤ n ∧ n ≤ 0x9F then
    match highControls[n - 0x80]? with
    | some m => if m = 0 then Char.ofNat n else Char.ofNat m
    | none => Char.ofNat n
  else Char.ofNat n

/-- The value of a digit of the base. -/
def digit? (base : Nat) (c : Char) : Option Nat :=
  (Text.lowerHexDigit? c.toLower).filter (· < base)

/-- Reads digits of a base and the semicolon behind them, if there is one. -/
def digits? (base : Nat) (cs : List Char) : Option (List Char × List Char) :=
  let isDigit (c : Char) := (digit? base c).isSome
  let digits := cs.takeWhile isDigit
  if digits.isEmpty then none
  else
    let n := digits.foldl (fun n c => base * n + (digit? base c).getD 0) 0
    let rest := match cs.dropWhile isDigit with
      | ';' :: rest => rest
      | rest => rest
    some ([ofNumber n], rest)

/-- Reads a number. -/
def numeric? : List Char → Option (List Char × List Char)
  | 'x' :: cs | 'X' :: cs => digits? 16 cs
  | cs => digits? 10 cs

/-! ## References -/

/-- Reads what stands behind an ampersand; nothing if that is no reference. -/
def resolve? (inAttribute : Bool) : List Char → Option (List Char × List Char)
  | '#' :: cs => numeric? cs
  | cs => named? inAttribute cs

/-- The characters of an attribute value in which `fuel` bounds the number of characters. -/
def decodeUpTo : Nat → List Char → List Char
  | 0, _ | _, [] => []
  | fuel + 1, '&' :: cs =>
    match resolve? true cs with
    | some (chars, rest) => chars ++ decodeUpTo fuel rest
    | none => '&' :: decodeUpTo fuel cs
  | fuel + 1, c :: cs => c :: decodeUpTo fuel cs

/-- The characters of an attribute value. -/
def decode (cs : List Char) : List Char :=
  decodeUpTo cs.length cs

end PriceTracker.Html.CharacterReference
