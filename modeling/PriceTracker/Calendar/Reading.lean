import PriceTracker.Calendar.Date
import PriceTracker.Text.Blank

/-!
# Reading dates

`Date.read` reads year, month and day with a hyphen between neighbours. Blanks may stand before
each number. A year without a sign has at most four digits, one with a sign any number of them.
A number out of range is refused where it stands, before what follows it is looked at.
-/

namespace PriceTracker

/-- Why a text is no date. -/
inductive DateError where
  /-- A number is out of range, or there is no such day. -/
  | outOfRange
  /-- A character stands where it may not. -/
  | badCharacter
  /-- The text ends too early. -/
  | tooShort
  /-- Text is left behind the date. -/
  | tooLong
  deriving DecidableEq, Repr

/-- The wording of the error. -/
def DateError.message : DateError → String
  | .outOfRange => "input is out of range"
  | .badCharacter => "input contains invalid characters"
  | .tooShort => "premature end of input"
  | .tooLong => "trailing input"

namespace Date

/-- The number that decimal digits spell. -/
def ofDigits (digits : List Char) : Nat :=
  digits.foldl (fun n d => 10 * n + (d.toNat - '0'.toNat)) 0

/-- A number of at least one and, where there is a limit, at most `width` digits. -/
def readNumber (width : Option Nat) (cs : List Char) : Except DateError (Nat × List Char) :=
  let window := match width with
    | some w => cs.take w
    | none => cs
  let digits := window.takeWhile Char.isDigit
  if cs.isEmpty then .error .tooShort
  else if digits.isEmpty then .error .badCharacter
  else .ok (ofDigits digits, cs.drop digits.length)

/-- A number that must lie within bounds. -/
def readBounded (least greatest : Int) (negative : Bool) (width : Option Nat) (cs : List Char) :
    Except DateError (Int × List Char) := do
  let (n, rest) ← readNumber width cs
  let value : Int := if negative then -n else n
  if least ≤ value && value ≤ greatest then return (value, rest) else throw .outOfRange

/-- The year, a whole number of 32 bits. -/
def readYear (cs : List Char) : Except DateError (Int × List Char) :=
  match cs.dropWhile Text.isBlank with
  | '-' :: rest => readBounded (-0x80000000) 0x7FFFFFFF true none rest
  | '+' :: rest => readBounded (-0x80000000) 0x7FFFFFFF false none rest
  | rest => readBounded (-0x80000000) 0x7FFFFFFF false (some 4) rest

/-- A month or a day, of at most two digits. -/
def readPart (greatest : Int) (cs : List Char) : Except DateError (Int × List Char) :=
  readBounded 1 greatest false (some 2) (cs.dropWhile Text.isBlank)

/-- The text behind a hyphen. -/
def readHyphen : List Char → Except DateError (List Char)
  | [] => .error .tooShort
  | '-' :: rest => .ok rest
  | _ => .error .badCharacter

/-- The date that characters spell. -/
def readChars (cs : List Char) : Except DateError Date := do
  let (year, cs) ← readYear cs
  let (month, cs) ← readPart 12 (← readHyphen cs)
  let (day, cs) ← readPart 31 (← readHyphen cs)
  if !cs.isEmpty then throw .tooLong
  match ofNumbers? year month.toNat day.toNat with
  | some d => return d
  | none => throw .outOfRange

/-- The date that a text spells. -/
def read (text : String) : Except DateError Date :=
  readChars text.toList

end Date

end PriceTracker
