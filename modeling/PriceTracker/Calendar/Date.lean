/-!
# Calendar dates

Days of the Gregorian calendar, which is taken to hold in all years. `Date.text` writes a date as
`YYYY-MM-DD`; a year above 9999 carries a plus sign and one below zero a minus sign.
-/

namespace PriceTracker

/-- A year with a 29th of February. -/
def isLeapYear (year : Int) : Bool :=
  year % 4 == 0 && (year % 100 != 0 || year % 400 == 0)

/-- The number of days of a month. -/
def daysInMonth (year : Int) (month : Nat) : Nat :=
  if month = 2 then (if isLeapYear year then 29 else 28)
  else if month = 4 ∨ month = 6 ∨ month = 9 ∨ month = 11 then 30
  else 31

/-- The first year with dates. -/
def leastYear : Int := -262143

/-- The last year with dates. -/
def greatestYear : Int := 262142

/-- Whether the numbers name a day. -/
def isDate (year : Int) (month day : Nat) : Bool :=
  decide (leastYear ≤ year) && decide (year ≤ greatestYear) &&
    decide (1 ≤ month) && decide (month ≤ 12) &&
    decide (1 ≤ day) && decide (day ≤ daysInMonth year month)

/-- A day. -/
structure Date where
  year : Int
  month : Nat
  day : Nat
  valid : isDate year month day = true
  deriving DecidableEq

namespace Date

/-- The day that three numbers name. -/
def ofNumbers? (year : Int) (month day : Nat) : Option Date :=
  if h : isDate year month day = true then some ⟨year, month, day, h⟩ else none

/-- A date comes from its own numbers. -/
@[simp] theorem ofNumbers?_numbers (d : Date) : ofNumbers? d.year d.month d.day = some d := by
  simp [ofNumbers?, d.valid]

/-- Whether the first date is earlier than the second. -/
def isBefore (a b : Date) : Bool :=
  decide (a.year < b.year) ||
    (a.year == b.year && (decide (a.month < b.month) || (a.month == b.month && decide (a.day < b.day))))

/-- The decimal digits of a number, with zeros in front up to a width. -/
def padded (width n : Nat) : List Char :=
  let digits := Nat.toDigits 10 n
  List.replicate (width - digits.length) '0' ++ digits

/-- The written year. -/
def yearText (year : Int) : List Char :=
  if year < 0 then '-' :: padded 4 year.natAbs
  else if 9999 < year then '+' :: padded 4 year.natAbs
  else padded 4 year.natAbs

/-- The characters of the written date. -/
def chars (d : Date) : List Char :=
  yearText d.year ++ '-' :: padded 2 d.month ++ '-' :: padded 2 d.day

/-- The written date. -/
def text (d : Date) : String :=
  String.ofList d.chars

end Date

end PriceTracker
