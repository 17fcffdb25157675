/-!
# Decimals and the binary numbers nearest to them

A `Decimal` is an exact amount `units / 10 ^ places`. `Decimal.read?` reads the plain spelling
(digits, and optionally a point and more digits), and `Decimal.toFloat` gives the binary64 number
nearest to the amount, ties going to the even neighbour and amounts beyond the range to infinity.

The non-negative binary64 numbers, infinity last, are counted off by their bit patterns, so
rounding is a computation of a *rank*: with a grid of step `2 ^ (k - 1074)`, the rank of the `q`-th
grid point is `k * 2 ^ 52 + q`. This holds on both sides of the step from one binade to the next,
which is why rounding up needs no carry.
-/

namespace PriceTracker

/-- The exact amount `units / 10 ^ places`. -/
structure Decimal where
  /-- All digits, read as one integer. -/
  units : Nat
  /-- How many of the digits stand after the point. -/
  places : Nat
  deriving DecidableEq, Repr

namespace Decimal

/-- The value of an ASCII digit. -/
def digitValue (c : Char) : Nat :=
  c.toNat - '0'.toNat

/-- A digit string as an integer. -/
def ofDigits (cs : List Char) : Nat :=
  cs.foldl (fun n c => 10 * n + digitValue c) 0

/-- Reads digits, optionally followed by a point and more digits. -/
def read? (cs : List Char) : Option Decimal :=
  let whole := cs.takeWhile Char.isDigit
  match cs.dropWhile Char.isDigit with
  | [] => if whole.isEmpty then none else some ⟨ofDigits whole, 0⟩
  | '.' :: rest =>
    if whole.isEmpty || rest.isEmpty || !rest.all Char.isDigit then none
    else some ⟨ofDigits (whole ++ rest), rest.length⟩
  | _ => none

/-- The integer nearest to `a / b`, a tie going to the even one. -/
def roundDiv (a b : Nat) : Nat :=
  let q := a / b
  let r := a % b
  if 2 * r < b || (2 * r == b && q % 2 == 0) then q else q + 1

/-- The rank of infinity among the non-negative binary64 numbers. -/
def infinityRank : Nat :=
  2047 * Nat.pow 2 52

/-- The rank of the binary64 number nearest to `num / den`. -/
def nearestRank (num den : Nat) : Nat :=
  let scaled := num * Nat.pow 2 1074
  let k := (scaled / den).log2 - 52
  min infinityRank (k * Nat.pow 2 52 + roundDiv scaled (den * Nat.pow 2 k))

/-- The binary64 number nearest to the amount. -/
def toFloat (d : Decimal) : Float :=
  Float.ofBits (UInt64.ofNat (nearestRank d.units (Nat.pow 10 d.places)))

end Decimal

end PriceTracker
