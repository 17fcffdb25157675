import PriceTracker.Text.Blank

/-!
# Tables over the code points

A property of characters is constant on runs of code points, so it is kept as the sorted code
points at which the runs start. `CharTable.find?` gives the value of the run that a character
lies in; `CharSet.contains` is the case of two values, where membership flips at each start.

Both are written as texts: entries between blanks, each with the distance to the start before it
in lower-case hexadecimal digits, and for a `CharTable` the value behind it.
-/

namespace PriceTracker.Text

/-- The value of a hexadecimal digit, in lower case. -/
def lowerHexDigit? (c : Char) : Option Nat :=
  if c.isDigit then some (c.toNat - '0'.toNat)
  else if 'a' ≤ c && c ≤ 'f' then some (c.toNat - 'a'.toNat + 10)
  else none

/-- The number that lower-case hexadecimal digits spell. -/
def ofLowerHex (cs : List Char) : Nat :=
  cs.foldl (fun n c => 16 * n + (lowerHexDigit? c).getD 0) 0

/-- How many entries of the sorted array `xs` are at most `n`, when those before `lo` are and
those from `hi` on are not. -/
def rankIn (xs : Array Nat) (n lo hi : Nat) : Nat :=
  if lo < hi then
    let mid := (lo + hi) / 2
    if xs.getD mid 0 ≤ n then rankIn xs n (mid + 1) hi else rankIn xs n lo mid
  else lo
termination_by hi - lo

/-- The entries of a written table: the start of each run and the text behind it. -/
def readEntries (text : String) : List (Nat × List Char) :=
  let step (acc : Nat × List (Nat × List Char)) (entry : List Char) :=
    let start := acc.1 + ofLowerHex (entry.takeWhile fun c => (lowerHexDigit? c).isSome)
    (start, (start, entry.dropWhile fun c => (lowerHexDigit? c).isSome) :: acc.2)
  ((words text.toList).foldl step (0, [])).2.reverse

/-- A set of characters, as the code points at which membership flips. -/
structure CharSet where
  flips : Array Nat

/-- The set that a text writes. -/
def CharSet.read (text : String) : CharSet :=
  ⟨((readEntries text).map (·.1)).toArray⟩

/-- Whether the character is in the set. -/
def CharSet.contains (s : CharSet) (c : Char) : Bool :=
  rankIn s.flips c.toNat 0 s.flips.size % 2 == 1

/-- A property of characters: where its runs start, and the value on each run. -/
structure CharTable (α : Type) where
  starts : Array Nat
  values : Array α

/-- The table that a text writes, `value` reading the text behind each start. -/
def CharTable.read (value : List Char → α) (text : String) : CharTable α :=
  let entries := readEntries text
  ⟨(entries.map (·.1)).toArray, (entries.map fun e => value e.2).toArray⟩

/-- The value on the run that the character lies in, if there is one. -/
def CharTable.find? (t : CharTable α) (c : Char) : Option α :=
  match rankIn t.starts c.toNat 0 t.starts.size with
  | 0 => none
  | k + 1 => t.values[k]?

/-- The start and the value of the run that the character lies in, if there is one. -/
def CharTable.findRun? (t : CharTable α) (c : Char) : Option (Nat × α) :=
  match rankIn t.starts c.toNat 0 t.starts.size with
  | 0 => none
  | k + 1 => t.values[k]?.map fun v => (t.starts.getD k 0, v)

end PriceTracker.Text
