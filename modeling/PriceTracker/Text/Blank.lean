/-!
# Blank characters

The characters of the Unicode property White_Space, and the two things done with them: cutting
them off both ends of a text, and splitting a text into the words between them.

* `trim` cuts blanks off both ends;
* `words` are the longest blank-free pieces, in order;
* `squeeze` writes the words with one space between neighbours.
-/

namespace PriceTracker.Text

/-- A character of the Unicode property White_Space. -/
def isBlank (c : Char) : Bool :=
  let n := c.toNat
  (0x9 ≤ n && n ≤ 0xD) || n == 0x20 || n == 0x85 || n == 0xA0 || n == 0x1680 ||
    (0x2000 ≤ n && n ≤ 0x200A) || n == 0x2028 || n == 0x2029 || n == 0x202F || n == 0x205F ||
    n == 0x3000

/-- The characters between the first and the last that `drop` does not hold of. -/
def trimBy (drop : Char → Bool) (cs : List Char) : List Char :=
  ((cs.dropWhile drop).reverse.dropWhile drop).reverse

/-- The text without the blanks at its ends. -/
def trim (s : String) : String :=
  String.ofList (trimBy isBlank s.toList)

/-- A text of blanks only. -/
def isBlankText (s : String) : Bool :=
  s.toList.all isBlank

/-- The longest pieces without blanks, in order. -/
def words (cs : List Char) : List (List Char) :=
  (cs.splitOnP isBlank).filter (!·.isEmpty)

/-- The words with one space between neighbours. -/
def squeeze (cs : List Char) : List Char :=
  [' '].intercalate (words cs)

end PriceTracker.Text
