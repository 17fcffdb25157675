import PriceTracker.Text.NormalizationTable

/-!
# Canonical composition

`compose` brings a text into Normalization Form C: every character is decomposed, marks are put
into the order of their combining classes, and each starter takes up the marks it composes with.
Hangul syllables are computed, all other characters come from the table.
-/

namespace PriceTracker.Text.Normalization

/-- The canonical combining class of a character; a starter has class 0. -/
def combiningClass (c : Char) : Nat :=
  (combiningClasses.find? c).getD 0

/-! ## Hangul syllables -/

/-- The parts of a Hangul syllable. -/
def decomposeHangul? (c : Char) : Option (List Char) :=
  let n := c.toNat
  if 0xAC00 ≤ n && n < 0xAC00 + 11172 then
    let s := n - 0xAC00
    let lead := Char.ofNat (0x1100 + s / 588)
    let vowel := Char.ofNat (0x1161 + s % 588 / 28)
    some (if s % 28 = 0 then [lead, vowel] else [lead, vowel, Char.ofNat (0x11A7 + s % 28)])
  else none

/-- The Hangul syllable of a leading consonant and a vowel, or of a syllable without a trailing
consonant and such a consonant. -/
def composeHangul? (a b : Char) : Option Char :=
  let l := a.toNat
  let v := b.toNat
  if 0x1100 ≤ l && l < 0x1113 && 0x1161 ≤ v && v < 0x1176 then
    some (Char.ofNat (0xAC00 + ((l - 0x1100) * 21 + (v - 0x1161)) * 28))
  else if 0xAC00 ≤ l && l < 0xAC00 + 11172 && (l - 0xAC00) % 28 == 0 && 0x11A7 < v && v < 0x11C3 then
    some (Char.ofNat (l + (v - 0x11A7)))
  else none

/-! ## Decomposition and composition of one step -/

/-- The full canonical decomposition of a character. -/
def decomposeChar (c : Char) : List Char :=
  if c.toNat < 0xC0 then [c]
  else
    match decomposeHangul? c with
    | some parts => parts
    | none =>
      match decompositions.find? (·.char == c) with
      | some d => d.parts
      | none => [c]

/-- The character that a starter and a mark compose to. -/
def composePair? (a b : Char) : Option Char :=
  match composeHangul? a b with
  | some c => some c
  | none =>
    let parts := decomposeChar a ++ [b]
    (decompositions.find? fun d => d.isComposed && d.parts == parts).map (·.char)

/-! ## The normal form -/

/-- Puts a mark behind the last character whose class is zero or not above its own. The text is
given in reverse. -/
def insertMark (c : Char) : List Char → List Char
  | [] => [c]
  | d :: ds => if combiningClass c < combiningClass d then d :: insertMark c ds else c :: d :: ds

/-- Appends a character to a text in canonical order, both in reverse. -/
def pushOrdered (reversed : List Char) (c : Char) : List Char :=
  if combiningClass c = 0 then c :: reversed else insertMark c reversed

/-- The decomposed text in canonical order. -/
def decompose (cs : List Char) : List Char :=
  ((cs.flatMap decomposeChar).foldl pushOrdered []).reverse

/-- Composition in progress: the text before the last starter, the starter, and the marks behind
it that it did not take up, the text and the marks in reverse. -/
structure Composing where
  before : List Char := []
  starter : Option Char := none
  marks : List Char := []

/-- The text so far, in reverse. -/
def Composing.reversed (s : Composing) : List Char :=
  s.marks ++ s.starter.toList ++ s.before

/-- Takes up the next character: the starter composes with it unless a mark between them has no
lower class. -/
def Composing.push (s : Composing) (c : Char) : Composing :=
  let k := combiningClass c
  let composed := match s.starter, s.marks with
    | some a, [] => composePair? a c
    | some a, m :: _ => if combiningClass m < k then composePair? a c else none
    | none, _ => none
  match composed with
  | some d => { s with starter := some d }
  | none =>
    if k = 0 then { before := s.reversed, starter := some c }
    else { s with marks := c :: s.marks }

/-- The text in Normalization Form C. -/
def compose (cs : List Char) : List Char :=
  ((decompose cs).foldl Composing.push {}).reversed.reverse

end PriceTracker.Text.Normalization
