/-!
# UTF-8

`Utf8.encode` writes characters as bytes. `Utf8.scan` takes the first character off a byte list,
or the longest start of one that is ill-formed; from it come the strict reader `Utf8.decode?`
and the forgiving `Utf8.decodeLossy`, which puts U+FFFD in the place of each ill-formed piece.
-/

namespace PriceTracker.Text.Utf8

/-- The bytes of a character. -/
def encodeChar (c : Char) : List UInt8 :=
  let n := c.toNat
  if n < 0x80 then [UInt8.ofNat n]
  else if n < 0x800 then [UInt8.ofNat (0xC0 + n / 0x40), UInt8.ofNat (0x80 + n % 0x40)]
  else if n < 0x10000 then
    [UInt8.ofNat (0xE0 + n / 0x1000), UInt8.ofNat (0x80 + n / 0x40 % 0x40),
      UInt8.ofNat (0x80 + n % 0x40)]
  else
    [UInt8.ofNat (0xF0 + n / 0x40000), UInt8.ofNat (0x80 + n / 0x1000 % 0x40),
      UInt8.ofNat (0x80 + n / 0x40 % 0x40), UInt8.ofNat (0x80 + n % 0x40)]

/-- The bytes of a text. -/
def encode (cs : List Char) : List UInt8 :=
  cs.flatMap encodeChar

/-- What a leading byte promises: its share of the code point, how many bytes follow, and the
range that the first of them must lie in. -/
structure Lead where
  high : Nat
  follow : Nat
  least : Nat := 0x80
  greatest : Nat := 0xBF

/-- The promise of a byte that starts a character. -/
def lead? (b : UInt8) : Option Lead :=
  let n := b.toNat
  if n < 0x80 then some { high := n, follow := 0 }
  else if n < 0xC2 then none
  else if n < 0xE0 then some { high := n - 0xC0, follow := 1 }
  else if n == 0xE0 then some { high := 0, follow := 2, least := 0xA0 }
  else if n == 0xED then some { high := 0xD, follow := 2, greatest := 0x9F }
  else if n < 0xF0 then some { high := n - 0xE0, follow := 2 }
  else if n == 0xF0 then some { high := 0, follow := 3, least := 0x90 }
  else if n < 0xF4 then some { high := n - 0xF0, follow := 3 }
  else if n == 0xF4 then some { high := 4, follow := 3, greatest := 0x8F }
  else none

/-- Reads the bytes that still belong to a character. Without a character, what is left starts
at the byte that does not fit. -/
def continueChar (value : Nat) : Nat → Nat → Nat → List UInt8 → Option Char × List UInt8
  | 0, _, _, bs => (some (Char.ofNat value), bs)
  | _ + 1, _, _, [] => (none, [])
  | k + 1, least, greatest, b :: bs =>
    if least ≤ b.toNat && b.toNat ≤ greatest then
      continueChar (value * 0x40 + b.toNat % 0x40) k 0x80 0xBF bs
    else (none, b :: bs)

/-- What is left never has more bytes. -/
theorem length_continueChar_le (value k least greatest : Nat) (bs : List UInt8) :
    (continueChar value k least greatest bs).2.length ≤ bs.length := by
  induction k generalizing value least greatest bs with
  | zero => simp [continueChar]
  | succ k ih =>
    cases bs with
    | nil => simp [continueChar]
    | cons b bs =>
      simp only [continueChar]
      split
      · exact Nat.le_succ_of_le (ih _ _ _ _)
      · simp

/-- Takes off the first character, or none with the bytes of an ill-formed piece. -/
def scan (b : UInt8) (bs : List UInt8) : Option Char × List UInt8 :=
  match lead? b with
  | some l => continueChar l.high l.follow l.least l.greatest bs
  | none => (none, bs)

theorem length_scan_le (b : UInt8) (bs : List UInt8) : (scan b bs).2.length ≤ bs.length := by
  unfold scan
  split
  · exact length_continueChar_le ..
  · simp

/-- The characters of a byte list, with none for each ill-formed piece. -/
def pieces : List UInt8 → List (Option Char)
  | [] => []
  | b :: bs => (scan b bs).1 :: pieces (scan b bs).2
termination_by bs => bs.length
decreasing_by exact Nat.lt_succ_of_le (length_scan_le b bs)

/-- The text of well-formed bytes. -/
def decode? (bs : List UInt8) : Option (List Char) :=
  (pieces bs).mapM id

/-- The text with U+FFFD in the place of each ill-formed piece. -/
def decodeLossy (bs : List UInt8) : List Char :=
  (pieces bs).map (·.getD '\uFFFD')

end PriceTracker.Text.Utf8
