/-!
# Punycode

The spelling of Unicode labels in ASCII (RFC 3492). The characters beyond ASCII are told in
increasing order, each as the distance from the one before, in digits of base 36 whose thresholds
adapt as the text goes on. `Punycode.encode` writes a label, `Punycode.decode?` reads one.
-/

namespace PriceTracker.Url.Punycode

/-- The digit of a value below 36: `a` to `z`, then `0` to `9`. -/
def digitChar (d : Nat) : Char :=
  if d < 26 then Char.ofNat ('a'.toNat + d) else Char.ofNat ('0'.toNat + (d - 26))

/-- The value of a digit; letters may have either case. -/
def digitValue? (c : Char) : Option Nat :=
  if 'a' ≤ c && c ≤ 'z' then some (c.toNat - 'a'.toNat)
  else if 'A' ≤ c && c ≤ 'Z' then some (c.toNat - 'A'.toNat)
  else if c.isDigit then some (c.toNat - '0'.toNat + 26)
  else none

/-- The threshold of the digit at position `k` (36, 72, …). -/
def threshold (k bias : Nat) : Nat :=
  if k ≤ bias then 1 else if bias + 26 ≤ k then 26 else k - bias

theorem threshold_pos (k bias : Nat) : 0 < threshold k bias := by
  unfold threshold
  split
  · omega
  · split <;> omega


/-- Divides by 35 while above 455, counting 36 for each division. -/
def shrink (delta k : Nat) : Nat × Nat :=
  if 455 < delta then shrink (delta / 35) (k + 36) else (delta, k)
termination_by delta

/-- The bias after a distance was told, with `count` characters placed. -/
def adapt (delta count : Nat) (isFirst : Bool) : Nat :=
  let d := if isFirst then delta / 700 else delta / 2
  let (d, k) := shrink (d + d / count) 0
  k + 36 * d / (d + 38)

/-! ## Writing -/

/-- The digits of a distance. -/
def encodeDelta (bias k q : Nat) : List Char :=
  let t := threshold k bias
  if q < t then [digitChar q]
  else digitChar (t + (q - t) % (36 - t)) :: encodeDelta bias (k + 36) ((q - t) / (36 - t))
termination_by q
decreasing_by
  have h₁ := threshold_pos k bias
  have h₂ := Nat.div_le_self (q - threshold k bias) (36 - threshold k bias)
  omega

/-- Writing in progress: the distance since the last told character, the bias, how many
characters are placed, and the digits so far. -/
structure Writing where
  delta : Nat
  bias : Nat
  placed : Nat
  out : List Char

/-- Passes one character of the label while the characters with code point `n` are told. -/
def Writing.pass (basic n : Nat) (s : Writing) (c : Char) : Writing :=
  if c.toNat < n then { s with delta := s.delta + 1 }
  else if c.toNat = n then
    { delta := 0
      bias := adapt s.delta (s.placed + 1) (s.placed == basic)
      placed := s.placed + 1
      out := s.out ++ encodeDelta s.bias 36 s.delta }
  else s

/-- Tells the characters of each code point of an increasing list. -/
def Writing.run (label : List Char) (basic : Nat) : Nat → List Nat → Writing → Writing
  | _, [], s => s
  | n, m :: ms, s =>
    let s := { s with delta := s.delta + (m - n) * (s.placed + 1) }
    let s := label.foldl (Writing.pass basic m) s
    Writing.run label basic (m + 1) ms { s with delta := s.delta + 1 }

/-- The Punycode of a label. -/
def encode (label : List Char) : List Char :=
  let basic := label.filter (·.toNat < 0x80)
  let others := ((label.filter (0x80 ≤ ·.toNat)).map Char.toNat).mergeSort.eraseDups
  let lead := if basic.isEmpty then [] else basic ++ ['-']
  (Writing.run label basic.length 0x80 others ⟨0, 72, basic.length, lead⟩).out

/-! ## Reading -/

/-- Reads the digits of one distance: the position after it, and what is left. -/
def decodeDelta (bias : Nat) : Nat → Nat → Nat → List Char → Option (Nat × List Char)
  | _, _, _, [] => none
  | k, w, i, c :: cs =>
    match digitValue? c with
    | none => none
    | some d =>
      let i := i + d * w
      let t := threshold k bias
      if d < t then some (i, cs) else decodeDelta bias (k + 36) (w * (36 - t)) i cs

theorem length_of_decodeDelta {bias k w i j : Nat} {cs rest : List Char}
    (h : decodeDelta bias k w i cs = some (j, rest)) : rest.length < cs.length := by
  induction cs generalizing k w i with
  | nil => simp [decodeDelta] at h
  | cons c cs ih =>
    simp only [decodeDelta] at h
    split at h
    · cases h
    · split at h
      · cases h; simp
      · exact Nat.lt_succ_of_lt (ih h)

/-- Places the told characters one by one. -/
def place (bias n i : Nat) (out : List Char) (cs : List Char) : Option (List Char) :=
  if cs.isEmpty then some out
  else
    match _h : decodeDelta bias 36 1 i cs with
    | none => none
    | some (j, rest) =>
      let count := out.length + 1
      let m := n + j / count
      if m.isValidChar then
        place (adapt (j - i) count (i == 0)) m (j % count + 1)
          (out.insertIdx (j % count) (Char.ofNat m)) rest
      else none
termination_by cs.length
decreasing_by exact length_of_decodeDelta _h

/-- The label that a Punycode text spells. -/
def decode? (cs : List Char) : Option (List Char) :=
  let tail := (cs.reverse.takeWhile (· != '-')).reverse
  let basic := (cs.reverse.dropWhile (· != '-')).tail.reverse
  if basic.all (·.toNat < 0x80) then place 72 0x80 0 basic tail else none

end PriceTracker.Url.Punycode
