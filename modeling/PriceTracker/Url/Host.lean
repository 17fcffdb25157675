import PriceTracker.Text.Utf8
import PriceTracker.Url.Basic
import PriceTracker.Url.Domain.Ascii

/-!
# Hosts

Percent-encoding, and the reading of hosts: addresses of both kinds, domain names, and, for
schemes without rules of their own, any text of allowed characters.
-/

namespace PriceTracker.Url

open Text

/-! ## Percent-encoding -/

/-- An upper-case hexadecimal digit. -/
def upperHexDigit (n : Nat) : Char :=
  if n < 10 then Char.ofNat ('0'.toNat + n) else Char.ofNat ('A'.toNat + (n - 10))

/-- The value of a hexadecimal digit of either case. -/
def hexDigit? (c : Char) : Option Nat :=
  lowerHexDigit? c.toLower

/-- A character, or its bytes in percent-encoding if it is in the set. -/
def encodeChar (inSet : Char → Bool) (c : Char) : List Char :=
  if inSet c then
    (Utf8.encodeChar c).flatMap fun b =>
      ['%', upperHexDigit (b.toNat / 16), upperHexDigit (b.toNat % 16)]
  else [c]

/-- A text with the characters of a set in percent-encoding. -/
def percentEncode (inSet : Char → Bool) (cs : List Char) : String :=
  String.ofList (cs.flatMap (encodeChar inSet))

/-- The bytes of a text, percent-encodings resolved. -/
def percentDecode : List Char → List UInt8
  | [] => []
  | '%' :: a :: b :: cs =>
    match hexDigit? a, hexDigit? b with
    | some x, some y => UInt8.ofNat (16 * x + y) :: percentDecode cs
    | _, _ => Utf8.encodeChar '%' ++ percentDecode (a :: b :: cs)
  | c :: cs => Utf8.encodeChar c ++ percentDecode cs
termination_by cs => cs.length

/-- Control characters and everything beyond ASCII. -/
def inControlSet (c : Char) : Bool :=
  c.toNat < 0x20 || 0x7F ≤ c.toNat

/-- What is encoded in a fragment. -/
def inFragmentSet (c : Char) : Bool :=
  inControlSet c || " \"<>`".toList.contains c

/-- What is encoded in a query. -/
def inQuerySet (c : Char) : Bool :=
  inControlSet c || " \"#<>".toList.contains c

/-- What is encoded in the query of a scheme with rules of its own. -/
def inSpecialQuerySet (c : Char) : Bool :=
  inQuerySet c || c == '\''

/-- What is encoded in a path. -/
def inPathSet (c : Char) : Bool :=
  inFragmentSet c || "#?\x7b\x7d".toList.contains c

/-- What is encoded in a user name or a password. -/
def inUserSet (c : Char) : Bool :=
  inPathSet c || "/:;=@[\\]^|".toList.contains c

/-! ## Addresses of 32 bits -/

/-- The digits of a number and their base: `0x` stands before base 16, a zero before base 8. -/
def ipv4Base (cs : List Char) : Nat × List Char :=
  match cs with
  | '0' :: 'x' :: rest => (16, rest)
  | '0' :: 'X' :: rest => (16, rest)
  | '0' :: d :: rest => (8, d :: rest)
  | _ => (10, cs)

/-- The number that a part of an address spells. -/
def ipv4Number? (cs : List Char) : Option Nat :=
  if cs.isEmpty then none
  else
    let (base, digits) := ipv4Base cs
    digits.foldl (fun n c => do
      let n ← n
      let d ← hexDigit? c
      if d < base then some (n * base + d) else none) (some 0)

/-- The parts between the dots, without an empty one at the end. -/
def ipv4Parts (cs : List Char) : List (List Char) :=
  let parts := cs.splitOn '.'
  match parts.reverse with
  | [] :: p :: ps => (p :: ps).reverse
  | _ => parts

/-- A name whose last part is a number has to be an address. -/
def endsInNumber (cs : List Char) : Bool :=
  match (ipv4Parts cs).getLast? with
  | some last => !last.isEmpty && (last.all Char.isDigit || (ipv4Number? last).isSome)
  | none => false

/-- The address that a name spells: at most four numbers, the last of which fills the rest. -/
def ipv4? (cs : List Char) : Option Nat := do
  let parts := ipv4Parts cs
  if 4 < parts.length then none
  let numbers ← parts.mapM ipv4Number?
  let last ← numbers.getLast?
  let front := numbers.dropLast
  if front.any (255 < ·) || Nat.pow 256 (4 - front.length) ≤ last then none
  return front.zipIdx.foldl (fun sum (n, i) => sum + n * Nat.pow 256 (3 - i)) last

/-! ## Addresses of 128 bits -/

/-- The four numbers that may end an address, as two pieces. -/
def ipv6Tail? (cs : List Char) : Option (List Nat) := do
  let numbers ← (cs.splitOn '.').mapM fun part =>
    if part.isEmpty || !part.all Char.isDigit || (1 < part.length && part.head? == some '0') ||
      3 < part.length then none
    else
      let n := part.foldl (fun n c => 10 * n + (c.toNat - '0'.toNat)) 0
      if 255 < n then none else some n
  match numbers with
  | [a, b, c, d] => some [256 * a + b, 256 * c + d]
  | _ => none

/-- A piece: one to four hexadecimal digits. -/
def ipv6Piece? (cs : List Char) : Option Nat :=
  if cs.isEmpty || 4 < cs.length then none
  else cs.foldl (fun n c => do return 16 * (← n) + (← hexDigit? c)) (some 0)

/-- The pieces between colons; four numbers with dots may stand last if `tail` allows it. -/
def ipv6Pieces? (tail : Bool) (cs : List Char) : Option (List Nat) :=
  if cs.isEmpty then some []
  else
    let parts := cs.splitOn ':'
    match parts.getLast? with
    | some last =>
      if tail && last.contains '.' then do
        return (← parts.dropLast.mapM ipv6Piece?) ++ (← ipv6Tail? last)
      else parts.mapM ipv6Piece?
    | none => none

/-- Splits at the first pair of colons. -/
def splitPairOfColons : List Char → Option (List Char × List Char)
  | [] => none
  | ':' :: ':' :: cs => some ([], cs)
  | c :: cs => (splitPairOfColons cs).map fun (a, b) => (c :: a, b)

/-- The address of eight pieces that a text spells; one pair of colons stands for the zeros that
are missing. -/
def ipv6? (cs : List Char) : Option (List Nat) := do
  match splitPairOfColons cs with
  | none =>
    let pieces ← ipv6Pieces? true cs
    if pieces.length = 8 then some pieces else none
  | some (front, back) =>
    let a ← ipv6Pieces? false front
    let b ← ipv6Pieces? true back
    if a.length + b.length < 8 then
      some (a ++ List.replicate (8 - a.length - b.length) 0 ++ b)
    else none

/-- The address between brackets. -/
def Host.bracketed (cs : List Char) : Except ParseError Host :=
  match cs.getLast?, ipv6? cs.dropLast with
  | some ']', some pieces => .ok (.ipv6 pieces)
  | _, _ => .error .invalidIpv6

/-! ## Hosts -/

/-- The host of a scheme with rules of its own: an address or a domain name. -/
def Host.parse (cs : List Char) : Except ParseError Host :=
  match cs with
  | '[' :: rest => bracketed rest
  | _ =>
    match (Utf8.decode? (percentDecode cs)).bind Domain.toAscii? with
    | none => .error .invalidDomainName
    | some [] => .error .emptyHost
    | some domain =>
      if endsInNumber domain then
        match ipv4? domain with
        | some address => .ok (.ipv4 address)
        | none => .error .invalidIpv4
      else .ok (.name (String.ofList domain))

/-- A character that the host of no scheme may hold. -/
def isForbiddenInHost (c : Char) : Bool :=
  c == '\x00' || "\t\n\r #/:<>?@[\\]^|".toList.contains c

/-- The host of any other scheme: an address or a text of allowed characters. -/
def Host.parseOther (cs : List Char) : Except ParseError Host :=
  match cs with
  | '[' :: rest => bracketed rest
  | _ =>
    if cs.any isForbiddenInHost then .error .invalidHostCharacter
    else .ok (.name (percentEncode inControlSet cs))

end PriceTracker.Url
