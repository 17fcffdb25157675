/-!
# URLs

A `Url` is a URL in parts, each part already in its written form, so that `Url.toString` only
puts the marks between them. `Url.withoutFragment` is the URL of the same page.
-/

namespace PriceTracker

/-- The host of a URL. -/
inductive Url.Host where
  /-- A name, possibly empty. -/
  | name (text : String)
  /-- An address of 32 bits. -/
  | ipv4 (address : Nat)
  /-- An address of eight pieces of 16 bits. -/
  | ipv6 (pieces : List Nat)
  deriving DecidableEq, Repr

/-- The path of a URL. -/
inductive Url.Path where
  /-- A text without structure, which no relative reference can be resolved against. -/
  | undivided (text : String)
  /-- Segments, each written behind a slash. -/
  | segments (items : List String)
  deriving DecidableEq, Repr

/-- A URL in parts. -/
structure Url where
  scheme : String
  username : String := ""
  password : String := ""
  host : Option Url.Host := none
  /-- The port, unless it is the usual one of the scheme. -/
  port : Option Nat := none
  path : Url.Path
  query : Option String := none
  fragment : Option String := none
  deriving DecidableEq, Repr

namespace Url

/-- Why a text is no URL. -/
inductive ParseError where
  /-- A relative reference without a URL to resolve it against. -/
  | relativeWithoutBase
  /-- A relative reference against a URL with an undivided path. -/
  | relativeWithUndividedBase
  /-- The scheme or the other parts ask for a host, and there is none. -/
  | emptyHost
  /-- A domain name that has no ASCII form. -/
  | invalidDomainName
  /-- A character that no host may hold. -/
  | invalidHostCharacter
  | invalidPort
  | invalidIpv4
  | invalidIpv6
  deriving DecidableEq, Repr

/-- The wording of the error. -/
def ParseError.message : ParseError → String
  | .relativeWithoutBase => "relative URL without a base"
  | .relativeWithUndividedBase => "relative URL with a cannot-be-a-base base"
  | .emptyHost => "empty host"
  | .invalidDomainName => "invalid international domain name"
  | .invalidHostCharacter => "invalid domain character"
  | .invalidPort => "invalid port number"
  | .invalidIpv4 => "invalid IPv4 address"
  | .invalidIpv6 => "invalid IPv6 address"

/-! ## Writing -/

/-- Four numbers between dots. -/
def Host.ipv4Text (address : Nat) : String :=
  s!"{address / 0x1000000}.{address / 0x10000 % 256}.{address / 0x100 % 256}.{address % 256}"

/-- How many zeros the list starts with. -/
def Host.zeroRun (pieces : List Nat) : Nat :=
  (pieces.takeWhile (· == 0)).length

/-- The first of the longest runs of at least two zeros: its start and its length. -/
def Host.longestZeroRun (pieces : List Nat) : Option (Nat × Nat) :=
  (List.range pieces.length).foldl (fun best i =>
    let n := zeroRun (pieces.drop i)
    if n < 2 then best
    else match best with
      | some (_, m) => if m < n then some (i, n) else best
      | none => some (i, n)) none

/-- The lower-case hexadecimal spelling of a piece. -/
def Host.hexPiece (n : Nat) : String :=
  String.ofList (Nat.toDigits 16 n)

/-- Pieces between colons, the longest run of zeros left out. -/
def Host.ipv6Text (pieces : List Nat) : String :=
  let join (ps : List Nat) := ":".intercalate (ps.map hexPiece)
  match longestZeroRun pieces with
  | some (start, count) => join (pieces.take start) ++ "::" ++ join (pieces.drop (start + count))
  | none => join pieces

/-- The written form of a host. -/
def Host.toString : Host → String
  | .name text => text
  | .ipv4 address => ipv4Text address
  | .ipv6 pieces => "[" ++ ipv6Text pieces ++ "]"

/-- The written form of the user and the password, with the mark behind them. -/
def credentials (u : Url) : String :=
  if u.username.isEmpty && u.password.isEmpty then ""
  else u.username ++ (if u.password.isEmpty then "" else ":" ++ u.password) ++ "@"

/-- The written form of the port, with the mark before it. -/
def portText : Option Nat → String
  | some p => s!":{p}"
  | none => ""

/-- The written form of what stands between the scheme and the path. A path that would read as a
host is kept apart by a dot. -/
def authority (u : Url) : String :=
  match u.host, u.path with
  | some h, _ => "//" ++ u.credentials ++ h.toString ++ portText u.port
  | none, .segments ("" :: _ :: _) => "/."
  | none, _ => ""

/-- The written form of a path. -/
def Path.toString : Path → String
  | .undivided text => text
  | .segments items => String.join (items.map ("/" ++ ·))

/-- A part with the mark before it, if the part is there. -/
def marked (mark : String) : Option String → String
  | some text => mark ++ text
  | none => ""

/-- The written form of the URL. -/
def toString (u : Url) : String :=
  u.scheme ++ ":" ++ u.authority ++ u.path.toString ++ marked "?" u.query ++ marked "#" u.fragment

instance : ToString Url := ⟨Url.toString⟩

/-! ## Pages -/

/-- The text without the spaces at its end. -/
def dropTrailingSpaces (s : String) : String :=
  String.ofList ((s.toList.reverse.dropWhile (· == ' ')).reverse)

/-- The URL without its fragment. An undivided path that then ends the URL loses the spaces at
its end. -/
def withoutFragment (u : Url) : Url :=
  match u.path, u.query with
  | .undivided text, none =>
    { u with path := .undivided (dropTrailingSpaces text), fragment := none }
  | _, _ => { u with fragment := none }

/-- The schemes of web pages. -/
def isWeb (u : Url) : Bool :=
  u.scheme == "http" || u.scheme == "https"

end Url

end PriceTracker
