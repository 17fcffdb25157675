import PriceTracker.Text.Blank
import PriceTracker.Text.Utf8

/-!
# Character encodings

The encodings in which pages are sent, the labels that name them, and what bytes mean in each.
`Charset.decode` obeys a byte order mark at the start before the encoding that it is told, and
puts U+FFFD in the place of what means nothing.
-/

namespace PriceTracker.Text

/-- An encoding of text. -/
inductive Charset where
  | utf8
  /-- Two bytes a unit, the low byte first. -/
  | utf16LowFirst
  /-- Two bytes a unit, the high byte first. -/
  | utf16HighFirst
  /-- One byte a character, Central European. -/
  | windows1250
  /-- One byte a character, Western European. -/
  | windows1252
  /-- One byte a character, Central European. -/
  | iso8859Part2
  deriving DecidableEq, Repr

namespace Charset

/-! ## Labels -/

/-- The labels of an encoding, in small letters. -/
def labels : Charset → List String
  | .utf8 =>
    ["utf-8", "utf8", "unicode-1-1-utf-8", "unicode11utf8", "unicode20utf8", "x-unicode20utf8"]
  | .utf16LowFirst =>
    ["utf-16", "utf-16le", "csunicode", "iso-10646-ucs-2", "ucs-2", "unicode", "unicodefeff"]
  | .utf16HighFirst => ["utf-16be", "unicodefffe"]
  | .windows1250 => ["windows-1250", "cp1250", "x-cp1250"]
  | .windows1252 =>
    ["windows-1252", "cp1252", "x-cp1252", "ascii", "us-ascii", "ansi_x3.4-1968", "latin1", "l1",
      "iso-8859-1", "iso8859-1", "iso88591", "iso_8859-1", "iso_8859-1:1987", "iso-ir-100",
      "csisolatin1", "cp819", "ibm819"]
  | .iso8859Part2 =>
    ["iso-8859-2", "iso8859-2", "iso88592", "iso_8859-2", "iso_8859-2:1987", "iso-ir-101",
      "csisolatin2", "latin2", "l2"]

/-- All encodings. -/
def all : List Charset :=
  [.utf8, .utf16LowFirst, .utf16HighFirst, .windows1250, .windows1252, .iso8859Part2]

/-- The encoding of a label, in which case and outer blanks do not count. -/
def ofLabel? (label : String) : Option Charset :=
  let isSpace (c : Char) : Bool := c == ' ' || ('\t' ≤ c && c ≤ '\r' && c != '\x0b')
  let name := String.ofList ((trimBy isSpace label.toList).map Char.toLower)
  all.find? fun charset => charset.labels.contains name

/-! ## One byte a character -/

/-- The characters of the bytes from 128 on in windows-1250. -/
def table1250 : List Nat := [
    0x20AC, 0x81, 0x201A, 0x83, 0x201E, 0x2026, 0x2020, 0x2021, 0x88, 0x2030, 0x160, 0x2039,
    0x15A, 0x164, 0x17D, 0x179, 0x90, 0x2018, 0x2019, 0x201C, 0x201D, 0x2022, 0x2013, 0x2014,
    0x98, 0x2122, 0x161, 0x203A, 0x15B, 0x165, 0x17E, 0x17A, 0xA0, 0x2C7, 0x2D8, 0x141, 0xA4,
    0x104, 0xA6, 0xA7, 0xA8, 0xA9, 0x15E, 0xAB, 0xAC, 0xAD, 0xAE, 0x17B, 0xB0, 0xB1, 0x2DB,
    0x142, 0xB4, 0xB5, 0xB6, 0xB7, 0xB8, 0x105, 0x15F, 0xBB, 0x13D, 0x2DD, 0x13E, 0x17C,
    0x154, 0xC1, 0xC2, 0x102, 0xC4, 0x139, 0x106, 0xC7, 0x10C, 0xC9, 0x118, 0xCB, 0x11A, 0xCD,
    0xCE, 0x10E, 0x110, 0x143, 0x147, 0xD3, 0xD4, 0x150, 0xD6, 0xD7, 0x158, 0x16E, 0xDA,
    0x170, 0xDC, 0xDD, 0x162, 0xDF, 0x155, 0xE1, 0xE2, 0x103, 0xE4, 0x13A, 0x107, 0xE7, 0x10D,
    0xE9, 0x119, 0xEB, 0x11B, 0xED, 0xEE, 0x10F, 0x111, 0x144, 0x148, 0xF3, 0xF4, 0x151, 0xF6,
    0xF7, 0x159, 0x16F, 0xFA, 0x171, 0xFC, 0xFD, 0x163, 0x2D9]

/-- The characters of the bytes from 128 on in windows-1252. -/
def table1252 : List Nat := [
    0x20AC, 0x81, 0x201A, 0x192, 0x201E, 0x2026, 0x2020, 0x2021, 0x2C6, 0x2030, 0x160, 0x2039,
    0x152, 0x8D, 0x17D, 0x8F, 0x90, 0x2018, 0x2019, 0x201C, 0x201D, 0x2022, 0x2013, 0x2014,
    0x2DC, 0x2122, 0x161, 0x203A, 0x153, 0x9D, 0x17E, 0x178, 0xA0, 0xA1, 0xA2, 0xA3, 0xA4,
    0xA5, 0xA6, 0xA7, 0xA8, 0xA9, 0xAA, 0xAB, 0xAC, 0xAD, 0xAE, 0xAF, 0xB0, 0xB1, 0xB2, 0xB3,
    0xB4, 0xB5, 0xB6, 0xB7, 0xB8, 0xB9, 0xBA, 0xBB, 0xBC, 0xBD, 0xBE, 0xBF, 0xC0, 0xC1, 0xC2,
    0xC3, 0xC4, 0xC5, 0xC6, 0xC7, 0xC8, 0xC9, 0xCA, 0xCB, 0xCC, 0xCD, 0xCE, 0xCF, 0xD0, 0xD1,
    0xD2, 0xD3, 0xD4, 0xD5, 0xD6, 0xD7, 0xD8, 0xD9, 0xDA, 0xDB, 0xDC, 0xDD, 0xDE, 0xDF, 0xE0,
    0xE1, 0xE2, 0xE3, 0xE4, 0xE5, 0xE6, 0xE7, 0xE8, 0xE9, 0xEA, 0xEB, 0xEC, 0xED, 0xEE, 0xEF,
    0xF0, 0xF1, 0xF2, 0xF3, 0xF4, 0xF5, 0xF6, 0xF7, 0xF8, 0xF9, 0xFA, 0xFB, 0xFC, 0xFD, 0xFE,
    0xFF]

/-- The characters of the bytes from 128 on in ISO 8859, part 2. -/
def tableLatin2 : List Nat := [
    0x80, 0x81, 0x82, 0x83, 0x84, 0x85, 0x86, 0x87, 0x88, 0x89, 0x8A, 0x8B, 0x8C, 0x8D, 0x8E,
    0x8F, 0x90, 0x91, 0x92, 0x93, 0x94, 0x95, 0x96, 0x97, 0x98, 0x99, 0x9A, 0x9B, 0x9C, 0x9D,
    0x9E, 0x9F, 0xA0, 0x104, 0x2D8, 0x141, 0xA4, 0x13D, 0x15A, 0xA7, 0xA8, 0x160, 0x15E,
    0x164, 0x179, 0xAD, 0x17D, 0x17B, 0xB0, 0x105, 0x2DB, 0x142, 0xB4, 0x13E, 0x15B, 0x2C7,
    0xB8, 0x161, 0x15F, 0x165, 0x17A, 0x2DD, 0x17E, 0x17C, 0x154, 0xC1, 0xC2, 0x102, 0xC4,
    0x139, 0x106, 0xC7, 0x10C, 0xC9, 0x118, 0xCB, 0x11A, 0xCD, 0xCE, 0x10E, 0x110, 0x143,
    0x147, 0xD3, 0xD4, 0x150, 0xD6, 0xD7, 0x158, 0x16E, 0xDA, 0x170, 0xDC, 0xDD, 0x162, 0xDF,
    0x155, 0xE1, 0xE2, 0x103, 0xE4, 0x13A, 0x107, 0xE7, 0x10D, 0xE9, 0x119, 0xEB, 0x11B, 0xED,
    0xEE, 0x10F, 0x111, 0x144, 0x148, 0xF3, 0xF4, 0x151, 0xF6, 0xF7, 0x159, 0x16F, 0xFA,
    0x171, 0xFC, 0xFD, 0x163, 0x2D9]

/-- The text of bytes that are a character each. -/
def decodeSingle (table : List Nat) (bytes : List UInt8) : List Char :=
  bytes.map fun b =>
    if b.toNat < 128 then Char.ofNat b.toNat
    else Char.ofNat (table.getD (b.toNat - 128) 0xFFFD)

/-! ## Two bytes a unit -/

/-- The units of bytes, `none` for an odd byte at the end. -/
def units (highFirst : Bool) : List UInt8 → List (Option Nat)
  | a :: b :: rest =>
    some (if highFirst then a.toNat * 256 + b.toNat else b.toNat * 256 + a.toNat) ::
      units highFirst rest
  | [_] => [none]
  | [] => []

/-- The first half of a pair of units. -/
def isHighSurrogate (u : Nat) : Bool :=
  0xD800 ≤ u && u < 0xDC00

/-- The second half of a pair of units. -/
def isLowSurrogate (u : Nat) : Bool :=
  0xDC00 ≤ u && u < 0xE000

/-- The text of units, a pair being one character. -/
def ofUnits : List (Option Nat) → List Char
  | [] => []
  | none :: rest => '\uFFFD' :: ofUnits rest
  | some u :: rest =>
    if isHighSurrogate u then
      match rest with
      | some v :: rest' =>
        if isLowSurrogate v then
          Char.ofNat (0x10000 + (u - 0xD800) * 0x400 + (v - 0xDC00)) :: ofUnits rest'
        else '\uFFFD' :: ofUnits (some v :: rest')
      | none :: rest' => '\uFFFD' :: ofUnits rest'
      | [] => ['\uFFFD']
    else if isLowSurrogate u then '\uFFFD' :: ofUnits rest
    else Char.ofNat u :: ofUnits rest

/-! ## Reading -/

/-- The text of bytes in an encoding. -/
def decodeAs : Charset → List UInt8 → List Char
  | .utf8, bytes => Utf8.decodeLossy bytes
  | .utf16LowFirst, bytes => ofUnits (units false bytes)
  | .utf16HighFirst, bytes => ofUnits (units true bytes)
  | .windows1250, bytes => decodeSingle table1250 bytes
  | .windows1252, bytes => decodeSingle table1252 bytes
  | .iso8859Part2, bytes => decodeSingle tableLatin2 bytes

/-- The text of bytes: in the encoding of the byte order mark, if they start with one, and
otherwise in the encoding given. -/
def decode (charset : Charset) : List UInt8 → List Char
  | 0xEF :: 0xBB :: 0xBF :: rest => decodeAs .utf8 rest
  | 0xFF :: 0xFE :: rest => decodeAs .utf16LowFirst rest
  | 0xFE :: 0xFF :: rest => decodeAs .utf16HighFirst rest
  | bytes => decodeAs charset bytes

end Charset

end PriceTracker.Text
