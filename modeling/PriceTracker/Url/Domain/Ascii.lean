import PriceTracker.Text.Normalization
import PriceTracker.Url.Domain.Classes
import PriceTracker.Url.Domain.Mapping
import PriceTracker.Url.Domain.Punycode

/-!
# The ASCII form of a domain name

`Domain.toAscii?` maps and normalizes a domain name by Unicode Technical Standard 46, checks its
labels, and writes labels beyond ASCII in Punycode. It has no result for an invalid name.
Hyphens may stand anywhere, lengths are not limited, and labels may be empty.
-/

namespace PriceTracker.Url.Domain

open Text

/-- ASCII characters that no domain name may hold. -/
def isForbidden (c : Char) : Bool :=
  c.toNat ≤ 0x20 || c.toNat == 0x7F || "%#/:<>?@[\\]^|".toList.contains c

/-! ## Rules for labels -/

/-- A mark that binds the letter before it, which lets a joiner follow. -/
def isVirama (c : Char) : Bool :=
  Normalization.combiningClass c == 9

/-- The zero width non-joiner. -/
def nonJoiner : Char := '\u200C'

/-- The zero width joiner. -/
def joiner : Char := '\u200D'

/-- The joining type of the next character that is not transparent. -/
def nextJoining (cs : List Char) : JoiningType :=
  match (cs.map joiningType).find? (· != .transparent) with
  | some t => t
  | none => .none

/-- Every joiner stands behind a virama, or, for the non-joiner, between letters that would join.
`reversed` holds the characters before, the nearest first. -/
def joinersFit (reversed : List Char) : List Char → Bool
  | [] => true
  | c :: cs =>
    let afterVirama := (reversed.head?.map isVirama).getD false
    let fits :=
      if c == joiner then afterVirama
      else if c == nonJoiner then
        afterVirama ||
          ([JoiningType.left, .dual].contains (nextJoining reversed) &&
            [JoiningType.right, .dual].contains (nextJoining cs))
      else true
    fits && joinersFit (c :: reversed) cs

/-- A character that makes its name a right-to-left name. -/
def isRightToLeft (c : Char) : Bool :=
  [BidiClass.rightToLeft, .arabicLetter, .arabicNumber].contains (bidiClass c)

/-- The direction rule for the labels of a right-to-left name (RFC 5893). -/
def directionFits (label : List Char) : Bool :=
  let classes := label.map bidiClass
  let last := classes.reverse.find? (· != .nonspacingMark)
  let shared : List BidiClass :=
    [.europeanNumber, .europeanSeparator, .commonSeparator, .europeanTerminator, .otherNeutral,
      .boundaryNeutral, .nonspacingMark]
  match classes.head? with
  | none => true
  | some .leftToRight =>
    classes.all (fun k => k == .leftToRight || shared.contains k) &&
      (last == some .leftToRight || last == some .europeanNumber)
  | some .rightToLeft | some .arabicLetter =>
    classes.all (fun k => [BidiClass.rightToLeft, .arabicLetter, .arabicNumber].contains k ||
        shared.contains k) &&
      [some BidiClass.rightToLeft, some .arabicLetter, some .europeanNumber,
        some .arabicNumber].contains last &&
      !(classes.contains .europeanNumber && classes.contains .arabicNumber)
  | some _ => false

/-- The letters that mark a label as Punycode. -/
def punycodeMark : List Char := "xn--".toList

/-- The rules for a label beyond ASCII. -/
def isValidLabel (label : List Char) : Bool :=
  Normalization.compose label == label &&
    !((label.head?.map marks.contains).getD false) &&
    label.all (fun c => isStable c && c != '.') &&
    !punycodeMark.isPrefixOf label && joinersFit [] label

/-! ## The name -/

/-- The label that stands for a mapped label: the one its Punycode spells, or itself. -/
def unicodeLabel? (label : List Char) : Option (List Char) :=
  if punycodeMark.isPrefixOf label then
    match Punycode.decode? (label.drop 4) with
    | some decoded =>
      if decoded.all (·.toNat < 0x80) || !isValidLabel decoded then none else some decoded
    | none => none
  else if label.all (·.toNat < 0x80) then some label
  else if isValidLabel label then some label
  else none

/-- The spelling of a label in ASCII. -/
def asciiLabel (label : List Char) : List Char :=
  if label.all (·.toNat < 0x80) then label else punycodeMark ++ Punycode.encode label

/-- The ASCII form of a domain name, if the name is valid. -/
def toAscii? (name : List Char) : Option (List Char) := do
  let mapped ← name.mapM mapChar
  let normal := Normalization.compose mapped.flatten
  if normal.any (fun c => c.toNat < 0x80 && isForbidden c) then none
  let labels ← (normal.splitOn '.').mapM unicodeLabel?
  if labels.any (·.any isRightToLeft) && !labels.all directionFits then none
  return ['.'].intercalate (labels.map asciiLabel)

end PriceTracker.Url.Domain
