import PriceTracker.Number.Decimal
import PriceTracker.Text.Blank

/-!
# Price labels

Reads the amount off a label of a listing page, such as `1 234,50 Kč`, `1.099 €` or `1 290,- Kč`.

Only ASCII digits, commas and dots count. Separators at the end are dropped. The last separator
left is the decimal point exactly when one or two digits follow it; all others group thousands.
-/

namespace PriceTracker

/-- Why a label that is not blank gives no amount. -/
inductive LabelError where
  /-- The label holds no digit. -/
  | noDigits (text : String)
  /-- The digits of the label do not spell an amount. -/
  | unreadable (text : String)
  deriving DecidableEq, Repr

/-- The wording of the error. -/
def LabelError.message : LabelError → String
  | .noDigits text => s!"no digits in price text '{text}'"
  | .unreadable text => s!"unreadable price text '{text}'"

namespace Price

/-- A comma or a dot. -/
def isSeparator (c : Char) : Bool :=
  c == ',' || c == '.'

/-- The digits and separators of a label, without the separators at its end. -/
def significant (label : List Char) : List Char :=
  ((label.filter fun c => c.isDigit || isSeparator c).reverse.dropWhile isSeparator).reverse

/-- The digits before and after the decimal point; without one, all characters stand before it. -/
def splitPoint (cs : List Char) : List Char × List Char :=
  let tail := (cs.reverse.takeWhile (!isSeparator ·)).reverse
  match cs.reverse.dropWhile (!isSeparator ·) with
  | [] => (cs, [])
  | _ :: before => if tail.length = 1 ∨ tail.length = 2 then (before.reverse, tail) else (cs, [])

/-- The plain spelling of the amount: digits, and a point and digits if there is a fraction. -/
def plainSpelling (cs : List Char) : List Char :=
  let (before, fraction) := splitPoint cs
  let whole := before.filter Char.isDigit
  match whole, fraction with
  | [], _ => '0' :: '.' :: fraction
  | _, [] => whole
  | _, _ => whole ++ '.' :: fraction

/-- The amount on a label; a blank label has none. -/
def ofLabel (label : String) : Except LabelError (Option Float) :=
  let text := Text.trimBy Text.isBlank label.toList
  if text.isEmpty then .ok none
  else
    let cs := significant text
    if !cs.any Char.isDigit then .error (.noDigits (String.ofList text))
    else
      match Decimal.read? (plainSpelling cs) with
      | some d => .ok (some d.toFloat)
      | none => .error (.unreadable (String.ofList text))

end Price

end PriceTracker
