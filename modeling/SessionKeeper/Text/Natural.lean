/-!
# Natural numbers in text

A natural number is written in decimal digits, as many as one likes, and a plus sign may stand in
front of them.
-/

namespace SessionKeeper.Text

/-- The value of a decimal digit. -/
def digitValue (c : Char) : Nat := c.toNat - 48

/-- The digits of a text without the plus sign. -/
def unsigned : List Char → List Char
  | '+' :: digits => digits
  | digits => digits

/-- The natural number that a text writes. -/
def natural? (s : String) : Option Nat :=
  let digits := unsigned s.toList
  if digits.isEmpty ∨ !digits.all Char.isDigit then none
  else some (digits.foldl (fun n c => 10 * n + digitValue c) 0)

end SessionKeeper.Text
