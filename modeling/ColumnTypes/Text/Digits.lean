import ColumnTypes.Text.Basic

/-! Digits of written numbers. -/

namespace ColumnTypes.Text

def hexDigit? (c : Char) : Option Nat :=
  if c.isDigit then some (c.toNat - '0'.toNat)
  else if 'a' ≤ c && c ≤ 'f' then some (c.toNat - 'a'.toNat + 10)
  else if 'A' ≤ c && c ≤ 'F' then some (c.toNat - 'A'.toNat + 10)
  else none

def isDigits (text : Text) : Bool := !text.isEmpty && text.all Char.isDigit

/-- Whether a text is a run of decimal digits without a zero before others. -/
def isWholePart : Text → Bool
  | [] => false
  | ['0'] => true
  | c :: rest => c ≠ '0' && (c :: rest).all Char.isDigit

end ColumnTypes.Text
