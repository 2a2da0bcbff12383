import ColumnTypes.Binary64

/-!
The single values that settings are given as, and how the text of an environment variable becomes one:
a boolean if it reads as one, else an integer of 64 bits, else a floating-point number, else the text
itself.
-/

namespace ColumnTypes.Settings

inductive Scalar where
  | boolean (value : Bool)
  | integer (value : Int)
  | real (value : Binary64)
  | string (value : Text)
deriving DecidableEq, Repr

def isInt64 (n : Int) : Bool := Int64.minValue.toInt ≤ n && n ≤ Int64.maxValue.toInt

def splitSign : Text → Bool × Text
  | '-' :: rest => (true, rest)
  | '+' :: rest => (false, rest)
  | rest => (false, rest)

/-- Decimal digits after an optional sign, within 64 bits. -/
def integer? (text : Text) : Option Int :=
  let (negative, digits) := splitSign text
  match Text.toNat? digits with
  | none => none
  | some n =>
    let value : Int := if negative then -(n : Int) else n
    if isInt64 value then some value else none

def splitExponent? (text : Text) : Option (Text × Int) :=
  let isMark (c : Char) : Bool := c = 'e' || c = 'E'
  match text.dropWhile fun c => !isMark c with
  | [] => some (text, 0)
  | _ :: exponent =>
    let (negative, digits) := splitSign exponent
    match Text.toNat? digits with
    | none => none
    | some n => some (text.takeWhile fun c => !isMark c, if negative then -(n : Int) else n)

/-- The number written with digits on at least one side of an optional point, and an optional
exponent. -/
def unsignedReal? (negative : Bool) (text : Text) : Option Binary64 :=
  match splitExponent? text with
  | none => none
  | some (mantissa, exponent) =>
    let (whole, fraction) := (Text.splitFirst? '.' mantissa).getD (mantissa, [])
    match Text.toNat? (whole ++ fraction) with
    | none => none
    | some digits => some (.ofDecimal negative digits (exponent - fraction.length))

def real? (text : Text) : Option Binary64 :=
  let (negative, number) := splitSign text
  if Text.sameIgnoringCase number "inf" || Text.sameIgnoringCase number "infinity" then
    some (.infinite negative)
  else if Text.sameIgnoringCase number "nan" then some .nan
  else unsignedReal? negative number

/-- The value that the text of an environment variable stands for. -/
def Scalar.ofText (text : Text) : Scalar :=
  if Text.sameIgnoringCase text "true" then .boolean true
  else if Text.sameIgnoringCase text "false" then .boolean false
  else
    match integer? text with
    | some n => .integer n
    | none =>
      match real? text with
      | some x => .real x
      | none => .string text

end ColumnTypes.Settings
