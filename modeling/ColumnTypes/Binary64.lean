import ColumnTypes.Text.Basic

/-!
Binary floating-point numbers of 64 bits, as exact integers. A decimal number is rounded to the nearest
of them, a tie to the even mantissa. A number is written with the fewest digits that read back as it,
in positional notation.
-/

namespace ColumnTypes

/-- A finite number is its mantissa times two to its exponent. The mantissa is below two to the 53, and
at least two to the 52 unless the exponent is the smallest. -/
inductive Binary64 where
  | finite (negative : Bool) (mantissa : Nat) (exponent : Int)
  | infinite (negative : Bool)
  | nan
deriving DecidableEq, Repr

namespace Binary64

def leastMantissa : Nat := 4503599627370496

def minExponent : Int := -1074

def maxExponent : Int := 971

structure Ratio where
  num : Nat
  den : Nat

def Ratio.scale (r : Ratio) (base : Nat) (exponent : Int) : Ratio :=
  match exponent with
  | .ofNat n => ⟨r.num * base.pow n, r.den⟩
  | .negSucc n => ⟨r.num, r.den * base.pow (n + 1)⟩

def Ratio.floor (r : Ratio) : Nat := r.num / r.den

/-- The nearest natural number, of two equally near the even one. -/
def Ratio.round (r : Ratio) : Nat :=
  let q := r.num / r.den
  let twice := 2 * (r.num % r.den)
  if twice < r.den then q
  else if r.den < twice then q + 1
  else if q % 2 = 0 then q else q + 1

def Ratio.floorLog2 (r : Ratio) : Int :=
  let e : Int := r.num.log2 - r.den.log2
  let scaled := r.scale 2 (-e)
  if scaled.num < scaled.den then e - 1 else e

def ofRatio (negative : Bool) (r : Ratio) : Binary64 :=
  let exponent := max (r.floorLog2 - 52) minExponent
  let mantissa := (r.scale 2 (-exponent)).round
  let (mantissa, exponent) :=
    if mantissa = 2 * leastMantissa then (leastMantissa, exponent + 1) else (mantissa, exponent)
  if exponent > maxExponent then infinite negative else finite negative mantissa exponent

def zero (negative : Bool) : Binary64 := finite negative 0 minExponent

/-- The nearest number to a decimal one. Exponents out of all reach are not computed with. -/
def ofDecimal (negative : Bool) (digits : Nat) (exponent : Int) : Binary64 :=
  let magnitude : Int := (Text.ofNat digits).length + exponent
  if digits = 0 || magnitude < -400 then zero negative
  else if magnitude > 400 then infinite negative
  else ofRatio negative (Ratio.scale ⟨digits, 1⟩ 10 exponent)

def isZero : Binary64 → Bool
  | finite _ mantissa _ => mantissa = 0
  | _ => false

/-- The place of the first digit of a positive ratio: zero for ones, one for tens. -/
def Ratio.leadingPlace (r : Ratio) : Int :=
  let whole := r.floor
  if whole ≠ 0 then (Text.ofNat whole).length - 1
  else -((List.range 400).findIdx fun n => r.den ≤ r.num * Nat.pow 10 (n + 1)) - 1

/-- The decimal of `count` digits that is nearest to the ratio among those that read back as `value`. -/
def digitsOf? (value : Binary64) (r : Ratio) (count : Nat) : Option (Nat × Int) :=
  let place := r.leadingPlace - count + 1
  let scaled := r.scale 10 (-place)
  let below := scaled.floor
  let above := below + 1
  let readsBack (digits : Nat) : Bool := ofDecimal false digits place = value
  match readsBack below, readsBack above with
  | true, true =>
    some (if 2 * scaled.num ≤ (below + above) * scaled.den then below else above, place)
  | true, false => some (below, place)
  | false, true => some (above, place)
  | false, false => none

/-- The shortest decimal that reads back, as digits and an exponent of ten. -/
def shortest (mantissa : Nat) (exponent : Int) : Nat × Int :=
  let value := finite false mantissa exponent
  let ratio := Ratio.scale ⟨mantissa, 1⟩ 2 exponent
  ((List.range 17).findSome? fun n => digitsOf? value ratio (n + 1)).getD (mantissa, 0)

/-- A decimal in positional notation, with at least one digit on both sides of the point. -/
def positional (digits : Nat) (exponent : Int) : Text :=
  let text := Text.ofNat digits
  match exponent with
  | .ofNat n => text ++ List.replicate n '0' ++ ".0"
  | .negSucc n =>
    let places := n + 1
    let text := List.replicate (places + 1 - text.length) '0' ++ text
    text.take (text.length - places) ++ "." ++ text.drop (text.length - places)

def spelling : Binary64 → Text
  | nan => "NaN"
  | infinite negative => if negative then "-inf" else "inf"
  | finite negative mantissa exponent =>
    let (digits, place) := if mantissa = 0 then (0, 0) else shortest mantissa exponent
    (if negative then ['-'] else []) ++ positional digits place

end Binary64

end ColumnTypes
