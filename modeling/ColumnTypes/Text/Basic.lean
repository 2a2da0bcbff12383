/-!
Text is a list of characters, so that every rule about it is an induction on a list. A string
literal stands for its characters. Numbers are written and read in decimal digits.
-/

namespace ColumnTypes

abbrev Text := List Char

instance : Coe String Text := ⟨String.toList⟩

namespace Text

/-- Decimal digits without leading zeros. -/
def ofNat (n : Nat) : Text := Nat.toDigits 10 n

def ofInt : Int → Text
  | .ofNat n => ofNat n
  | .negSucc n => '-' :: ofNat (n + 1)

/-- The value of a run of decimal digits, leading zeros allowed. -/
def natOfDigits (digits : Text) : Nat := Nat.ofDigitChars 10 digits 0

/-- The number that a non-empty run of ASCII digits denotes. -/
def toNat? (text : Text) : Option Nat :=
  if text.isEmpty || !text.all Char.isDigit then none else some (natOfDigits text)

def join (separator : Text) (parts : List Text) : Text := separator.intercalate parts

def dropStart? (start text : Text) : Option Text :=
  if start.isPrefixOf text then some (text.drop start.length) else none

def dropLast? (last : Char) (text : Text) : Option Text :=
  if text.getLast? = some last then some text.dropLast else none

/-- The text up to the first `separator` and the text after it. -/
def splitFirst? (separator : Char) (text : Text) : Option (Text × Text) :=
  match text.dropWhile (· ≠ separator) with
  | [] => none
  | _ :: after => some (text.takeWhile (· ≠ separator), after)

/-- Whether both texts agree once ASCII letters are in lower case. -/
def sameIgnoringCase (a b : Text) : Bool := a.map Char.toLower == b.map Char.toLower

def counted (n : Nat) (noun : Text) : Text :=
  if n = 1 then "1 " ++ noun else ofNat n ++ " " ++ noun ++ "s"

theorem length_dropLast?_lt {last : Char} {text rest : Text} (h : dropLast? last text = some rest) :
    rest.length < text.length := by
  unfold dropLast? at h
  split at h <;> simp_all
  subst h
  cases text <;> simp_all

end Text

end ColumnTypes
