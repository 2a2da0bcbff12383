import ColumnTypes.Settings.Path
import ColumnTypes.Text.Digits

/-!
The parts of a TOML document that have no parts: strings, keys, numbers and dates. Most readers here give
what stands at the beginning of a text, and the text after it.
-/

namespace ColumnTypes.Settings.Toml

def isShown (c : Char) : Bool := c = '\t' || (0x20 ≤ c.toNat && c.toNat ≠ 0x7F)

/-! ## Strings -/

def unicodeEscape? (digits : Text) : Option Char := do
  let n ← digits.foldlM (fun n c => (Text.hexDigit? c).map (16 * n + ·)) 0
  if n < 0xD800 || (0xE000 ≤ n && n < 0x110000) then some (Char.ofNat n) else none

def letterEscapes : List (Char × Char) :=
  [('"', '"'), ('\\', '\\'), ('b', '\x08'), ('f', '\x0c'), ('n', '\n'), ('r', '\r'), ('t', '\t')]

def escape? : Text → Option (Char × Text)
  | 'u' :: a :: b :: c :: d :: rest => (unicodeEscape? [a, b, c, d]).map (·, rest)
  | 'U' :: a :: b :: c :: d :: e :: f :: g :: h :: rest =>
    (unicodeEscape? [a, b, c, d, e, f, g, h]).map (·, rest)
  | c :: rest => (letterEscapes.lookup c).map (·, rest)
  | [] => none

/-- The text after a line end, and after the line ends and spaces that follow it. -/
def continued? (text : Text) : Option Text :=
  match skipSpaces text with
  | '\n' :: rest => some (rest.dropWhile fun c => isSpace c || c = '\n')
  | _ => none

/-- What stands after the closing quotes, which over several lines are three. One or two more before
them belong to the string. -/
def closing? (mark : Char) (multiline : Bool) (text : Text) : Option (Text × Text) :=
  let marks := (text.take 5).takeWhile (· = mark)
  if multiline then
    if 3 ≤ marks.length then some (marks.drop 3, text.drop marks.length) else none
  else if marks.isEmpty then none
  else some ([], text.drop 1)

/-- The rest of a string. Between double quotes a backslash begins an escape or, at the end of a line,
takes it away. The number bounds the characters. -/
def contents? (mark : Char) (multiline : Bool) : Nat → Text → Option (Text × Text)
  | 0, _ => none
  | n + 1, text =>
    match closing? mark multiline text, text with
    | some closed, _ => some closed
    | none, [] => none
    | none, c :: rest =>
      if c = '\\' && mark = '"' then
        match escape? rest with
        | some (c, rest) => (contents? mark multiline n rest).map fun (value, rest) => (c :: value, rest)
        | none => if multiline then (continued? rest).bind (contents? mark multiline n) else none
      else if isShown c || (multiline && c = '\n') then
        (contents? mark multiline n rest).map fun (value, rest) => (c :: value, rest)
      else none

def isMark (c : Char) : Bool := c = '"' || c = '\x27'

def lineString? (mark : Char) (rest : Text) : Option (Text × Text) :=
  contents? mark false (rest.length + 1) rest

def string? (mark : Char) (rest : Text) : Option (Text × Text) :=
  if rest.take 2 = [mark, mark] then
    let inner := rest.drop 2
    contents? mark true (inner.length + 1) ((Text.dropStart? ['\n'] inner).getD inner)
  else lineString? mark rest

/-! ## Keys -/

def isBareKeyChar (c : Char) : Bool := c.isAlphanum || c = '_' || c = '-'

def keyPart? (text : Text) : Option (Text × Text) :=
  match text with
  | [] => none
  | c :: rest =>
    if isMark c then lineString? c rest
    else
      match text.takeWhile isBareKeyChar with
      | [] => none
      | part => some (part, text.dropWhile isBareKeyChar)

/-- The parts of a dotted key, with spaces around them. The number bounds the parts. -/
def keyParts? : Nat → Text → Option (List Text × Text)
  | 0, _ => none
  | n + 1, text =>
    match keyPart? (skipSpaces text) with
    | none => none
    | some (part, rest) =>
      match skipSpaces rest with
      | '.' :: rest => (keyParts? n rest).map fun (parts, rest) => (part :: parts, rest)
      | rest => some ([part], rest)

def key? (text : Text) : Option (List Text × Text) := keyParts? (text.length + 1) text

/-! ## Numbers -/

/-- Digits in which single underscores may stand between two digits, without the underscores. -/
def plainDigits? (isDigit : Char → Bool) : Text → Option Text
  | [] => none
  | [c] => if isDigit c then some [c] else none
  | c :: '_' :: rest => if isDigit c then (plainDigits? isDigit rest).map (c :: ·) else none
  | c :: rest => if isDigit c then (plainDigits? isDigit rest).map (c :: ·) else none

def digitsBelow (base : Nat) (c : Char) : Bool :=
  match Text.hexDigit? c with
  | none => false
  | some n => n < base

def natInBase (base : Nat) (digits : Text) : Nat :=
  digits.foldl (fun n c => base * n + (Text.hexDigit? c).getD 0) 0

/-- A whole number in decimal digits, no zero before others. -/
def whole? (text : Text) : Option Text :=
  match plainDigits? Char.isDigit text with
  | some digits => if Text.isWholePart digits then some digits else none
  | none => none

def unsigned? (text : Text) : Option Nat :=
  match text with
  | '0' :: 'x' :: rest => (plainDigits? (digitsBelow 16) rest).map (natInBase 16)
  | '0' :: 'o' :: rest => (plainDigits? (digitsBelow 8) rest).map (natInBase 8)
  | '0' :: 'b' :: rest => (plainDigits? (digitsBelow 2) rest).map (natInBase 2)
  | _ => (whole? text).map Text.natOfDigits

def integer? (text : Text) : Option Int :=
  match text with
  | '-' :: rest => (whole? rest).map fun digits => -(Text.natOfDigits digits : Int)
  | '+' :: rest => (whole? rest).map fun digits => Text.natOfDigits digits
  | _ => (unsigned? text).map Int.ofNat

def exponent? (text : Text) : Option Int :=
  let (negative, digits) := splitSign text
  (plainDigits? Char.isDigit digits).map fun digits =>
    if negative then -(Text.natOfDigits digits : Int) else Text.natOfDigits digits

def unsignedReal? (negative : Bool) (text : Text) : Option Binary64 :=
  let isMark (c : Char) : Bool := c = 'e' || c = 'E'
  let mantissa := text.takeWhile fun c => !isMark c
  let exponent :=
    match text.dropWhile fun c => !isMark c with
    | [] => some 0
    | _ :: digits => exponent? digits
  match Text.splitFirst? '.' mantissa, exponent with
  | _, none => none
  | none, some exponent =>
    (whole? mantissa).map fun digits => .ofDecimal negative (Text.natOfDigits digits) exponent
  | some (whole, fraction), some exponent =>
    match whole? whole, plainDigits? Char.isDigit fraction with
    | some whole, some fraction =>
      some (.ofDecimal negative (Text.natOfDigits (whole ++ fraction)) (exponent - fraction.length))
    | _, _ => none

def real? (text : Text) : Option Binary64 :=
  let (negative, number) := splitSign text
  if number = "inf" then some (.infinite negative)
  else if number = "nan" then some .nan
  else unsignedReal? negative number

/-! ## Dates -/

/-- Whether a text is a number of so many digits within bounds. -/
def isField (length least most : Nat) (text : Text) : Bool :=
  text.length = length && Text.isDigits text && least ≤ Text.natOfDigits text &&
    Text.natOfDigits text ≤ most

def isDate (text : Text) : Bool :=
  match text.splitOn '-' with
  | [year, month, day] => isField 4 0 9999 year && isField 2 1 12 month && isField 2 1 31 day
  | _ => false

/-- A fraction to nine digits without zeros at its end. -/
def fraction? (digits : Text) : Option Text :=
  if Text.isDigits digits then
    match ((digits.take 9).reverse.dropWhile (· = '0')).reverse with
    | [] => some []
    | digits => some ('.' :: digits)
  else none

def time? (text : Text) : Option Text :=
  let (whole, fraction) :=
    match Text.splitFirst? '.' text with
    | none => (text, some [])
    | some (whole, digits) => (whole, fraction? digits)
  match whole.splitOn ':' with
  | [hour, minute, second] =>
    if isField 2 0 24 hour && isField 2 0 59 minute && isField 2 0 59 second then
      fraction.map (whole ++ ·)
    else none
  | _ => none

def offset? : Text → Option Text
  | [] => some []
  | ['Z'] | ['z'] => some ['Z']
  | sign :: rest =>
    match rest.splitOn ':' with
    | [hour, minute] =>
      if (sign = '+' || sign = '-') && isField 2 0 99 hour && isField 2 0 99 minute then some (sign :: rest)
      else none
    | _ => none

def isTimeChar (c : Char) : Bool := c.isDigit || c = ':' || c = '.'

def dateTime? (text : Text) : Option Text :=
  let date := text.take 10
  if isDate date then
    match text.drop 10 with
    | [] => some date
    | mark :: rest =>
      if mark = 'T' || mark = 't' || mark = ' ' then
        match time? (rest.takeWhile isTimeChar), offset? (rest.dropWhile isTimeChar) with
        | some time, some offset => some (date ++ 'T' :: time ++ offset)
        | _, _ => none
      else none
  else time? text

/-! ## Values without quotes -/

def isBareChar (c : Char) : Bool := isBareKeyChar c || c = '+' || c = '.' || c = ':'

/-- The characters of a value without quotes. A space may stand between a date and a time. -/
def splitBare (text : Text) : Text × Text :=
  let bare := text.takeWhile isBareChar
  match text.dropWhile isBareChar with
  | ' ' :: c :: rest =>
    if isDate bare && c.isDigit then
      (bare ++ ' ' :: (c :: rest).takeWhile isBareChar, (c :: rest).dropWhile isBareChar)
    else (bare, ' ' :: c :: rest)
  | rest => (bare, rest)

/-- A value without quotes. A date is given as its text. -/
def scalar? (text : Text) : Option Scalar :=
  if text = "true" then some (.boolean true)
  else if text = "false" then some (.boolean false)
  else
    match integer? text with
    | some n => if isInt64 n then some (.integer n) else none
    | none => ((real? text).map .real).or ((dateTime? text).map .string)

end ColumnTypes.Settings.Toml
