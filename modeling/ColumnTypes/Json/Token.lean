import ColumnTypes.Json.Basic
import ColumnTypes.Text.Digits

/-!
The tokens of a JSON text: brackets, braces, separators, the three words, numbers and strings. Blanks
between tokens are the four of JSON, which are fewer than those of Unicode. Each token takes at least
one character, so the scan ends.
-/

namespace ColumnTypes.Json

inductive Token where
  | leftBracket
  | rightBracket
  | leftBrace
  | rightBrace
  | comma
  | colon
  | null
  | boolean (value : Bool)
  | integer (value : Int)
  | real (spelling : Text)
  | string (value : Text)
deriving DecidableEq, Repr

namespace Token

def isBlank (c : Char) : Bool := c = ' ' || c = '\n' || c = '\r' || c = '\t'

def hexUnit? (a b c d : Char) : Option Nat := do
  let a ← Text.hexDigit? a
  let b ← Text.hexDigit? b
  let c ← Text.hexDigit? c
  let d ← Text.hexDigit? d
  return ((a * 16 + b) * 16 + c) * 16 + d

def letterEscape? (c : Char) : Option Char :=
  if c = '"' then some '"'
  else if c = '\\' then some '\\'
  else if c = '/' then some '/'
  else if c = 'b' then some '\x08'
  else if c = 'f' then some '\x0c'
  else if c = 'n' then some '\n'
  else if c = 'r' then some '\r'
  else if c = 't' then some '\t'
  else none

def surrogatePair? (high low : Nat) : Option Char :=
  if 0xD800 ≤ high && high < 0xDC00 && 0xDC00 ≤ low && low < 0xE000 then
    some (Char.ofNat (0x10000 + (high - 0xD800) * 0x400 + (low - 0xDC00)))
  else none

/-- The contents of a string after its opening quote, and the text after its closing quote. A unit that
is half a surrogate pair needs its other half. -/
def string? : Text → Option (Text × Text)
  | [] => none
  | '"' :: rest => some ([], rest)
  | '\\' :: 'u' :: a :: b :: c :: d :: rest =>
    match hexUnit? a b c d with
    | none => none
    | some unit =>
      if unit < 0xD800 || 0xE000 ≤ unit then
        (string? rest).map fun (value, rest) => (Char.ofNat unit :: value, rest)
      else
        match rest with
        | '\\' :: 'u' :: a :: b :: c :: d :: rest =>
          match (hexUnit? a b c d).bind (surrogatePair? unit) with
          | none => none
          | some char => (string? rest).map fun (value, rest) => (char :: value, rest)
        | _ => none
  | '\\' :: c :: rest =>
    match letterEscape? c with
    | none => none
    | some char => (string? rest).map fun (value, rest) => (char :: value, rest)
  | c :: rest =>
    if c.toNat < 0x20 || c = '\\' then none
    else (string? rest).map fun (value, rest) => (c :: value, rest)

def isNumeric (c : Char) : Bool := c.isDigit || c = '-' || c = '+' || c = '.' || c = 'e' || c = 'E'

/-- Nothing, or an exponent mark with an optional sign and digits. -/
def isExponentPart : Text → Bool
  | [] => true
  | mark :: '+' :: digits => (mark = 'e' || mark = 'E') && Text.isDigits digits
  | mark :: '-' :: digits => (mark = 'e' || mark = 'E') && Text.isDigits digits
  | mark :: digits => (mark = 'e' || mark = 'E') && Text.isDigits digits

/-- A number with a fraction or an exponent, after its sign. -/
def isReal (text : Text) : Bool :=
  Text.isWholePart (text.takeWhile Char.isDigit) &&
    match text.dropWhile Char.isDigit with
    | '.' :: fraction =>
      Text.isDigits (fraction.takeWhile Char.isDigit) && isExponentPart (fraction.dropWhile Char.isDigit)
    | exponent => isExponentPart exponent

/-- The token of a run of numeric characters. Minus zero is no integer. -/
def number? (text : Text) : Option Token :=
  match text with
  | '-' :: digits =>
    if Text.isWholePart digits && digits ≠ ['0'] then some (integer (-Text.natOfDigits digits))
    else if isReal digits then some (real text)
    else none
  | digits =>
    if Text.isWholePart digits then some (integer (Text.natOfDigits digits))
    else if isReal digits then some (real text)
    else none

/-- The first token of a text that does not begin with a blank, and the text after it. -/
def next? (text : Text) : Option (Token × Text) :=
  match text with
  | '[' :: rest => some (leftBracket, rest)
  | ']' :: rest => some (rightBracket, rest)
  | '\x7b' :: rest => some (leftBrace, rest)
  | '\x7d' :: rest => some (rightBrace, rest)
  | ',' :: rest => some (comma, rest)
  | ':' :: rest => some (colon, rest)
  | '"' :: rest => (string? rest).map fun (value, rest) => (string value, rest)
  | 'n' :: 'u' :: 'l' :: 'l' :: rest => some (null, rest)
  | 't' :: 'r' :: 'u' :: 'e' :: rest => some (boolean true, rest)
  | 'f' :: 'a' :: 'l' :: 's' :: 'e' :: rest => some (boolean false, rest)
  | _ => (number? (text.takeWhile isNumeric)).map (·, text.dropWhile isNumeric)

theorem length_string?_lt {text value rest : Text} (h : string? text = some (value, rest)) :
    rest.length < text.length := by
  fun_induction string? text generalizing value rest with
  | case1 => cases h
  | case2 r => cases h; simp
  | _ => simp_all <;> grind

theorem length_next?_lt {text rest : Text} {token : Token} (h : next? text = some (token, rest)) :
    rest.length < text.length := by
  unfold next? at h
  split at h
  case h_7 rest' =>
    obtain ⟨⟨value, r⟩, hs, he⟩ := Option.map_eq_some_iff.1 h
    cases he
    exact Nat.lt_succ_of_lt (length_string?_lt hs)
  case h_11 =>
    obtain ⟨t, hn, he⟩ := Option.map_eq_some_iff.1 h
    cases he
    have hne : text.takeWhile isNumeric ≠ [] := by
      intro hnil
      rw [hnil] at hn
      cases hn
    have hpos := List.length_pos_iff.2 hne
    have hlen : (text.takeWhile isNumeric ++ text.dropWhile isNumeric).length = text.length := by
      rw [List.takeWhile_append_dropWhile]
    rw [List.length_append] at hlen
    omega
  all_goals
    cases h
    grind

def all? (text : Text) : Option (List Token) :=
  match _hs : text.dropWhile isBlank with
  | [] => some []
  | c :: more =>
    match _hn : next? (c :: more) with
    | none => none
    | some (token, rest) => (all? rest).map (token :: ·)
termination_by text.length
decreasing_by
  have := length_next?_lt ‹next? (c :: more) = _›
  have := (List.dropWhile_suffix isBlank (l := text)).length_le
  rw [‹List.dropWhile isBlank text = _›] at this
  omega

end Token

end ColumnTypes.Json
