import ColumnTypes.Json.Basic

/-!
The two spellings of a JSON value. The compact one has no blanks; the pretty one puts every item and
every member on a line of its own, indented by two spaces a level, and keeps empty lists and objects on
one line. In strings the quote, the backslash and the characters below U+0020 are escaped, nothing
else.
-/

namespace ColumnTypes.Json

def hex4 (n : Nat) : Text :=
  let digits := Nat.toDigits 16 n
  List.replicate (4 - digits.length) '0' ++ digits

def escape (c : Char) : Text :=
  if c = '"' then ['\\', '"']
  else if c = '\\' then ['\\', '\\']
  else if c = '\x08' then ['\\', 'b']
  else if c = '\x0c' then ['\\', 'f']
  else if c = '\n' then ['\\', 'n']
  else if c = '\r' then ['\\', 'r']
  else if c = '\t' then ['\\', 't']
  else if c.toNat < 0x20 then '\\' :: 'u' :: hex4 c.toNat
  else [c]

def quote (text : Text) : Text := '"' :: text.flatMap escape ++ ['"']

/-- The spelling of a value that holds no others. -/
def word : Json → Text
  | null => "null"
  | boolean true => "true"
  | boolean false => "false"
  | integer n => Text.ofInt n
  | real spelling => spelling
  | string text => quote text
  | array _ => "[]"
  | object _ => "\x7b\x7d"

mutual

def compact : Json → Text
  | array items => '[' :: Text.join "," (compactItems items) ++ [']']
  | object members => '\x7b' :: Text.join "," (compactMembers members) ++ ['\x7d']
  | value => value.word

def compactItems : List Json → List Text
  | [] => []
  | value :: rest => value.compact :: compactItems rest

def compactMembers : List (Text × Json) → List Text
  | [] => []
  | (key, value) :: rest => (quote key ++ ":" ++ value.compact) :: compactMembers rest

end

def newline (level : Nat) : Text := '\n' :: List.replicate (2 * level) ' '

/-- Parts on lines of their own, one level further in than the brackets. -/
def block (first last : Char) (level : Nat) (parts : List Text) : Text :=
  first :: newline (level + 1) ++ Text.join (',' :: newline (level + 1)) parts ++ newline level ++ [last]

mutual

/-- The pretty spelling of a value whose first line is already indented. -/
def prettyAt (level : Nat) : Json → Text
  | array (item :: rest) => block '[' ']' level (prettyItems (level + 1) (item :: rest))
  | object (member :: rest) => block '\x7b' '\x7d' level (prettyMembers (level + 1) (member :: rest))
  | value => value.word

def prettyItems (level : Nat) : List Json → List Text
  | [] => []
  | value :: rest => prettyAt level value :: prettyItems level rest

def prettyMembers (level : Nat) : List (Text × Json) → List Text
  | [] => []
  | (key, value) :: rest => (quote key ++ ": " ++ prettyAt level value) :: prettyMembers level rest

end

def pretty (value : Json) : Text := prettyAt 0 value

end ColumnTypes.Json
