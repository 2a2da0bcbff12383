import ColumnTypes.Text.Printable

/-!
Quoted text. A text stands between double quotes; the quote, the backslash and every character that is
not printable are written as escapes, so that a quoted text has one line and shows what it holds.
-/

namespace ColumnTypes.Text

/-- How a character is written between quotes. -/
def quotedChar (c : Char) : Text :=
  if c = '\x00' then ['\\', '0']
  else if c = '\t' then ['\\', 't']
  else if c = '\n' then ['\\', 'n']
  else if c = '\r' then ['\\', 'r']
  else if c = '"' then ['\\', '"']
  else if c = '\\' then ['\\', '\\']
  else if isPrintable c then [c]
  else ['\\', 'u', '\x7b'] ++ Nat.toDigits 16 c.toNat ++ ['\x7d']

def quoted (text : Text) : Text := '"' :: text.flatMap quotedChar ++ ['"']

end ColumnTypes.Text
