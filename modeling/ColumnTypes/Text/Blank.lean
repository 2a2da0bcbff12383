import ColumnTypes.Text.Basic

/-!
Blank characters are those of the Unicode property White_Space: the ASCII controls from tab to
carriage return, the space, and the separators beyond ASCII. The zero-width space, the byte order
mark and the information separators U+001C to U+001F are not blank.
-/

namespace ColumnTypes.Text

/-- Whether a character has the Unicode property White_Space. -/
def isBlank (c : Char) : Bool :=
  let n := c.toNat
  (0x09 ≤ n && n ≤ 0x0D) || n == 0x20 || n == 0x85 || n == 0xA0 || n == 0x1680 ||
    (0x2000 ≤ n && n ≤ 0x200A) || n == 0x2028 || n == 0x2029 || n == 0x202F || n == 0x205F ||
    n == 0x3000

def withoutBlanks (text : Text) : Text := text.filter fun c => !isBlank c

def trimStart (text : Text) : Text := text.dropWhile isBlank

def trimEnd (text : Text) : Text := (text.reverse.dropWhile isBlank).reverse

def trim (text : Text) : Text := trimEnd (trimStart text)

end ColumnTypes.Text
