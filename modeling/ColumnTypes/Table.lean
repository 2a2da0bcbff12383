import ColumnTypes.Text.Width

/-!
Tables drawn with box characters. A cell may have several lines; a column is as wide as its widest
line, in display columns, and every line has one space of padding on both sides. Rows are told apart by
dashed rules, and the head from the rows by a double one.
-/

namespace ColumnTypes

/-- A head and rows of as many cells. -/
structure Table where
  head : List Text
  rows : List (List Text)
deriving Repr

namespace Table

structure Rule where
  left : Char
  fill : Char
  cross : Char
  right : Char
deriving Repr

def topRule : Rule := ⟨'┌', '─', '┬', '┐'⟩

def headRule : Rule := ⟨'╞', '═', '╪', '╡'⟩

def rowRule : Rule := ⟨'├', '╌', '┼', '┤'⟩

def bottomRule : Rule := ⟨'└', '─', '┴', '┘'⟩

def cellLines (cell : Text) : List Text := cell.splitOn '\n'

def columnWidth (cells : List Text) : Nat :=
  (cells.flatMap cellLines).foldl (fun widest line => max widest (Text.width line)) 0

/-- The cells at one place of every row, head included. -/
def column (table : Table) (i : Nat) : List Text :=
  (table.head :: table.rows).map fun row => row.getD i []

def widths (table : Table) : List Nat :=
  (List.range table.head.length).map fun i => columnWidth (table.column i)

def Rule.draw (rule : Rule) (widths : List Nat) : Text :=
  rule.left :: Text.join [rule.cross] (widths.map fun w => List.replicate (w + 2) rule.fill) ++
    [rule.right]

/-- A line between spaces, filled up to `width` columns. -/
def padded (width : Nat) (line : Text) : Text :=
  ' ' :: line ++ List.replicate (width - Text.width line) ' ' ++ [' ']

def drawLine (widths : List Nat) (lines : List Text) : Text :=
  '│' :: Text.join ['┆'] (List.zipWith padded widths lines) ++ ['│']

/-- The drawn lines of a row, as many as its tallest cell has. -/
def drawRow (widths : List Nat) (cells : List Text) : List Text :=
  let cells := cells.map cellLines
  let height := cells.foldl (fun tallest lines => max tallest lines.length) 0
  (List.range height).map fun i => drawLine widths (cells.map fun lines => lines.getD i [])

def drawRows (widths : List Nat) (rows : List (List Text)) : List Text :=
  [rowRule.draw widths].intercalate (rows.map (drawRow widths))

def draw (table : Table) : Text :=
  let widths := table.widths
  Text.join ['\n']
    ([topRule.draw widths] ++ drawRow widths table.head ++ [headRule.draw widths] ++
      drawRows widths table.rows ++ [bottomRule.draw widths])

end Table

end ColumnTypes
