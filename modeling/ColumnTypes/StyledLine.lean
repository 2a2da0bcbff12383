import ColumnTypes.Text.Basic

/-!
Status lines of a terminal: an action in a column of fifteen characters, right-aligned, and a message.
The action may be coloured and bold; with plain output no escape sequence is written.
-/

namespace ColumnTypes

inductive Colour where
  | green
  | red
deriving DecidableEq, Repr

def Colour.start : Colour → Text
  | green => "\x1b[38;5;10m"
  | red => "\x1b[38;5;9m"

def boldStart : Text := "\x1b[1m"

/-- The sequence that ends colour or weight. -/
def styleReset : Text := "\x1b[0m"

structure StyledLine where
  action : Text
  message : Text
  colour : Option Colour
  bold : Bool
deriving Repr

namespace StyledLine

def actionWidth : Nat := 15

/-- The action cut or filled up on its left to the width of its column. -/
def actionColumn (action : Text) : Text :=
  let action := action.take actionWidth
  List.replicate (actionWidth - action.length) ' ' ++ action

def start (line : StyledLine) : Text :=
  (match line.colour with
    | none => []
    | some colour => colour.start) ++
    if line.bold then boldStart else []

/-- The sequences after the action: the colour is always reset, the weight only if it was set. -/
def reset (line : StyledLine) : Text := styleReset ++ if line.bold then styleReset else []

def written (plain : Bool) (line : StyledLine) : Text :=
  let action := actionColumn line.action
  (if plain then action else line.start ++ action ++ line.reset) ++ " " ++ line.message ++ "\n"

end StyledLine

end ColumnTypes
