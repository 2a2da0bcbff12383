import ColumnTypes.Settings.Scalar

/-!
The paths that names of settings spell. A path leads through tables by their keys, which stand between
dots, and through lists by positions in brackets. A name that spells no path is the key that it is.
-/

namespace ColumnTypes.Settings

/-- A negative position is counted from the end of a list. -/
inductive Step where
  | key (name : Text)
  | position (index : Int)
deriving DecidableEq, Repr

def isKeyChar (c : Char) : Bool := c.isAlphanum || c = ' ' || c = '_' || c = '-'

def isSpace (c : Char) : Bool := c = ' ' || c = '\t'

def skipSpaces (text : Text) : Text := text.dropWhile isSpace

/-- A whole number of 64 bits, with spaces around it. -/
def position? (text : Text) : Option Step :=
  let number := (skipSpaces (skipSpaces text).reverse).reverse
  let index :=
    match number with
    | '-' :: digits => (Text.toNat? digits).map fun n => -(n : Int)
    | digits => (Text.toNat? digits).map Int.ofNat
  match index with
  | none => none
  | some index => if isInt64 index then some (.position index) else none

/-- Positions in brackets, one right after the other. -/
def positions? (text : Text) : Option (List Step) :=
  let pieces := text.splitOn ']'
  if pieces.getLast? = some [] then
    pieces.dropLast.mapM fun
      | '[' :: inner => position? inner
      | _ => none
  else none

def pathPart? (text : Text) : Option (List Step) :=
  match text.takeWhile isKeyChar with
  | [] => none
  | name => (positions? (text.dropWhile isKeyChar)).map (.key name :: ·)

def pathOfName (name : Text) : List Step :=
  match (name.splitOn '.').mapM pathPart? with
  | some parts => parts.flatten
  | none => [.key name]

end ColumnTypes.Settings
