import ColumnTypes.Schema.Basic
import ColumnTypes.ColumnType.Trail

/-!
Reading a column list. A column is a name, one blank and a type; a name is a run of characters that
are not blank. A list may stand in one pair of parentheses, and a list without any text is empty.
-/

namespace ColumnTypes

inductive ColumnFault where
  | missingName
  | missingType
deriving DecidableEq, Repr

def ColumnFault.reason : ColumnFault → Text
  | missingName => "missing field name"
  | missingType => "missing type after field name"

/-- Why a text is not a column list: a type in it is malformed, or a column is. -/
inductive MalformedSchema where
  | type (malformed : MalformedType)
  | column (input : Text) (fault : ColumnFault)
deriving DecidableEq, Repr

namespace MalformedSchema

def input : MalformedSchema → Text
  | type malformed => malformed.input
  | column input _ => input

def reason : MalformedSchema → Text
  | type malformed => malformed.fault.reason
  | column _ fault => fault.reason

def message : MalformedSchema → Text
  | type malformed => malformed.message
  | column input fault => "Malformed field '" ++ input ++ "': " ++ fault.reason

end MalformedSchema

namespace Column

/-- The name of a column and the text of its type, which begins after exactly one blank. -/
def cut (text : Text) : Except ColumnFault (Text × Text) :=
  match Text.trimStart text with
  | [] => .error .missingName
  | start =>
    match start.dropWhile fun c => !Text.isBlank c with
    | [] => .error .missingType
    | _ :: typeText => .ok (start.takeWhile fun c => !Text.isBlank c, typeText)

def parse (text : Text) : Except MalformedSchema Column :=
  match cut text with
  | .error fault => .error (.column text fault)
  | .ok (name, typeText) =>
    match ColumnType.parse typeText with
    | .error malformed => .error (.type malformed)
    | .ok type => .ok ⟨name, type⟩

def trail (text : Text) : Trail :=
  match cut text with
  | .error _ => ⟨[], false⟩
  | .ok (_, typeText) => ColumnType.trail typeText

end Column

namespace Schema

/-- Strips one outer pair of parentheses, unless the depth between them falls below zero: then the
first parenthesis closes before the end. -/
def unwrap (text : Text) : Text :=
  match text with
  | '(' :: rest =>
    match Text.dropLast? ')' rest with
    | some inner => if Text.neverBelowFrom 0 inner then inner else text
    | none => text
  | _ => text

/-- The text of a column list without its outer blanks and parentheses. -/
def body (text : Text) : Text := Text.trim (unwrap (Text.trim text))

def parse (text : Text) : Except MalformedSchema Schema :=
  match body text with
  | [] => .ok ⟨[]⟩
  | body => Schema.mk <$> (Text.segments ',' body).mapM Column.parse

/-- The trail of reading a column list, up to the first column that fails. -/
def trail (text : Text) : Trail :=
  match body text with
  | [] => ⟨[], true⟩
  | body => Trail.inOrder ((Text.segments ',' body).map Column.trail)

end Schema

end ColumnTypes
