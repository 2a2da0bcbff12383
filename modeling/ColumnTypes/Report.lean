import ColumnTypes.Schema.Parser
import ColumnTypes.Text.Quoted
import ColumnTypes.View

/-!
What each command answers: an output, and a status of an action and its details. A failing command has
a status only.
-/

namespace ColumnTypes

structure Status where
  action : Text
  details : Text
deriving DecidableEq, Repr

/-- The output of a command that succeeded. Showing a type has no status. -/
structure Report where
  output : Text
  status : Option Status
deriving DecidableEq, Repr

namespace Report

def ofType (format : Format) (text : Text) : Except Status Report :=
  match ColumnType.parse text with
  | .error malformed => .error ⟨"Parse", malformed.message⟩
  | .ok type => .ok ⟨type.view format, none⟩

def ofSchema (format : Option Format) (text : Text) : Except Status Report :=
  match Schema.parse text with
  | .error malformed => .error ⟨"Parse", malformed.message⟩
  | .ok schema =>
    .ok ⟨schema.view format, some ⟨"Parsed", Text.counted schema.columns.length "field"⟩⟩

/-- A segment between quotes, or the mark of an absent one. -/
def segmentLine : Option Text → Text
  | some segment => Text.quoted segment
  | none => "<absent>"

/-- The lines of a split: at the top nesting level, or everywhere and padded to an arity. -/
def splitLines (arity : Option Nat) (text : Text) : Except Text.Surplus (List Text) :=
  match arity with
  | none => .ok ((Text.segments ',' text).map Text.quoted)
  | some arity => (·.map segmentLine) <$> Text.padded ',' arity text

def ofSplit (arity : Option Nat) (text : Text) : Except Status Report :=
  match splitLines arity text with
  | .error surplus => .error ⟨"Split", surplus.message⟩
  | .ok lines =>
    .ok ⟨Text.join ['\n'] lines, some ⟨"Split", Text.counted lines.length "segment"⟩⟩

end Report

end ColumnTypes
