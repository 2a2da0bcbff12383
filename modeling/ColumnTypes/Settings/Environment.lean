import ColumnTypes.Settings.Tree
import ColumnTypes.Text.LowerCase

/-!
Settings from environment variables. A variable counts if its name, in lower case, begins with
`chtype_`; in the rest of the name, two underscores stand for a dot.
-/

namespace ColumnTypes.Settings

abbrev Environment := List (Text × Text)

namespace Environment

def nameStart : Text := "chtype_"

/-- The text with two underscores in a row read as a dot, from left to right. -/
def dotted : Text → Text
  | '_' :: '_' :: rest => '.' :: dotted rest
  | c :: rest => c :: dotted rest
  | [] => []

def key? (name : Text) : Option Text :=
  (Text.dropStart? nameStart (Text.lowered name)).map dotted

/-- What the variables set. Of two variables with the same key the later one counts. -/
def layer : Environment → Layer
  | [] => []
  | (name, value) :: rest =>
    match key? name with
    | none => layer rest
    | some key =>
      if (layer rest).any (·.1 = key) then layer rest
      else (key, .leaf (.ofText value) .environment) :: layer rest

end Environment

end ColumnTypes.Settings
