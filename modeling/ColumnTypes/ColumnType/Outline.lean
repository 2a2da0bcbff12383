import ColumnTypes.ColumnType.Basic

/-!
The outline of a type: one line for each node of its tree, indented by two spaces a level. The parts of
a map are labelled as key and value, those of a tuple by their positions. An outline under construction
knows how deep the next line goes and which label it carries; writing a line uses the label up.
-/

namespace ColumnTypes

structure Outline where
  depth : Nat
  label : Option Text
  lines : Array Text
deriving Repr

namespace Outline

def startAt (depth : Nat) : Outline := ⟨depth, none, #[]⟩

/-- A line as it stands at a depth, after its label if it has one. -/
def indented (depth : Nat) (label : Option Text) (text : Text) : Text :=
  List.replicate (2 * depth) ' ' ++
    match label with
    | none => text
    | some label => label ++ ": " ++ text

def addLine (text : Text) (o : Outline) : Outline :=
  ⟨o.depth, none, o.lines.push (indented o.depth o.label text)⟩

/-- One level further in, with a label for the next line. -/
def enter (label : Option Text) (o : Outline) : Outline := ⟨o.depth + 1, label, o.lines⟩

def leave (o : Outline) : Outline := ⟨o.depth - 1, o.label, o.lines⟩

def text (o : Outline) : Text := Text.join ['\n'] o.lines.toList

end Outline

namespace ColumnType

/-- The first line of a type: its name and its numeric parameters. -/
def heading : ColumnType → Text
  | primitive p => p.name
  | fixedString length => "FixedString(length=" ++ Text.ofNat length.toNat ++ ")"
  | decimal precision scale =>
    "Decimal(precision=" ++ Text.ofNat precision.toNat ++ ", scale=" ++ Text.ofNat scale.toNat ++ ")"
  | decimal256 precision scale =>
    "Decimal256(precision=" ++ Text.ofNat precision.toNat ++ ", scale=" ++ Text.ofNat scale.toNat ++ ")"
  | dateTime64 precision timezone =>
    let unit := ((TimeUnit.ofPrecision? precision).map TimeUnit.symbol).getD "?"
    let zone : Text := match timezone with
      | none => []
      | some timezone => ", timezone=" ++ timezone
    "DateTime64(precision=" ++ Text.ofNat precision.toNat ++ ", unit=" ++ unit ++ zone ++ ")"
  | array _ => "Array"
  | tuple _ => "Tuple"
  | map _ _ => "Map"
  | nullable _ => "Nullable"

mutual

def addTo : ColumnType → Outline → Outline
  | array element, o => ((o.addLine (array element).heading).enter none |> element.addTo).leave
  | tuple elements, o => addElements 0 elements (o.addLine (tuple elements).heading)
  | map key value, o =>
    let o := ((o.addLine (map key value).heading).enter (some "key") |> key.addTo).leave
    (o.enter (some "value") |> value.addTo).leave
  | nullable inner, o => ((o.addLine (nullable inner).heading).enter none |> inner.addTo).leave
  | leaf, o => o.addLine leaf.heading

/-- Adds the elements of a tuple, the first of which has the given position. -/
def addElements (position : Nat) : List ColumnType → Outline → Outline
  | [], o => o
  | type :: rest, o =>
    addElements (position + 1) rest (o.enter (some (Text.ofNat position)) |> type.addTo).leave

end

def outline (type : ColumnType) : Text := (type.addTo (.startAt 0)).text

end ColumnType

end ColumnTypes
