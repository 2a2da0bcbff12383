import ColumnTypes.ColumnType.Json
import ColumnTypes.ColumnType.Outline
import ColumnTypes.Json.Spelling
import ColumnTypes.Schema.Json
import ColumnTypes.Table

/-!
The ways to show a type or a schema: its canonical spelling, pretty JSON, an outline and, for a schema,
a table of its columns.
-/

namespace ColumnTypes

inductive Format where
  | canonical
  | json
  | tree
deriving DecidableEq, Repr

namespace Format

def all : List Format := [canonical, json, tree]

def name : Format → Text
  | canonical => "canonical"
  | json => "json"
  | tree => "tree"

def ofName? (name : Text) : Option Format := all.find? (·.name == name)

end Format

def ColumnType.view (format : Format) (type : ColumnType) : Text :=
  match format with
  | .canonical => type.spelling
  | .json => type.toJson.pretty
  | .tree => type.outline

/-- The name of a column above the outline of its type. -/
def Column.outline (column : Column) : Text :=
  column.name ++ '\n' :: (column.type.addTo (.startAt 1)).text

/-- The numbered columns with their names, types and whether they are nullable. -/
def Schema.table (schema : Schema) : Table where
  head := ["#", "Name", "Type", "Nullable"]
  rows := schema.columns.zipIdx.map fun (column, i) =>
    [Text.ofNat (i + 1), column.name, column.type.spelling,
      if column.type.isNullable then "true" else "false"]

/-- A schema in a format; the table stands for none. -/
def Schema.view (format : Option Format) (schema : Schema) : Text :=
  match format with
  | none => schema.table.draw
  | some .canonical => schema.spelling
  | some .json => schema.toJson.pretty
  | some .tree => Text.join ['\n'] (schema.columns.map Column.outline)

end ColumnTypes
