import ColumnTypes.ColumnType.Spelling

/-! Columns and schemas. A schema is a list of named columns in the order of declaration. -/

namespace ColumnTypes

structure Column where
  name : Text
  type : ColumnType
deriving DecidableEq, Repr

def Column.spelling (column : Column) : Text := column.name ++ " " ++ column.type.spelling

structure Schema where
  columns : List Column
deriving DecidableEq, Repr

namespace Schema

def spelling (schema : Schema) : Text := Text.join ", " (schema.columns.map Column.spelling)

/-- The first column of that name. -/
def find? (schema : Schema) (name : Text) : Option Column :=
  schema.columns.find? (·.name == name)

end Schema

end ColumnTypes
