import ColumnTypes.ColumnType.Json
import ColumnTypes.Schema.Basic

/-!
Schemas as JSON values: an object whose `fields` are objects of a name and a type. Reading also takes
an array in place of either object, with its values in that order and no others.
-/

namespace ColumnTypes

namespace Column

def toJson (column : Column) : Json :=
  .object [("name", .string column.name), ("type", column.type.toJson)]

def ofJson? : Json → Option Column
  | .object members =>
    match Json.member? "name" members, Json.member? "type" members with
    | some (.string name), some type => Column.mk name <$> ColumnType.ofJson? type
    | _, _ => none
  | .array [.string name, type] => Column.mk name <$> ColumnType.ofJson? type
  | _ => none

end Column

namespace Schema

def toJson (schema : Schema) : Json := .object [("fields", .array (schema.columns.map Column.toJson))]

def ofFields? : Json → Option Schema
  | .array columns => Schema.mk <$> columns.mapM Column.ofJson?
  | _ => none

def ofJson? : Json → Option Schema
  | .object members => (Json.member? "fields" members).bind ofFields?
  | .array [fields] => ofFields? fields
  | _ => none

end Schema

end ColumnTypes
