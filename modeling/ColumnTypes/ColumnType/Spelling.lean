import ColumnTypes.ColumnType.Basic

/-!
The canonical spelling of a type: the keyword, the parameters in parentheses, and a comma with one
space between parameters. Numbers have no leading zeros.
-/

namespace ColumnTypes.ColumnType

mutual

def spelling : ColumnType → Text
  | primitive p => p.name
  | fixedString length => "FixedString(" ++ Text.ofNat length.toNat ++ ")"
  | decimal precision scale =>
    "Decimal(" ++ Text.ofNat precision.toNat ++ ", " ++ Text.ofNat scale.toNat ++ ")"
  | decimal256 precision scale =>
    "Decimal256(" ++ Text.ofNat precision.toNat ++ ", " ++ Text.ofNat scale.toNat ++ ")"
  | dateTime64 precision none => "DateTime64(" ++ Text.ofNat precision.toNat ++ ")"
  | dateTime64 precision (some timezone) =>
    "DateTime64(" ++ Text.ofNat precision.toNat ++ ", " ++ timezone ++ ")"
  | array element => "Array(" ++ element.spelling ++ ")"
  | tuple elements => "Tuple(" ++ Text.join ", " (spellings elements) ++ ")"
  | map key value => "Map(" ++ key.spelling ++ ", " ++ value.spelling ++ ")"
  | nullable inner => "Nullable(" ++ inner.spelling ++ ")"

def spellings : List ColumnType → List Text
  | [] => []
  | type :: rest => type.spelling :: spellings rest

end

end ColumnTypes.ColumnType
