import ColumnTypes.Proofs.JsonReading
import ColumnTypes.Proofs.Results
import ColumnTypes.Schema.Json

/-!
The JSON form of types and schemas loses nothing. Reading undoes writing kind by kind: the value of a
kind is found beside it, numbers fit the width they came from, and an absent timezone is told from any
text. The form has no reals, so it is read back from both spellings.
-/

namespace ColumnTypes

theorem Json.natBelow?_integer {bound n : Nat} (h : n < bound) :
    natBelow? bound (.integer n) = some ⟨n, h⟩ := by
  simp [natBelow?, h]

theorem Json.WithoutReals.pair {a b : Text} {v w : Json} (hv : v.WithoutReals)
    (hw : w.WithoutReals) : (Json.object [(a, v), (b, w)]).WithoutReals := by
  refine .object ?_
  simpa using ⟨hv, hw⟩

namespace ColumnType

/-! ### Reading undoes writing -/

theorem untag?_tag (kind : Kind) (value : Json) : untag? (kind.tag value) = some (kind, value) := by
  have hk : Json.member? "kind" [("kind", .string kind.name), ("value", value)] =
      some (.string kind.name) := rfl
  have hv : Json.member? "value" [("kind", .string kind.name), ("value", value)] = some value := rfl
  simp only [Kind.tag, untag?, hk, hv, Kind.ofName?_name, Option.map_some]

theorem ofJson?_eq (json : Json) :
    ofJson? json =
      match untag? json with
      | none => none
      | some (.primitive, value) => primitive <$> Primitive.ofJson? value
      | some (.fixedString, value) => (fun n => fixedString (.ofFin n)) <$> value.natBelow? UInt64.size
      | some (.decimal, value) => (fun (p, s) => decimal p s) <$> decimalOfJson? value
      | some (.decimal256, value) => (fun (p, s) => decimal256 p s) <$> decimalOfJson? value
      | some (.dateTime64, value) => timestampOfJson? value
      | some (.array, element) => array <$> ofJson? element
      | some (.tuple, .array elements) => tuple <$> elements.mapM ofJson?
      | some (.map, .object members) =>
        match Json.member? "key" members, Json.member? "value" members with
        | some key, some value => return map (← ofJson? key) (← ofJson? value)
        | _, _ => none
      | some (.nullable, inner) => nullable <$> ofJson? inner
      | some _ => none := by
  rw [ofJson?]
  split <;> simp_all
  split <;> simp_all

theorem toJsonList_eq_map (types : List ColumnType) : toJsonList types = types.map toJson := by
  induction types with
  | nil => rfl
  | cons type rest ih => rw [toJsonList, ih, List.map_cons]

theorem decimalOfJson?_pair (precision scale : UInt32) :
    decimalOfJson?
      (.object [("precision", .integer precision.toNat), ("scale", .integer scale.toNat)]) =
        some (precision, scale) := by
  have hp : Json.natBelow? UInt32.size (.integer precision.toNat) = some precision.toFin :=
    Json.natBelow?_integer precision.toNat_lt
  have hs : Json.natBelow? UInt32.size (.integer scale.toNat) = some scale.toFin :=
    Json.natBelow?_integer scale.toNat_lt
  show (do
    let p ← Json.natBelow? UInt32.size (.integer precision.toNat)
    let s ← Json.natBelow? UInt32.size (.integer scale.toNat)
    return (UInt32.ofFin p, UInt32.ofFin s)) = _
  rw [hp, hs]
  rfl

theorem timestampOfJson?_pair (precision : UInt8) (timezone : Option Text) :
    timestampOfJson?
      (.object [("precision", .integer precision.toNat),
        ("timezone", match timezone with | none => .null | some timezone => .string timezone)]) =
        some (dateTime64 precision timezone) := by
  have hp : Json.natBelow? UInt8.size (.integer precision.toNat) = some precision.toFin :=
    Json.natBelow?_integer precision.toNat_lt
  show (do
    let p ← Json.natBelow? UInt8.size (.integer precision.toNat)
    let zone ← timezoneOfJson? (some (match timezone with | none => .null | some zone => .string zone))
    return dateTime64 (.ofFin p) zone) = _
  rw [hp]
  cases timezone <;> rfl

theorem ofJson?_toJson (type : ColumnType) : ofJson? type.toJson = some type := by
  induction type with
  | primitive p =>
    rw [toJson, ofJson?_eq, untag?_tag]
    simp only [Primitive.ofJson?, Primitive.ofName?_name]
    rfl
  | fixedString n =>
    have hn : Json.natBelow? UInt64.size (.integer n.toNat) = some n.toFin :=
      Json.natBelow?_integer n.toNat_lt
    rw [toJson, ofJson?_eq, untag?_tag]
    simp only [hn]
    rfl
  | decimal p s =>
    rw [toJson, ofJson?_eq, untag?_tag]
    simp only [decimalOfJson?_pair]
    rfl
  | decimal256 p s =>
    rw [toJson, ofJson?_eq, untag?_tag]
    simp only [decimalOfJson?_pair]
    rfl
  | dateTime64 p timezone =>
    rw [toJson.eq_def, ofJson?_eq]
    simp only [untag?_tag]
    exact timestampOfJson?_pair p timezone
  | array element ih =>
    rw [toJson, ofJson?_eq, untag?_tag]
    simp only [ih]
    rfl
  | tuple elements ih =>
    rw [toJson, ofJson?_eq, untag?_tag, toJsonList_eq_map]
    simp only [mapM_map_eq_some ih]
    rfl
  | map key value ihk ihv =>
    have hk : Json.member? "key" [("key", key.toJson), ("value", value.toJson)] = some key.toJson := rfl
    have hv : Json.member? "value" [("key", key.toJson), ("value", value.toJson)] =
      some value.toJson := rfl
    rw [toJson, ofJson?_eq, untag?_tag]
    simp only [hk, hv, ihk, ihv]
    rfl
  | nullable inner ih =>
    rw [toJson, ofJson?_eq, untag?_tag]
    simp only [ih]
    rfl

/-! ### The form has no reals -/

theorem withoutReals_tag {value : Json} (kind : Kind) (h : value.WithoutReals) :
    (kind.tag value).WithoutReals :=
  .pair (.string kind.name) h

theorem withoutReals_toJson (type : ColumnType) : type.toJson.WithoutReals := by
  induction type with
  | primitive p => exact withoutReals_tag _ (.string _)
  | fixedString n => exact withoutReals_tag _ (.integer _)
  | decimal p s => exact withoutReals_tag _ (.pair (.integer _) (.integer _))
  | decimal256 p s => exact withoutReals_tag _ (.pair (.integer _) (.integer _))
  | dateTime64 p timezone =>
    cases timezone with
    | none => exact withoutReals_tag _ (.pair (.integer _) .null)
    | some timezone => exact withoutReals_tag _ (.pair (.integer _) (.string _))
  | array element ih => exact withoutReals_tag _ ih
  | tuple elements ih =>
    rw [toJson, toJsonList_eq_map]
    exact withoutReals_tag _ (.array (List.forall_mem_map.2 ih))
  | map key value ihk ihv => exact withoutReals_tag _ (.pair ihk ihv)
  | nullable inner ih => exact withoutReals_tag _ ih

end ColumnType

/-! ### Columns and schemas -/

theorem Column.ofJson?_toJson (column : Column) : ofJson? column.toJson = some column := by
  have hn : Json.member? "name" [("name", .string column.name), ("type", column.type.toJson)] =
      some (.string column.name) := rfl
  have ht : Json.member? "type" [("name", .string column.name), ("type", column.type.toJson)] =
      some column.type.toJson := rfl
  simp only [toJson, ofJson?, hn, ht, ColumnType.ofJson?_toJson]
  rfl

theorem Column.withoutReals_toJson (column : Column) : column.toJson.WithoutReals :=
  .pair (.string _) column.type.withoutReals_toJson

namespace Schema

theorem ofJson?_toJson (schema : Schema) : ofJson? schema.toJson = some schema := by
  have hf : Json.member? "fields" [("fields", .array (schema.columns.map Column.toJson))] =
      some (.array (schema.columns.map Column.toJson)) := rfl
  have hc : (schema.columns.map Column.toJson).mapM Column.ofJson? = some schema.columns :=
    mapM_map_eq_some fun column _ => column.ofJson?_toJson
  simp only [toJson, ofJson?, hf, Option.bind_some, ofFields?, hc]
  rfl

theorem withoutReals_toJson (schema : Schema) : schema.toJson.WithoutReals := by
  have hc : (Json.array (schema.columns.map Column.toJson)).WithoutReals :=
    .array (List.forall_mem_map.2 fun column _ => column.withoutReals_toJson)
  refine .object ?_
  simpa using hc

end Schema

/-- Both spellings of the JSON form of a type denote one value, and reading the value gives the type
again; likewise for a schema. -/
theorem json_round_trip :
    (∀ type : ColumnType, ∃ value, Json.read? type.toJson.compact = some value ∧
      Json.read? type.toJson.pretty = some value ∧ ColumnType.ofJson? value = some type) ∧
    ∀ schema : Schema, ∃ value, Json.read? schema.toJson.compact = some value ∧
      Json.read? schema.toJson.pretty = some value ∧ Schema.ofJson? value = some schema := by
  constructor
  · intro type
    obtain ⟨hc, hp⟩ := type.withoutReals_toJson.read?_spellings
    exact ⟨type.toJson, hc, hp, type.ofJson?_toJson⟩
  · intro schema
    obtain ⟨hc, hp⟩ := schema.withoutReals_toJson.read?_spellings
    exact ⟨schema.toJson, hc, hp, schema.ofJson?_toJson⟩

end ColumnTypes
