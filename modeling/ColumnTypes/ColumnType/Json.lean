import ColumnTypes.ColumnType.Basic
import ColumnTypes.Json.Basic

/-!
Types as JSON values: an object of a kind and a value, whose shape depends on the kind. Reading is more
lenient than writing: members may come in any order, unknown members are ignored, a missing timezone is
absent, the pair may be an array of two, and a primitive name may be the key of a null.
-/

namespace ColumnTypes

/-- An integer from zero to below `bound`. -/
def Json.natBelow? (bound : Nat) : Json → Option (Fin bound)
  | .integer (.ofNat n) => if h : n < bound then some ⟨n, h⟩ else none
  | _ => none

def Primitive.ofJson? : Json → Option Primitive
  | .string name => ofName? name
  | .object [(name, .null)] => ofName? name
  | _ => none

namespace ColumnType

inductive Kind where
  | primitive
  | fixedString
  | decimal
  | decimal256
  | dateTime64
  | array
  | tuple
  | map
  | nullable
deriving DecidableEq, Repr

namespace Kind

def name : Kind → Text
  | primitive => "primitive"
  | fixedString => "fixed_string"
  | decimal => "decimal"
  | decimal256 => "decimal256"
  | dateTime64 => "date_time64"
  | array => "array"
  | tuple => "tuple"
  | map => "map"
  | nullable => "nullable"

def ofName? (name : Text) : Option Kind :=
  [primitive, fixedString, decimal, decimal256, dateTime64, array, tuple, map, nullable].find?
    (·.name == name)

theorem ofName?_name (kind : Kind) : ofName? kind.name = some kind := by cases kind <;> decide

/-- An object that carries the kind beside the value. -/
def tag (kind : Kind) (value : Json) : Json :=
  .object [("kind", .string kind.name), ("value", value)]

end Kind

mutual

def toJson : ColumnType → Json
  | primitive p => Kind.tag .primitive (.string p.name)
  | fixedString length => Kind.tag .fixedString (.integer length.toNat)
  | decimal precision scale =>
    Kind.tag .decimal
      (.object [("precision", .integer precision.toNat), ("scale", .integer scale.toNat)])
  | decimal256 precision scale =>
    Kind.tag .decimal256
      (.object [("precision", .integer precision.toNat), ("scale", .integer scale.toNat)])
  | dateTime64 precision timezone =>
    Kind.tag .dateTime64
      (.object [("precision", .integer precision.toNat),
        ("timezone", match timezone with | none => .null | some timezone => .string timezone)])
  | array element => Kind.tag .array element.toJson
  | tuple elements => Kind.tag .tuple (.array (toJsonList elements))
  | map key value => Kind.tag .map (.object [("key", key.toJson), ("value", value.toJson)])
  | nullable inner => Kind.tag .nullable inner.toJson

def toJsonList : List ColumnType → List Json
  | [] => []
  | type :: rest => type.toJson :: toJsonList rest

end

def decimalOfJson? : Json → Option (UInt32 × UInt32)
  | .object members => do
    let precision ← (Json.member? "precision" members).bind (Json.natBelow? UInt32.size)
    let scale ← (Json.member? "scale" members).bind (Json.natBelow? UInt32.size)
    return (.ofFin precision, .ofFin scale)
  | _ => none

/-- A timezone that may be missing or null. -/
def timezoneOfJson? : Option Json → Option (Option Text)
  | none | some .null => some none
  | some (.string timezone) => some (some timezone)
  | some _ => none

def timestampOfJson? : Json → Option ColumnType
  | .object members => do
    let precision ← (Json.member? "precision" members).bind (Json.natBelow? UInt8.size)
    let timezone ← timezoneOfJson? (Json.member? "timezone" members)
    return dateTime64 (.ofFin precision) timezone
  | _ => none

/-- Kind and value, from an object or from an array of two. -/
def untag? : Json → Option (Kind × Json)
  | .object members =>
    match Json.member? "kind" members, Json.member? "value" members with
    | some (.string kind), some value => (Kind.ofName? kind).map (·, value)
    | _, _ => none
  | .array [.string kind, value] => (Kind.ofName? kind).map (·, value)
  | _ => none

theorem sizeOf_untag?_lt {json value : Json} {kind : Kind} (h : untag? json = some (kind, value)) :
    sizeOf value < sizeOf json := by
  unfold untag? at h
  split at h
  · split at h
    · rename_i hv
      obtain ⟨k, _, he⟩ := Option.map_eq_some_iff.1 h
      cases he
      exact Json.sizeOf_lt_of_member? hv
    · cases h
  · obtain ⟨k, _, he⟩ := Option.map_eq_some_iff.1 h
    cases he
    simp
    omega
  · cases h

def ofJson? (json : Json) : Option ColumnType :=
  match _h : untag? json with
  | none => none
  | some (.primitive, value) => primitive <$> Primitive.ofJson? value
  | some (.fixedString, value) => (fun n => fixedString (.ofFin n)) <$> value.natBelow? UInt64.size
  | some (.decimal, value) => (fun (p, s) => decimal p s) <$> decimalOfJson? value
  | some (.decimal256, value) => (fun (p, s) => decimal256 p s) <$> decimalOfJson? value
  | some (.dateTime64, value) => timestampOfJson? value
  | some (.array, element) => array <$> ofJson? element
  | some (.tuple, .array elements) => tuple <$> elements.attach.mapM fun e => ofJson? e.val
  | some (.map, .object members) =>
    match _hk : Json.member? "key" members, _hv : Json.member? "value" members with
    | some key, some value => return map (← ofJson? key) (← ofJson? value)
    | _, _ => none
  | some (.nullable, inner) => nullable <$> ofJson? inner
  | some _ => none
termination_by sizeOf json
decreasing_by
  · exact sizeOf_untag?_lt _h
  · have := sizeOf_untag?_lt _h
    have := List.sizeOf_lt_of_mem e.property
    simp_all
    omega
  · exact Nat.lt_trans (Json.sizeOf_lt_of_member? _hk) (sizeOf_untag?_lt _h)
  · exact Nat.lt_trans (Json.sizeOf_lt_of_member? _hv) (sizeOf_untag?_lt _h)
  · exact sizeOf_untag?_lt _h

end ColumnType

end ColumnTypes
