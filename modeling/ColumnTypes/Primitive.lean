import ColumnTypes.Text.Basic

/-! The types that take no parameters, each with its exact, case-sensitive name. -/

namespace ColumnTypes

inductive Primitive where
  | bool
  | uint8
  | uint16
  | uint32
  | uint64
  | uint128
  | uint256
  | int8
  | int16
  | int32
  | int64
  | int128
  | int256
  | float32
  | float64
  | string
  | date32
  | dateTime
  | ipv4
  | ipv6
  | enum8
  | enum16
deriving DecidableEq, Repr

namespace Primitive

def name : Primitive → Text
  | bool => "Bool"
  | uint8 => "UInt8"
  | uint16 => "UInt16"
  | uint32 => "UInt32"
  | uint64 => "UInt64"
  | uint128 => "UInt128"
  | uint256 => "UInt256"
  | int8 => "Int8"
  | int16 => "Int16"
  | int32 => "Int32"
  | int64 => "Int64"
  | int128 => "Int128"
  | int256 => "Int256"
  | float32 => "Float32"
  | float64 => "Float64"
  | string => "String"
  | date32 => "Date32"
  | dateTime => "DateTime"
  | ipv4 => "IPv4"
  | ipv6 => "IPv6"
  | enum8 => "Enum8"
  | enum16 => "Enum16"

/-- Every primitive once, in the order in which they are listed. -/
def all : List Primitive :=
  [bool, uint8, uint16, uint32, uint64, uint128, uint256, int8, int16, int32, int64, int128, int256,
    float32, float64, string, date32, dateTime, ipv4, ipv6, enum8, enum16]

def ofName? (name : Text) : Option Primitive := all.find? (·.name == name)

theorem ofName?_name (p : Primitive) : ofName? p.name = some p := by cases p <;> decide

theorem ofName?_eq_some_iff {name : Text} {p : Primitive} : ofName? name = some p ↔ name = p.name := by
  refine ⟨fun h => ?_, fun h => h ▸ ofName?_name p⟩
  have hp := List.find?_some (p := fun q : Primitive => q.name == name) h
  exact (eq_of_beq hp).symm

end Primitive

end ColumnTypes
