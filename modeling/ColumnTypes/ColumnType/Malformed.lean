import ColumnTypes.Text.Segments

/-!
Why a text is not a column type. A malformed type names the fragment at which reading stopped and the
fault found there; the wording of every fault is in one place.
-/

namespace ColumnTypes

/-- How deeply parentheses may nest in the text of a type. -/
def nestingLimit : Nat := 256

inductive Quantity where
  | length
  | precision
  | scale
deriving DecidableEq, Repr

def Quantity.name : Quantity → Text
  | length => "FixedString length"
  | precision => "precision"
  | scale => "scale"

inductive TypeFault where
  | empty
  | unknownName
  | unclosed
  | unbalanced
  | tooDeep
  | notANumber (quantity : Quantity)
  | outOfRange (quantity : Quantity)
  | decimalParameters (keyword : Text)
  | timestampSurplus (surplus : Text.Surplus)
  | timestampParameters
  | timestampPrecision
  | timestampTimezone
  | mapParameters (found : Nat)
deriving DecidableEq, Repr

def TypeFault.reason : TypeFault → Text
  | empty => "empty type string"
  | unknownName => "unknown type name"
  | unclosed => "missing closing parenthesis"
  | unbalanced => "unbalanced parentheses"
  | tooDeep => "nesting deeper than " ++ Text.ofNat nestingLimit ++ " levels"
  | notANumber quantity => quantity.name ++ " must be a non-negative integer"
  | outOfRange quantity => quantity.name ++ " is out of range"
  | decimalParameters keyword => keyword ++ " expects precision and scale"
  | timestampSurplus surplus => "DateTime64: " ++ surplus.message
  | timestampParameters => "DateTime64 expects a precision and an optional timezone"
  | timestampPrecision => "DateTime64 precision must be a single digit 0-9"
  | timestampTimezone => "DateTime64 timezone must not be empty"
  | mapParameters found =>
    "Map expects a key and a value type, found " ++ Text.ofNat found ++ " arguments"

/-- A fragment that is not a type, and why. -/
structure MalformedType where
  input : Text
  fault : TypeFault
deriving DecidableEq, Repr

def MalformedType.message (m : MalformedType) : Text :=
  "Malformed ClickHouse type '" ++ m.input ++ "': " ++ m.fault.reason

end ColumnTypes
