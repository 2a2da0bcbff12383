import ColumnTypes.Text.Basic

/-! The resolution class of a time stamp, chosen by its number of decimal places. -/

namespace ColumnTypes

inductive TimeUnit where
  | second
  | millisecond
  | microsecond
  | nanosecond
deriving DecidableEq, Repr

namespace TimeUnit

/-- The class that covers a number of decimal places; past nine places there is none. -/
def ofPrecision? (precision : UInt8) : Option TimeUnit :=
  if precision = 0 then some second
  else if precision ≤ 3 then some millisecond
  else if precision ≤ 6 then some microsecond
  else if precision ≤ 9 then some nanosecond
  else none

def symbol : TimeUnit → Text
  | second => "s"
  | millisecond => "ms"
  | microsecond => "us"
  | nanosecond => "ns"

def name : TimeUnit → Text
  | second => "Second"
  | millisecond => "Millisecond"
  | microsecond => "Microsecond"
  | nanosecond => "Nanosecond"

end TimeUnit

end ColumnTypes
