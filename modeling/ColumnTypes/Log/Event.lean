import ColumnTypes.Text.Basic

/-!
Log events: how severe, from which part of the program, what happened, and named details. The severity
of an event is compared by its rank; more severe means a higher rank.
-/

namespace ColumnTypes.Log

inductive Severity where
  | trace
  | debug
  | info
  | warn
  | error
deriving DecidableEq, Repr

namespace Severity

def rank : Severity → Nat
  | trace => 0
  | debug => 1
  | info => 2
  | warn => 3
  | error => 4

def name : Severity → Text
  | trace => "TRACE"
  | debug => "DEBUG"
  | info => "INFO"
  | warn => "WARN"
  | error => "ERROR"

end Severity

inductive Detail where
  | number (value : Nat)
  | text (value : Text)
deriving DecidableEq, Repr

/-- The value without quotes. -/
def Detail.plain : Detail → Text
  | number n => Text.ofNat n
  | text t => t

structure Event where
  severity : Severity
  target : Text
  message : Text
  details : List (Text × Detail)
deriving DecidableEq, Repr

end ColumnTypes.Log
