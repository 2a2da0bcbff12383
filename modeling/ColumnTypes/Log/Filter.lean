import ColumnTypes.Log.Event
import ColumnTypes.Text.Blank

/-!
Which events are logged. A filter is a list of rules, each for the targets that begin with a text. The
longest such text decides, of equal ones the last; a target that no rule is for is not logged.
-/

namespace ColumnTypes.Log

/-- The least severe events that are logged; none if it is absent. -/
abbrev Threshold := Option Severity

def Threshold.admits (threshold : Threshold) (severity : Severity) : Bool :=
  match threshold with
  | none => false
  | some least => least.rank ≤ severity.rank

structure Rule where
  target : Text
  threshold : Threshold
deriving DecidableEq, Repr

abbrev Filter := List Rule

namespace Filter

def all (threshold : Threshold) : Filter := [⟨[], threshold⟩]

/-- The more specific rule, the later one if both are for the same target. -/
def moreSpecific (best : Option Rule) (next : Rule) : Option Rule :=
  match best with
  | none => some next
  | some rule => if rule.target.length ≤ next.target.length then some next else some rule

def ruleFor? (filter : Filter) (target : Text) : Option Rule :=
  (filter.filter (·.target.isPrefixOf target)).foldl moreSpecific none

def admits (filter : Filter) (event : Event) : Bool :=
  match filter.ruleFor? event.target with
  | none => false
  | some rule => rule.threshold.admits event.severity

def thresholds : List Threshold :=
  [none, some .error, some .warn, some .info, some .debug, some .trace]

def thresholdNames : List (Text × Threshold) :=
  [("off", none), ("error", some .error), ("warn", some .warn), ("info", some .info),
    ("debug", some .debug), ("trace", some .trace)]

/-- The threshold of a name in any case, or of a number with an optional plus sign. -/
def threshold? (text : Text) : Option Threshold :=
  match Text.toNat? ((Text.dropStart? "+" text).getD text) with
  | some n => thresholds[n]?
  | none => thresholdNames.lookup (text.map Char.toLower)

def startsRule (c : Char) : Bool := c.isAlphanum || c = '-' || c = ':' || c = '_'

/-- A rule written as a threshold, as a target, or as both around an equals sign. A target alone admits
everything. -/
def rule? (text : Text) : Option Rule :=
  if text.head?.any startsRule then
    match threshold? text with
    | some threshold => some ⟨[], threshold⟩
    | none =>
      match Text.splitFirst? '=' text with
      | none => some ⟨text, some .trace⟩
      | some (target, []) => some ⟨target, some .trace⟩
      | some (target, name) => (threshold? name).map fun threshold => ⟨target, threshold⟩
  else none

/-- A filter written as rules between commas. Without any rule only errors are logged; with a rule that
cannot be read there is no filter. Rules for spans and their fields, in brackets and braces, are not read. -/
def read? (text : Text) : Option Filter :=
  let parts := (text.splitOn ',').filter fun part => !part.isEmpty
  if parts.isEmpty then some (all (some .error)) else parts.mapM (rule? ∘ Text.trim)

end Filter

end ColumnTypes.Log
