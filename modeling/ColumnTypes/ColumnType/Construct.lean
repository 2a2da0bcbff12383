import ColumnTypes.ColumnType.Basic
import ColumnTypes.ColumnType.Malformed

/-!
Parameterised types and what their parameters may be. A construct is told by its opening, a keyword
with its parenthesis. Where several openings fit, the longest wins, so the order of the table is of no
account. Reading the parameters of one construct yields either a finished type or the texts of the
types inside; it never looks into those.
-/

namespace ColumnTypes

/-- What the outermost level of a type's text amounts to: a finished type, or the texts of its parts. -/
inductive Level where
  | whole (type : ColumnType)
  | array (element : Text)
  | tuple (elements : List Text)
  | map (key value : Text)
  | nullable (inner : Text)
deriving Repr

def Level.parts : Level → List Text
  | whole _ => []
  | array element => [element]
  | tuple elements => elements
  | map key value => [key, value]
  | nullable inner => [inner]

inductive Keyword where
  | dateTime64
  | decimal
  | decimal256
  | fixedString
  | array
  | tuple
  | map
  | nullable
deriving DecidableEq, Repr

structure Construct where
  opening : Text
  keyword : Keyword
deriving DecidableEq, Repr

def constructs : List Construct :=
  [⟨"DateTime64(", .dateTime64⟩, ⟨"Decimal(", .decimal⟩, ⟨"Decimal256(", .decimal256⟩,
    ⟨"FixedString(", .fixedString⟩, ⟨"Array(", .array⟩, ⟨"Tuple(", .tuple⟩, ⟨"Map(", .map⟩,
    ⟨"Nullable(", .nullable⟩]

/-- The longer opening of the two, the later one if they are equally long. -/
def Construct.longer (best : Option Construct) (next : Construct) : Option Construct :=
  match best with
  | none => some next
  | some c => if c.opening.length ≤ next.opening.length then some next else some c

def Construct.longest? (table : List Construct) (text : Text) : Option Construct :=
  (table.filter (·.opening.isPrefixOf text)).foldl Construct.longer none

/-- A run of ASCII digits, leading zeros allowed, of value below `bound`. -/
def readUnsigned (quantity : Quantity) (bound : Nat) (text : Text) :
    Except MalformedType (Fin bound) :=
  match text.toNat? with
  | none => .error ⟨text, .notANumber quantity⟩
  | some n => if h : n < bound then .ok ⟨n, h⟩ else .error ⟨text, .outOfRange quantity⟩

def readDecimal (keyword inner : Text) : Except MalformedType (UInt32 × UInt32) :=
  match inner.splitFirst? ',' with
  | none => .error ⟨inner, .decimalParameters keyword⟩
  | some (precision, scale) => do
    let precision ← readUnsigned .precision UInt32.size precision
    let scale ← readUnsigned .scale UInt32.size scale
    return (.ofFin precision, .ofFin scale)

/-- One ASCII digit. -/
def readPrecision (code : Text) : Except MalformedType UInt8 :=
  match code with
  | [c] =>
    if c.isDigit then .ok (UInt8.ofNat (c.toNat - '0'.toNat))
    else .error ⟨code, .timestampPrecision⟩
  | _ => .error ⟨code, .timestampPrecision⟩

/-- A precision and perhaps a timezone. The timezone is opaque, so the balance of its parentheses is
checked here. -/
def readTimestamp (inner : Text) : Except MalformedType ColumnType :=
  if inner.isBalanced then
    match Text.padded ',' 2 inner with
    | .error surplus => .error ⟨inner, .timestampSurplus surplus⟩
    | .ok [code, timezone] => do
      let precision ← readPrecision (code.getD [])
      if timezone = some [] then .error ⟨inner, .timestampTimezone⟩
      else return .dateTime64 precision timezone
    | .ok _ => .error ⟨inner, .timestampParameters⟩
  else .error ⟨inner, .unbalanced⟩

def Keyword.level (keyword : Keyword) (inner : Text) : Except MalformedType Level :=
  match keyword with
  | .dateTime64 => .whole <$> readTimestamp inner
  | .decimal => (fun (p, s) => .whole (.decimal p s)) <$> readDecimal "Decimal" inner
  | .decimal256 => (fun (p, s) => .whole (.decimal256 p s)) <$> readDecimal "Decimal256" inner
  | .fixedString =>
    (fun n => .whole (.fixedString (.ofFin n))) <$> readUnsigned .length UInt64.size inner
  | .array => .ok (.array inner)
  | .tuple => .ok (.tuple (Text.segments ',' inner))
  | .map =>
    match Text.segments ',' inner with
    | [key, value] => .ok (.map key value)
    | segments => .error ⟨inner, .mapParameters segments.length⟩
  | .nullable => .ok (.nullable inner)

theorem Level.parts_eq_nil_of_whole {α : Type} {f : α → ColumnType} {read : Except MalformedType α}
    {level : Level} (h : (fun a => whole (f a)) <$> read = .ok level) : level.parts = [] := by
  cases read with
  | error e => cases h
  | ok a => cases h; rfl

theorem Keyword.length_le_of_mem_parts {keyword : Keyword} {inner part : Text} {level : Level}
    (h : keyword.level inner = .ok level) (hp : part ∈ level.parts) : part.length ≤ inner.length := by
  cases keyword with
  | array | nullable => cases h; simp_all [Level.parts]
  | tuple => cases h; exact Text.length_le_of_mem_segments hp
  | map =>
    simp only [Keyword.level] at h
    split at h
    · rename_i key value hs
      cases h
      rw [Level.parts, ← hs] at hp
      exact Text.length_le_of_mem_segments hp
    · cases h
  | dateTime64 | decimal | decimal256 | fixedString =>
    rw [Level.parts_eq_nil_of_whole h] at hp
    cases hp

end ColumnTypes
