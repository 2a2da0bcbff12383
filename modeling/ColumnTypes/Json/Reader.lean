import ColumnTypes.Json.Token

/-!
Reading a JSON text: its tokens are read as one value with nothing left over. The bound on nested calls
is twice the number of tokens, which no value reaches.
-/

namespace ColumnTypes.Json

mutual

def value? : Nat → List Token → Option (Json × List Token)
  | 0, _ => none
  | _, .null :: rest => some (.null, rest)
  | _, .boolean b :: rest => some (.boolean b, rest)
  | _, .integer n :: rest => some (.integer n, rest)
  | _, .real spelling :: rest => some (.real spelling, rest)
  | _, .string text :: rest => some (.string text, rest)
  | _, .leftBracket :: .rightBracket :: rest => some (.array [], rest)
  | _, .leftBrace :: .rightBrace :: rest => some (.object [], rest)
  | n + 1, .leftBracket :: rest => (items? n rest).map fun (items, rest) => (.array items, rest)
  | n + 1, .leftBrace :: rest => (members? n rest).map fun (members, rest) => (.object members, rest)
  | _, _ => none

/-- The items up to a closing bracket; there is at least one. -/
def items? : Nat → List Token → Option (List Json × List Token)
  | 0, _ => none
  | n + 1, tokens =>
    match value? n tokens with
    | some (value, .rightBracket :: rest) => some ([value], rest)
    | some (value, .comma :: rest) => (items? n rest).map fun (items, rest) => (value :: items, rest)
    | _ => none

/-- The members up to a closing brace; there is at least one. -/
def members? : Nat → List Token → Option (List (Text × Json) × List Token)
  | n + 1, .string key :: .colon :: tokens =>
    match value? n tokens with
    | some (value, .rightBrace :: rest) => some ([(key, value)], rest)
    | some (value, .comma :: rest) =>
      (members? n rest).map fun (members, rest) => ((key, value) :: members, rest)
    | _ => none
  | _, _ => none

end

def read? (text : Text) : Option Json :=
  match Token.all? text with
  | none => none
  | some tokens =>
    match value? (2 * tokens.length + 1) tokens with
    | some (value, []) => some value
    | _ => none

end ColumnTypes.Json
