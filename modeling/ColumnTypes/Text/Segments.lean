import ColumnTypes.Text.Nesting

/-!
Two ways to split a parameter list. `segments` cuts at the separators outside parentheses and keeps
every other character, so the segments joined by the separator are the text again. `padded` cuts at
every separator and fills up to a fixed number of entries with absent ones.
-/

namespace ColumnTypes.Text

def consFirst (c : Char) : List Text → List Text
  | [] => [[c]]
  | segment :: later => (c :: segment) :: later

/-- Whether `c`, met at `depth`, ends a segment. A parenthesis never does. -/
def isBreak (separator : Char) (depth : Int) (c : Char) : Bool :=
  c == separator && c != '(' && c != ')' && depth == 0

/-- The segments of a text whose first character stands at `depth`. -/
def segmentsFrom (separator : Char) (depth : Int) : Text → List Text
  | [] => [[]]
  | c :: rest =>
    if isBreak separator depth c then [] :: segmentsFrom separator depth rest
    else consFirst c (segmentsFrom separator (depthStep depth c) rest)

/-- The segments between the separators at depth zero, neither trimmed nor checked for balance. -/
def segments (separator : Char) (text : Text) : List Text := segmentsFrom separator 0 text

structure Surplus where
  expected : Nat
  found : Nat
deriving DecidableEq, Repr

def Surplus.message (s : Surplus) : Text :=
  "expected at most " ++ ofNat s.expected ++ " parameters, found " ++ ofNat s.found

/-- The pieces between all separators, whatever the nesting, filled up to `arity` entries. -/
def padded (separator : Char) (arity : Nat) (text : Text) : Except Surplus (List (Option Text)) :=
  let pieces := text.splitOn separator
  if arity < pieces.length then .error ⟨arity, pieces.length⟩
  else .ok (pieces.map some ++ List.replicate (arity - pieces.length) none)

theorem length_le_of_mem_segmentsFrom {separator : Char} {depth : Int} {text segment : Text}
    (h : segment ∈ segmentsFrom separator depth text) : segment.length ≤ text.length := by
  induction text generalizing depth segment with
  | nil => simp_all [segmentsFrom]
  | cons c rest ih =>
    rw [segmentsFrom] at h
    split at h
    · rcases List.mem_cons.1 h with rfl | h
      · simp
      · exact Nat.le_succ_of_le (ih h)
    · cases hs : segmentsFrom separator (depthStep depth c) rest with
      | nil => simp_all [consFirst]
      | cons first later =>
        simp only [hs, consFirst, List.mem_cons] at h
        rcases h with rfl | h
        · simpa using ih (hs ▸ List.mem_cons_self)
        · exact Nat.le_succ_of_le (ih (hs ▸ List.mem_cons_of_mem _ h))

theorem length_le_of_mem_segments {separator : Char} {text segment : Text}
    (h : segment ∈ segments separator text) : segment.length ≤ text.length :=
  length_le_of_mem_segmentsFrom h

end ColumnTypes.Text
