import ColumnTypes.Text.Basic

/-!
Nesting of round parentheses. The depth of a text rises by one at `(`, falls by one at `)` and may
be negative. A text is balanced if its depth never falls below zero and ends at zero.
-/

namespace ColumnTypes.Text

def depthStep (depth : Int) (c : Char) : Int :=
  if c = '(' then depth + 1 else if c = ')' then depth - 1 else depth

/-- The depth at the end of `text`, counted from `depth`. -/
def depthFrom (depth : Int) (text : Text) : Int := text.foldl depthStep depth

/-- Whether the depth, counted from `depth`, stays at zero or above throughout `text`. -/
def neverBelowFrom (depth : Int) : Text → Bool
  | [] => true
  | c :: rest => 0 ≤ depthStep depth c && neverBelowFrom (depthStep depth c) rest

/-- Whether every `)` closes an earlier `(`, counted from `depth`, and nothing is left open. -/
def isBalancedFrom (depth : Int) : Text → Bool
  | [] => depth == 0
  | c :: rest => 0 ≤ depthStep depth c && isBalancedFrom (depthStep depth c) rest

def isBalanced (text : Text) : Bool := isBalancedFrom 0 text

end ColumnTypes.Text
