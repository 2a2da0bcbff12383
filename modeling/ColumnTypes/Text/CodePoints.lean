import ColumnTypes.Text.Basic

/-!
Sets of characters given by ascending ranges of code points, both ends included.
-/

namespace ColumnTypes

namespace CodePoints

/-- Whether ranges ascend without touching. -/
def isAscending : List (Nat × Nat) → Bool
  | [] => true
  | [(first, last)] => first ≤ last
  | (first, last) :: (first', last') :: rest =>
    first ≤ last && last + 1 < first' && isAscending ((first', last') :: rest)

/-- Whether a code point lies in one of the ranges. The search ends at a range that begins after it. -/
def coveredBy (n : Nat) : List (Nat × Nat) → Bool
  | [] => false
  | (first, last) :: rest => first ≤ n && (n ≤ last || coveredBy n rest)

variable {n : Nat} {range : Nat × Nat} {rest : List (Nat × Nat)}

theorem isAscending_of_cons (h : isAscending (range :: rest)) : isAscending rest := by
  cases rest with
  | nil => rfl
  | cons next later => exact (Bool.and_eq_true_iff.1 h).2

theorem le_of_isAscending_cons (h : isAscending (range :: rest)) : ∀ later ∈ rest, range.1 ≤ later.1 := by
  induction rest generalizing range with
  | nil => simp
  | cons next rest ih =>
    have hn : range.1 ≤ next.1 := by
      simp only [isAscending, Bool.and_eq_true, decide_eq_true_eq] at h
      omega
    refine List.forall_mem_cons.2 ⟨hn, fun later hl => Nat.le_trans hn ?_⟩
    exact ih (isAscending_of_cons h) later hl

theorem coveredBy_iff {ranges : List (Nat × Nat)} (h : isAscending ranges) :
    coveredBy n ranges ↔ ∃ range ∈ ranges, range.1 ≤ n ∧ n ≤ range.2 := by
  induction ranges with
  | nil => simp [coveredBy]
  | cons range rest ih =>
    have hl := le_of_isAscending_cons h
    simp only [coveredBy, Bool.and_eq_true, Bool.or_eq_true, decide_eq_true_eq, ih (isAscending_of_cons h),
      List.mem_cons, exists_eq_or_imp]
    constructor
    · rintro ⟨hf, hn | he⟩
      · exact .inl ⟨hf, hn⟩
      · exact .inr he
    · rintro (⟨hf, hn⟩ | ⟨later, hm, hf, hn⟩)
      · exact ⟨hf, .inl hn⟩
      · exact ⟨Nat.le_trans (hl later hm) hf, .inr ⟨later, hm, hf, hn⟩⟩

end CodePoints

structure CodePoints where
  ranges : List (Nat × Nat)
  ascending : CodePoints.isAscending ranges := by decide +kernel

namespace CodePoints

def covers (points : CodePoints) (n : Nat) : Bool := coveredBy n points.ranges

/-- The search misses no range, since the ranges ascend. -/
theorem covers_iff (points : CodePoints) (n : Nat) :
    points.covers n ↔ ∃ range ∈ points.ranges, range.1 ≤ n ∧ n ≤ range.2 :=
  coveredBy_iff points.ascending

end CodePoints

end ColumnTypes
