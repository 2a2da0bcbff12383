import ColumnTypes.ColumnType.Parser
import ColumnTypes.Proofs.Nesting

/-!
What the scan ahead of reading reports. It counts without a sign and stops at the first fault, so it agrees
with the balance of a text as long as the limit is kept, and of two faults the earlier one is reported.
-/

namespace ColumnTypes

open Text

variable {text : Text}

namespace Text

variable {depth limit : Int}

/-- Counted from `depth`, at some point of `text` one parenthesis more than `limit` is open, and at no
earlier point more had been closed than opened. -/
def OvernestsFrom (depth limit : Int) (text : Text) : Prop :=
  ∃ before, before <+: text ∧ depthFrom depth before = limit + 1 ∧
    ∀ shorter, shorter <+: before → shorter ≠ before → 0 ≤ depthFrom depth shorter

def Overnests (limit : Int) (text : Text) : Prop := OvernestsFrom 0 limit text

theorem overnestsFrom_of_eq (h : depth = limit + 1) (text : Text) : OvernestsFrom depth limit text := by
  refine ⟨[], List.nil_prefix, h, fun shorter hs hne => ?_⟩
  exact absurd (List.prefix_nil.1 hs) hne

theorem not_overnestsFrom_of_neg (hl : 0 ≤ limit) (hd : depth < 0) : ¬OvernestsFrom depth limit text := by
  rintro ⟨before, -, hb, hs⟩
  have hne : [] ≠ before := by
    rintro rfl
    rw [depthFrom_nil] at hb
    omega
  have hn : 0 ≤ depth := hs [] List.nil_prefix hne
  omega

theorem not_overnestsFrom_nil (hd : depth ≤ limit) : ¬OvernestsFrom depth limit [] := by
  rintro ⟨before, hp, hb, -⟩
  rw [List.prefix_nil.1 hp, depthFrom_nil] at hb
  omega

theorem overnestsFrom_cons {c : Char} (hn : 0 ≤ depth) (hd : depth ≤ limit) :
    OvernestsFrom depth limit (c :: text) ↔ OvernestsFrom (depthStep depth c) limit text := by
  constructor
  · rintro ⟨before, hp, hb, hs⟩
    rcases List.prefix_cons_iff.1 hp with rfl | ⟨rest, rfl, hr⟩
    · rw [depthFrom_nil] at hb
      omega
    · refine ⟨rest, hr, hb, fun shorter hp hne => ?_⟩
      exact hs (c :: shorter) (List.cons_prefix_cons.2 ⟨rfl, hp⟩) (by simpa using hne)
  · rintro ⟨rest, hr, hb, hs⟩
    refine ⟨c :: rest, List.cons_prefix_cons.2 ⟨rfl, hr⟩, hb, fun shorter hp hne => ?_⟩
    rcases List.prefix_cons_iff.1 hp with rfl | ⟨later, rfl, hl⟩
    · exact hn
    · exact hs later hl (by simpa using hne)

end Text

/-! ### The faults that the scan reports -/

variable {depth : Nat}

/-- The count without a sign is the depth, as long as there is no fault. -/
theorem nestingFault?_cons (hd : depth ≤ nestingLimit) (c : Char) (rest : Text) :
    nestingFault? depth (c :: rest) =
      if nestingLimit < depthStep depth c then some .tooDeep
      else if depthStep depth c < 0 then some .unbalanced
      else nestingFault? (depthStep depth c).toNat rest := by
  by_cases ho : c = '('
  · subst ho
    have hl : (nestingLimit : Int) < depth + 1 ↔ nestingLimit < depth + 1 := by omega
    have hn : ¬(depth : Int) + 1 < 0 := by omega
    have hs : ((depth : Int) + 1).toNat = depth + 1 := rfl
    simp only [depthStep_open, nestingFault?, hl, hn, hs, if_true, if_false, gt_iff_lt]
  · by_cases hc : c = ')'
    · subst hc
      have hl : ¬(nestingLimit : Int) < depth - 1 := by omega
      rw [depthStep_close, if_neg hl]
      cases depth with
      | zero => rfl
      | succ depth =>
        have hn : ¬((depth + 1 : Nat) : Int) - 1 < 0 := by omega
        have hs : (((depth + 1 : Nat) : Int) - 1).toNat = depth := by omega
        rw [if_neg hn, hs]
        rfl
    · have hl : ¬(nestingLimit : Int) < depth := by omega
      have hn : ¬(depth : Int) < 0 := by omega
      rw [depthStep_of_ne ho hc, if_neg hl, if_neg hn, Int.toNat_natCast]
      simp [nestingFault?, ho, hc]

theorem nestingFault?_eq_none_iff (hd : depth ≤ nestingLimit) :
    nestingFault? depth text = none ↔
      isBalancedFrom depth text ∧ NestsWithinFrom depth nestingLimit text := by
  induction text generalizing depth with
  | nil =>
    rw [nestingFault?, isBalancedFrom, nestsWithinFrom_nil]
    simp
    omega
  | cons c rest ih =>
    rw [nestingFault?_cons hd, isBalancedFrom, nestsWithinFrom_cons, Bool.and_eq_true, decide_eq_true_eq]
    split_ifs with ht hn
    · have hno : ¬NestsWithinFrom (depthStep depth c) nestingLimit rest :=
        fun h => absurd h.start (Int.not_le.2 ht)
      simp [hno]
    · simp [Int.not_le.2 hn]
    · have hs : (((depthStep depth c).toNat : Nat) : Int) = depthStep depth c := by omega
      have hl : (depth : Int) ≤ nestingLimit := by omega
      rw [ih (by omega), hs]
      simp [Int.not_lt.1 hn, hl]

/-- The scan finds a text too deep exactly if the limit is passed before anything else is wrong. -/
theorem nestingFault?_eq_tooDeep_iff (hd : depth ≤ nestingLimit) :
    nestingFault? depth text = some .tooDeep ↔ OvernestsFrom depth nestingLimit text := by
  induction text generalizing depth with
  | nil =>
    have hn : ¬OvernestsFrom depth nestingLimit [] := not_overnestsFrom_nil (by omega)
    rw [nestingFault?]
    split_ifs <;> simp [hn]
  | cons c rest ih =>
    rw [nestingFault?_cons hd, overnestsFrom_cons (by omega) (by omega)]
    split_ifs with ht hn
    · have hs : depthStep depth c ≤ depth + 1 := depthStep_le depth c
      have he : depthStep depth c = nestingLimit + 1 := by omega
      simp [overnestsFrom_of_eq he rest]
    · have hno : ¬OvernestsFrom (depthStep depth c) nestingLimit rest :=
        not_overnestsFrom_of_neg (by omega) hn
      simp [hno]
    · have hs : (((depthStep depth c).toNat : Nat) : Int) = depthStep depth c := by omega
      rw [ih (by omega), hs]

theorem nestingFault?_cases {fault : TypeFault} (hd : depth ≤ nestingLimit)
    (h : nestingFault? depth text = some fault) : fault = .tooDeep ∨ fault = .unbalanced := by
  induction text generalizing depth with
  | nil =>
    rw [nestingFault?] at h
    split_ifs at h
    exact .inr (Option.some.inj h).symm
  | cons c rest ih =>
    rw [nestingFault?_cons hd] at h
    split_ifs at h with ht hn
    · exact .inl (Option.some.inj h).symm
    · exact .inr (Option.some.inj h).symm
    · exact ih (by omega) h

/-- Only unbalanced text is reported as unbalanced. -/
theorem not_isBalancedFrom_of_unbalanced (hd : depth ≤ nestingLimit)
    (h : nestingFault? depth text = some .unbalanced) : ¬isBalancedFrom depth text := by
  induction text generalizing depth with
  | nil =>
    rw [nestingFault?] at h
    rw [isBalancedFrom]
    split_ifs at h with hz
    simpa using hz
  | cons c rest ih =>
    rw [nestingFault?_cons hd] at h
    rw [isBalancedFrom, Bool.and_eq_true, decide_eq_true_eq]
    split_ifs at h with ht hn
    · cases h
    · omega
    · have hs : (((depthStep depth c).toNat : Nat) : Int) = depthStep depth c := by omega
      have hr := ih (by omega) h
      rw [hs] at hr
      exact fun hb => hr hb.2

/-- The scan lets pass what is balanced and nested within the limit. -/
theorem checkNesting_eq_ok_iff :
    checkNesting text = .ok () ↔ isBalanced text ∧ NestsWithin nestingLimit text := by
  have h : nestingFault? 0 text = none ↔ isBalanced text ∧ NestsWithin nestingLimit text :=
    nestingFault?_eq_none_iff (Nat.zero_le nestingLimit)
  rw [← h, checkNesting]
  cases nestingFault? 0 text <;> simp

theorem checkNesting_eq_error_iff {fault : TypeFault} :
    checkNesting text = .error ⟨text, fault⟩ ↔ nestingFault? 0 text = some fault := by
  rw [checkNesting]
  cases nestingFault? 0 text <;> simp

theorem checkNesting_eq_tooDeep_iff :
    checkNesting text = .error ⟨text, .tooDeep⟩ ↔ Overnests nestingLimit text :=
  checkNesting_eq_error_iff.trans (nestingFault?_eq_tooDeep_iff (Nat.zero_le nestingLimit))

/-- The scan has three outcomes. -/
theorem checkNesting_cases (text : Text) :
    checkNesting text = .ok () ∨ checkNesting text = .error ⟨text, .tooDeep⟩ ∨
      checkNesting text = .error ⟨text, .unbalanced⟩ := by
  simp only [checkNesting_eq_error_iff]
  cases h : nestingFault? 0 text with
  | none => simp [checkNesting, h]
  | some fault =>
    rcases nestingFault?_cases (Nat.zero_le nestingLimit) h with rfl | rfl
    · simp
    · simp

theorem not_isBalanced_of_checkNesting (h : checkNesting text = .error ⟨text, .unbalanced⟩) :
    ¬isBalanced text :=
  not_isBalancedFrom_of_unbalanced (Nat.zero_le nestingLimit) (checkNesting_eq_error_iff.1 h)

/-- The scan lets pass what is balanced and never has more than 256 parentheses open. It finds a text too
deep exactly if 257 are open at some point before which none was closed too many, and unbalanced in all
other cases. Both faults are reported of the whole text. -/
theorem scan_reports_earlier_fault (text : Text) :
    (checkNesting text = .ok () ↔ isBalanced text ∧ NestsWithin 256 text) ∧
      (checkNesting text = .error ⟨text, .tooDeep⟩ ↔ Overnests 256 text) ∧
      (checkNesting text = .error ⟨text, .unbalanced⟩ ↔
        ¬(isBalanced text ∧ NestsWithin 256 text) ∧ ¬Overnests 256 text) := by
  have hok : checkNesting text = .ok () ↔ isBalanced text ∧ NestsWithin 256 text :=
    checkNesting_eq_ok_iff
  have hdeep : checkNesting text = .error ⟨text, .tooDeep⟩ ↔ Overnests 256 text :=
    checkNesting_eq_tooDeep_iff
  refine ⟨hok, hdeep, ?_⟩
  rw [← hok, ← hdeep]
  rcases checkNesting_cases text with h | h | h <;> simp [h]

end ColumnTypes
