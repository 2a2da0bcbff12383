import ColumnTypes.Text.Blank
import ColumnTypes.Text.Nesting
import Mathlib.Data.List.Infix
import Mathlib.Data.List.TakeWhile
import Mathlib.Tactic.SplitIfs

/-!
How the depth of a text is made up from the depths of its parts. A balanced piece leaves the depth as
it is, a pair of parentheses around a text raises every depth inside by one, and blanks do not count.
-/

namespace ColumnTypes.Text

variable {a b text inner opening : Text} {c : Char} {depth limit : Int}

theorem depthStep_of_ne (ho : c ≠ '(') (hc : c ≠ ')') : depthStep depth c = depth := by
  simp [depthStep, ho, hc]

theorem depthStep_open (depth : Int) : depthStep depth '(' = depth + 1 := rfl

theorem depthStep_close (depth : Int) : depthStep depth ')' = depth - 1 := rfl

theorem le_depthStep (depth : Int) (c : Char) : depth - 1 ≤ depthStep depth c := by
  unfold depthStep
  split_ifs <;> omega

theorem depthStep_le (depth : Int) (c : Char) : depthStep depth c ≤ depth + 1 := by
  unfold depthStep
  split_ifs <;> omega

theorem depthStep_add (depth k : Int) (c : Char) :
    depthStep (depth + k) c = depthStep depth c + k := by
  unfold depthStep
  split_ifs <;> omega

@[simp] theorem depthFrom_nil (depth : Int) : depthFrom depth [] = depth := rfl

@[simp] theorem depthFrom_cons (depth : Int) (c : Char) (text : Text) :
    depthFrom depth (c :: text) = depthFrom (depthStep depth c) text := rfl

@[simp] theorem depthFrom_append (depth : Int) (a b : Text) :
    depthFrom depth (a ++ b) = depthFrom (depthFrom depth a) b := List.foldl_append

theorem depthFrom_add (depth k : Int) (text : Text) :
    depthFrom (depth + k) text = depthFrom depth text + k := by
  induction text generalizing depth with
  | nil => rfl
  | cons c rest ih => rw [depthFrom_cons, depthStep_add, ih, depthFrom_cons]

theorem depthFrom_open_cons (text : Text) : depthFrom 0 ('(' :: text) = depthFrom 0 text + 1 := by
  rw [depthFrom_cons, depthStep_open, depthFrom_add]

theorem depthFrom_eq_add (depth : Int) (text : Text) :
    depthFrom depth text = depthFrom 0 text + depth := by
  simpa using depthFrom_add 0 depth text

@[simp] theorem neverBelowFrom_nil (depth : Int) : neverBelowFrom depth [] = true := rfl

@[simp] theorem neverBelowFrom_cons (depth : Int) (c : Char) (text : Text) :
    neverBelowFrom depth (c :: text) =
      (decide (0 ≤ depthStep depth c) && neverBelowFrom (depthStep depth c) text) := rfl

theorem neverBelowFrom_append (depth : Int) (a b : Text) :
    neverBelowFrom depth (a ++ b) = (neverBelowFrom depth a && neverBelowFrom (depthFrom depth a) b) := by
  induction a generalizing depth with
  | nil => simp
  | cons c rest ih => simp [ih, Bool.and_assoc]

/-- A text that never closes too much does not do so within deeper nesting. -/
theorem neverBelowFrom_add {k : Int} (hk : 0 ≤ k) (h : neverBelowFrom depth text) :
    neverBelowFrom (depth + k) text := by
  induction text generalizing depth with
  | nil => rfl
  | cons c rest ih =>
    simp only [neverBelowFrom_cons, Bool.and_eq_true, decide_eq_true_eq] at h ⊢
    rw [depthStep_add]
    exact ⟨by omega, ih h.2⟩

theorem depthFrom_nonneg (hd : 0 ≤ depth) (h : neverBelowFrom depth text) :
    0 ≤ depthFrom depth text := by
  induction text generalizing depth with
  | nil => exact hd
  | cons c rest ih =>
    simp only [neverBelowFrom_cons, Bool.and_eq_true, decide_eq_true_eq] at h
    exact ih h.1 h.2

/-- On its way below zero the depth passes minus one. -/
theorem neverBelowFrom_of_ne (hd : 0 ≤ depth)
    (h : ∀ before, before <+: text → depthFrom depth before ≠ -1) : neverBelowFrom depth text := by
  induction text generalizing depth with
  | nil => rfl
  | cons c rest ih =>
    have hne : depthStep depth c ≠ -1 := h [c] (List.cons_prefix_cons.2 ⟨rfl, List.nil_prefix⟩)
    have hs : depth - 1 ≤ depthStep depth c := le_depthStep depth c
    have hn : 0 ≤ depthStep depth c := by omega
    have hr := ih hn fun before hb => h (c :: before) (List.cons_prefix_cons.2 ⟨rfl, hb⟩)
    simp [hn, hr]

theorem neverBelowFrom_iff (hd : 0 ≤ depth) :
    neverBelowFrom depth text ↔ ∀ before, before <+: text → 0 ≤ depthFrom depth before := by
  constructor
  · rintro h before ⟨after, rfl⟩
    rw [neverBelowFrom_append, Bool.and_eq_true] at h
    exact depthFrom_nonneg hd h.1
  · intro h
    refine neverBelowFrom_of_ne hd fun before hb => ?_
    have hn : 0 ≤ depthFrom depth before := h before hb
    omega

/-! ### Balance -/

theorem isBalancedFrom_eq (depth : Int) (text : Text) :
    isBalancedFrom depth text = (neverBelowFrom depth text && depthFrom depth text == 0) := by
  induction text generalizing depth with
  | nil => simp [isBalancedFrom]
  | cons c rest ih => simp [isBalancedFrom, ih, Bool.and_assoc]

theorem isBalanced_iff : isBalanced text ↔ neverBelowFrom 0 text ∧ depthFrom 0 text = 0 := by
  simp [isBalanced, isBalancedFrom_eq]

/-- A balanced text leaves the depth as it is. -/
theorem depthFrom_of_isBalanced (h : isBalanced text) (depth : Int) : depthFrom depth text = depth := by
  rw [depthFrom_eq_add, (isBalanced_iff.1 h).2, Int.zero_add]

theorem isBalanced_append_iff (ha : depthFrom 0 a = 0) :
    isBalanced (a ++ b) ↔ isBalanced a ∧ isBalanced b := by
  simp only [isBalanced_iff, neverBelowFrom_append, depthFrom_append, ha, Bool.and_eq_true]
  tauto

theorem isBalanced_append_right (hb : isBalanced b) : isBalanced (a ++ b) ↔ isBalanced a := by
  simp only [isBalanced_iff, neverBelowFrom_append, depthFrom_append, depthFrom_of_isBalanced hb,
    Bool.and_eq_true]
  constructor
  · exact fun h => ⟨h.1.1, h.2⟩
  · rintro ⟨hn, hz⟩
    rw [hz]
    exact ⟨⟨hn, (isBalanced_iff.1 hb).1⟩, rfl⟩

/-! ### Text without parentheses -/

/-- A text without parentheses. -/
def Flat (text : Text) : Prop := ∀ c ∈ text, c ≠ '(' ∧ c ≠ ')'

instance : Decidable (Flat text) := List.decidableBAll (fun c => c ≠ '(' ∧ c ≠ ')') text

theorem Flat.append (ha : Flat a) (hb : Flat b) : Flat (a ++ b) :=
  fun c hc => (List.mem_append.1 hc).elim (ha c) (hb c)

theorem depthFrom_of_flat (h : Flat text) (depth : Int) : depthFrom depth text = depth := by
  induction text with
  | nil => rfl
  | cons c rest ih =>
    obtain ⟨hc, hr⟩ := List.forall_mem_cons.1 h
    rw [depthFrom_cons, depthStep_of_ne hc.1 hc.2, ih hr]

theorem neverBelowFrom_of_flat (hd : 0 ≤ depth) (h : Flat text) : neverBelowFrom depth text := by
  induction text with
  | nil => rfl
  | cons c rest ih =>
    obtain ⟨hc, hr⟩ := List.forall_mem_cons.1 h
    simp [depthStep_of_ne hc.1 hc.2, hd, ih hr]

theorem isBalanced_of_flat (h : Flat text) : isBalanced text :=
  isBalanced_iff.2 ⟨neverBelowFrom_of_flat (Int.le_refl 0) h, depthFrom_of_flat h 0⟩

theorem isBalanced_append_flat (hb : Flat b) : isBalanced (a ++ b) ↔ isBalanced a :=
  isBalanced_append_right (isBalanced_of_flat hb)

/-! ### Text in parentheses -/

/-- A keyword together with the parenthesis after it. -/
def IsOpening (opening : Text) : Prop := opening.getLast? = some '(' ∧ Flat opening.dropLast

instance : Decidable (IsOpening opening) := inferInstanceAs (Decidable (_ ∧ _))

theorem IsOpening.exists_keyword (h : IsOpening opening) :
    ∃ keyword, Flat keyword ∧ opening = keyword ++ ['('] :=
  ⟨_, h.2, (List.dropLast_append_getLast? _ h.1).symm⟩

theorem IsOpening.depthFrom (h : IsOpening opening) (depth : Int) :
    depthFrom depth opening = depth + 1 := by
  obtain ⟨keyword, hk, rfl⟩ := h.exists_keyword
  rw [depthFrom_append, depthFrom_of_flat hk]
  rfl

theorem IsOpening.neverBelowFrom (h : IsOpening opening) (hd : 0 ≤ depth) :
    neverBelowFrom depth opening := by
  obtain ⟨keyword, hk, rfl⟩ := h.exists_keyword
  rw [neverBelowFrom_append, neverBelowFrom_of_flat hd hk, depthFrom_of_flat hk]
  simp [depthStep]
  omega

/-- An opening of a text is the text up to its first parenthesis. -/
theorem IsOpening.eq_takeWhile (ho : IsOpening opening) (hp : opening <+: text) :
    opening = text.takeWhile (· ≠ '(') ++ ['('] := by
  obtain ⟨keyword, hk, rfl⟩ := ho.exists_keyword
  obtain ⟨after, rfl⟩ := hp
  rw [List.append_assoc, List.takeWhile_append_of_pos (by simpa using fun c hc => (hk c hc).1)]
  simp

theorem depthFrom_call (ho : IsOpening opening) (inner : Text) (depth : Int) :
    depthFrom depth (opening ++ inner ++ ")") = depthFrom depth inner := by
  have h : depthFrom (depth + 1) inner = depthFrom depth inner + 1 := depthFrom_add depth 1 inner
  simp [ho.depthFrom, h, depthStep]

theorem isBalanced_call (ho : IsOpening opening) (hi : isBalanced inner) :
    isBalanced (opening ++ inner ++ ")") := by
  refine isBalanced_iff.2 ⟨?_, by rw [depthFrom_call ho, (isBalanced_iff.1 hi).2]⟩
  have hn : neverBelowFrom 1 inner := by
    simpa using neverBelowFrom_add Int.one_nonneg (isBalanced_iff.1 hi).1
  have hd : depthFrom 1 inner = 1 := depthFrom_of_isBalanced hi 1
  simp [neverBelowFrom_append, ho.neverBelowFrom, ho.depthFrom, hn, hd, depthStep]

/-! ### A limit on the depth -/

/-- At no point of `text` are more than `limit` parentheses open, counted from `depth`. -/
def NestsWithinFrom (depth limit : Int) (text : Text) : Prop :=
  ∀ before, before <+: text → depthFrom depth before ≤ limit

def NestsWithin (limit : Int) (text : Text) : Prop := NestsWithinFrom 0 limit text

theorem nestsWithinFrom_nil : NestsWithinFrom depth limit [] ↔ depth ≤ limit := by
  simp [NestsWithinFrom]

theorem nestsWithinFrom_cons :
    NestsWithinFrom depth limit (c :: text) ↔
      depth ≤ limit ∧ NestsWithinFrom (depthStep depth c) limit text := by
  constructor
  · intro h
    exact ⟨h [] (List.nil_prefix), fun before hb => h (c :: before) (List.cons_prefix_cons.2 ⟨rfl, hb⟩)⟩
  · rintro ⟨hd, h⟩ before hb
    rcases List.prefix_cons_iff.1 hb with rfl | ⟨rest, rfl, hr⟩
    · exact hd
    · exact h rest hr

theorem NestsWithinFrom.start (h : NestsWithinFrom depth limit text) : depth ≤ limit :=
  h [] List.nil_prefix

theorem NestsWithinFrom.finish (h : NestsWithinFrom depth limit text) : depthFrom depth text ≤ limit :=
  h text List.prefix_rfl

theorem nestsWithinFrom_append :
    NestsWithinFrom depth limit (a ++ b) ↔
      NestsWithinFrom depth limit a ∧ NestsWithinFrom (depthFrom depth a) limit b := by
  induction a generalizing depth with
  | nil =>
    rw [List.nil_append, nestsWithinFrom_nil, depthFrom_nil]
    exact ⟨fun h => ⟨h.start, h⟩, fun h => h.2⟩
  | cons c rest ih =>
    rw [List.cons_append, nestsWithinFrom_cons, ih, nestsWithinFrom_cons, depthFrom_cons, and_assoc]

theorem nestsWithinFrom_add (depth limit k : Int) (text : Text) :
    NestsWithinFrom (depth + k) (limit + k) text ↔ NestsWithinFrom depth limit text := by
  simp only [NestsWithinFrom, depthFrom_add, Int.add_le_add_iff_right]

theorem nestsWithinFrom_of_flat (h : Flat text) : NestsWithinFrom depth limit text ↔ depth ≤ limit := by
  refine ⟨NestsWithinFrom.start, ?_⟩
  rintro hd before ⟨after, rfl⟩
  rwa [depthFrom_of_flat fun c hc => h c (List.mem_append_left _ hc)]

/-- A pair of parentheses around a text takes one level of the limit. -/
theorem nestsWithin_call (ho : IsOpening opening) :
    NestsWithin limit (opening ++ inner ++ ")") ↔ NestsWithin (limit - 1) inner := by
  obtain ⟨keyword, hk, rfl⟩ := ho.exists_keyword
  have hi : NestsWithinFrom 1 limit inner ↔ NestsWithinFrom 0 (limit - 1) inner := by
    simpa using nestsWithinFrom_add 0 (limit - 1) 1 inner
  simp only [NestsWithin, nestsWithinFrom_append, nestsWithinFrom_of_flat hk, depthFrom_append,
    depthFrom_of_flat hk, nestsWithinFrom_cons, nestsWithinFrom_nil, ← hi]
  constructor
  · exact fun h => h.1.2
  · intro h
    have hs : 1 ≤ limit := h.start
    have he : depthFrom 1 inner ≤ limit := h.finish
    have hc : NestsWithinFrom (depthFrom 1 inner) limit [')'] :=
      nestsWithinFrom_cons.2 ⟨he, nestsWithinFrom_nil.2 (by simp only [depthStep_close]; omega)⟩
    exact ⟨⟨⟨by omega, by omega, hs⟩, h⟩, hc⟩

/-! ### Blanks -/

theorem Flat.of_blank (h : ∀ c ∈ text, isBlank c) : Flat text := by
  intro c hc
  constructor
  · rintro rfl
    exact absurd (h _ hc) (by decide)
  · rintro rfl
    exact absurd (h _ hc) (by decide)

theorem depthStep_of_isBlank (h : isBlank c) (depth : Int) : depthStep depth c = depth := by
  have hc : Flat [c] := Flat.of_blank (by simpa using h)
  exact depthFrom_of_flat hc depth

/-- A text without blanks. -/
def Blankless (text : Text) : Prop := ∀ c ∈ text, isBlank c = false

instance : Decidable (Blankless text) := List.decidableBAll (isBlank · = false) text

theorem Blankless.of_infix (h : Blankless b) (hi : a <:+: b) : Blankless a :=
  fun c hc => h c (hi.subset hc)

theorem Blankless.of_call (h : Blankless (opening ++ inner ++ ")")) : Blankless inner :=
  h.of_infix (List.infix_append _ _ _)

@[simp] theorem withoutBlanks_append (a b : Text) :
    withoutBlanks (a ++ b) = withoutBlanks a ++ withoutBlanks b := List.filter_append ..

theorem withoutBlanks_cons (c : Char) (text : Text) :
    withoutBlanks (c :: text) = if isBlank c then withoutBlanks text else c :: withoutBlanks text := by
  cases h : isBlank c <;> simp [withoutBlanks, h]

theorem withoutBlanks_of_blank (h : ∀ c ∈ text, isBlank c) : withoutBlanks text = [] :=
  List.filter_eq_nil_iff.2 fun c hc => by simp [h c hc]

theorem Blankless.withoutBlanks_eq (h : Blankless text) : withoutBlanks text = text :=
  List.filter_eq_self.2 fun c hc => by simp [h c hc]

theorem blankless_of_isDigit (h : ∀ c ∈ text, c.isDigit) : Blankless text := by
  intro c hc
  have hd := Char.isDigit_iff_toNat.1 (h c hc)
  simp only [Char.reduceToNat] at hd
  simp only [isBlank, Bool.or_eq_false_iff, Bool.and_eq_false_iff, decide_eq_false_iff_not,
    beq_eq_false_iff_ne]
  omega

theorem blankless_withoutBlanks (text : Text) : Blankless (withoutBlanks text) := by
  intro c hc
  simpa using (List.mem_filter.1 hc).2

theorem nestsWithinFrom_withoutBlanks (depth limit : Int) (text : Text) :
    NestsWithinFrom depth limit (withoutBlanks text) ↔ NestsWithinFrom depth limit text := by
  induction text generalizing depth with
  | nil => rfl
  | cons c rest ih =>
    rw [withoutBlanks_cons]
    split_ifs with hc
    · rw [ih, nestsWithinFrom_cons, depthStep_of_isBlank hc]
      exact ⟨fun h => ⟨h.start, h⟩, fun h => h.2⟩
    · rw [nestsWithinFrom_cons, nestsWithinFrom_cons, ih]

theorem isBalancedFrom_withoutBlanks (hd : 0 ≤ depth) (text : Text) :
    isBalancedFrom depth (withoutBlanks text) = isBalancedFrom depth text := by
  induction text generalizing depth with
  | nil => rfl
  | cons c rest ih =>
    rw [withoutBlanks_cons]
    split_ifs with hc
    · simp [isBalancedFrom, depthStep_of_isBlank hc, hd, ih hd]
    · by_cases hs : 0 ≤ depthStep depth c
      · simp [isBalancedFrom, ih hs]
      · simp [isBalancedFrom, hs]

theorem isBalanced_withoutBlanks (text : Text) : isBalanced (withoutBlanks text) = isBalanced text :=
  isBalancedFrom_withoutBlanks (Int.le_refl 0) text

/-- `content` is `text` less some blanks at its two ends. -/
def TrimsTo (text content : Text) : Prop :=
  ∃ before after, text = before ++ (content ++ after) ∧ (∀ c ∈ before, isBlank c) ∧
    ∀ c ∈ after, isBlank c

theorem trimsTo_trim (text : Text) : TrimsTo text (trim text) := by
  have hs : text = text.takeWhile isBlank ++ trimStart text := List.takeWhile_append_dropWhile.symm
  have he : trimStart text = trim text ++ ((trimStart text).reverse.takeWhile isBlank).reverse := by
    rw [trim, trimEnd, ← List.reverse_append, List.takeWhile_append_dropWhile, List.reverse_reverse]
  refine ⟨_, _, hs.trans (by rw [← he]), fun _ => List.mem_takeWhile_imp, fun c hc => ?_⟩
  exact List.mem_takeWhile_imp (List.mem_reverse.1 hc)

theorem isBalanced_trim (text : Text) : isBalanced (trim text) ↔ isBalanced text := by
  obtain ⟨before, after, ht, hb, ha⟩ := trimsTo_trim text
  have hb : Flat before := .of_blank hb
  have hf : isBalanced text ↔ isBalanced before ∧ isBalanced (trim text ++ after) := by
    rw [← isBalanced_append_iff (depthFrom_of_flat hb 0), ← ht]
  rw [hf, isBalanced_append_flat (.of_blank ha)]
  exact ⟨fun h => ⟨isBalanced_of_flat hb, h⟩, fun h => h.2⟩

end ColumnTypes.Text
