import ColumnTypes.Proofs.Levels
import Mathlib.Data.List.ReduceOption

/-!
The padded split keeps every parameter. It cuts at each separator, so there is one piece more than there
are separators and the pieces joined again are the text; what is filled up is absent. On a text without
parentheses it cuts where the split at the top level does.
-/

namespace ColumnTypes

namespace Text

variable {separator c : Char} {arity : Nat} {text : Text} {pieces : List Text}
  {entries : List (Option Text)} {surplus : Surplus}

/-! ### As many pieces as separators, and one more -/

theorem length_splitOn (separator : Char) (text : Text) :
    (text.splitOn separator).length = text.count separator + 1 := by
  induction text with
  | nil => rfl
  | cons c rest ih =>
    rw [List.splitOn_cons_eq_if_modifyHead, List.count_cons]
    split_ifs with hc
    · rw [List.length_cons, ih]
    · rw [List.length_modifyHead, ih]

theorem padded_eq_ok_iff :
    padded separator arity text = .ok entries ↔
      text.count separator + 1 ≤ arity ∧
        entries = (text.splitOn separator).map some ++
          List.replicate (arity - (text.count separator + 1)) none := by
  simp only [padded, length_splitOn]
  split_ifs with hl
  · simp
    omega
  · simp [eq_comm]
    omega

theorem padded_eq_error_iff :
    padded separator arity text = .error surplus ↔
      arity < text.count separator + 1 ∧ surplus = ⟨arity, text.count separator + 1⟩ := by
  simp only [padded, length_splitOn]
  split_ifs with hl
  · simp [eq_comm]
    omega
  · simp
    omega

theorem length_of_padded (h : padded separator arity text = .ok entries) : entries.length = arity := by
  obtain ⟨hl, rfl⟩ := padded_eq_ok_iff.1 h
  simp [length_splitOn]
  omega

/-- The entries that are present make up the text again. -/
theorem join_present_of_padded (h : padded separator arity text = .ok entries) :
    join [separator] entries.reduceOption = text := by
  obtain ⟨-, rfl⟩ := padded_eq_ok_iff.1 h
  simp [List.reduceOption, join, List.intercalate_splitOn]

/-! ### Text without parentheses -/

theorem consFirst_eq_modifyHead (c : Char) (hne : pieces ≠ []) :
    consFirst c pieces = pieces.modifyHead (c :: ·) := by
  cases pieces with
  | nil => exact absurd rfl hne
  | cons first later => rfl

/-- Without parentheses every separator stands at depth zero. -/
theorem segments_of_flat (h : Flat text) (separator : Char) :
    segments separator text = text.splitOn separator := by
  unfold segments
  induction text with
  | nil => rfl
  | cons c rest ih =>
    obtain ⟨⟨ho, hc⟩, hr⟩ := List.forall_mem_cons.1 h
    have hb : isBreak separator 0 c = (c == separator) := by
      simp [isBreak, bne_iff_ne.2 ho, bne_iff_ne.2 hc]
    rw [segmentsFrom, hb, depthStep_of_ne ho hc, ih hr, List.splitOn_cons_eq_if_modifyHead,
      consFirst_eq_modifyHead c (List.splitOn_ne_nil _ _)]

end Text

/-! ### Time stamps -/

section

open Text

variable {inner : Text} {e : MalformedType}

/-- Two entries come out of every split that succeeds, so no time stamp fails for want of them. -/
theorem fault_ne_of_readTimestamp (h : readTimestamp inner = .error e) :
    e.fault ≠ .timestampParameters := by
  rcases readTimestamp_error_cases h with ⟨-, hf⟩ | ⟨code, timezone, -, rfl⟩
  · exact hf
  · simp

/-- The padded split fails exactly if there are more pieces than entries, and says how many there are.
Otherwise the pieces come first, none with a separator inside and all of them making up the text, and
the entries after them are absent. Without parentheses the pieces are the segments at the top level.
Two entries are a piece and perhaps another, so a time stamp is never short of parameters. -/
theorem padded_keeps_parameters (separator : Char) (arity : Nat) (text : Text) :
    let k := text.count separator + 1
    (arity < k → padded separator arity text = .error ⟨arity, k⟩) ∧
    (k ≤ arity → ∃ pieces : List Text,
      padded separator arity text = .ok (pieces.map some ++ List.replicate (arity - k) none) ∧
        pieces.length = k ∧ (∀ piece ∈ pieces, separator ∉ piece) ∧ join [separator] pieces = text ∧
        (Flat text → pieces = segments separator text)) ∧
    (∀ entries, padded separator 2 text = .ok entries →
      ∃ code timezone, entries = [some code, timezone]) ∧
    ∀ e, readTimestamp text = .error e → e.fault ≠ .timestampParameters := by
  intro k
  refine ⟨fun hl => padded_eq_error_iff.2 ⟨hl, rfl⟩, fun hl => ?_, fun _ => exists_of_padded_two,
    fun _ => fault_ne_of_readTimestamp⟩
  obtain ⟨-, hj, hs⟩ := splitOn_eq_iff.1 (rfl : text.splitOn separator = _)
  exact ⟨text.splitOn separator, padded_eq_ok_iff.2 ⟨hl, rfl⟩, length_splitOn separator text, hs, hj,
    fun hf => (segments_of_flat hf separator).symm⟩

/-- Separators at the end of a text are followed by empty pieces, which are present. -/
theorem padded_keeps_parameters_of_trailing_separators :
    let text : Text := "3→→"
    (1 < text.count '→' + 1 ∧ padded '→' 1 text = .error ⟨1, 3⟩) ∧
      (text.count '→' + 1 ≤ 4 ∧ Flat text ∧ ∃ pieces : List Text,
        padded '→' 4 text = .ok (pieces.map some ++ [none]) ∧ pieces = segments '→' text) ∧
      (padded ',' 2 text = .ok [some text, none] ∧
        ∃ code timezone, [some text, none] = [some code, timezone]) ∧
      readTimestamp "3," = .error ⟨"3,", .timestampTimezone⟩ ∧
        TypeFault.timestampTimezone ≠ .timestampParameters := by
  intro text
  have hf : Flat text := by decide
  have hp : padded ',' 2 text = .ok [some text, none] := toOption_eq_some_iff.1 (by decide)
  have ht : readTimestamp "3," = .error ⟨"3,", .timestampTimezone⟩ :=
    error?_eq_some_iff.1 (by decide +kernel)
  obtain ⟨hs, -⟩ := padded_keeps_parameters '→' 1 text
  obtain ⟨-, hl, -⟩ := padded_keeps_parameters '→' 4 text
  obtain ⟨-, -, htwo, -⟩ := padded_keeps_parameters ',' 2 text
  obtain ⟨-, -, -, he⟩ := padded_keeps_parameters ',' 2 "3,"
  obtain ⟨pieces, hpad, -, -, -, hflat⟩ := hl (by decide)
  exact ⟨⟨by decide, hs (by decide)⟩, ⟨by decide, hf, pieces, hpad, hflat hf⟩, ⟨hp, htwo _ hp⟩, ht,
    he _ ht⟩

end

end ColumnTypes
