import ColumnTypes.Proofs.ColumnList

/-!
Column lists one after the other. Blanks at the ends of a segment have no part in the column that it
declares, so a list that stands in no pair of parentheses is read from its segments as they are, and two
such lists with a comma between them are read as the one list and then the other.
-/

namespace ColumnTypes

open Text

variable {a b text content before after : Text} {column : Column} {columns : List Column}

/-! ### Blanks at the ends -/

namespace ColumnType

theorem parse_congr (h : withoutBlanks a = withoutBlanks b) : parse a = parse b := by
  rw [parse, parseWith, h]
  rfl

theorem not_blank_of_parse {type : ColumnType} (h : parse text = .ok type) :
    ¬∀ c ∈ text, isBlank c := by
  intro hb
  have he : parseFragment constructs [] = .ok type := by
    rw [parse_congr (b := []) (withoutBlanks_of_blank hb)] at h
    exact h
  rw [parseFragment_eq] at he
  cases he

theorem parse_append_blanks (hb : ∀ c ∈ after, isBlank c) : parse (text ++ after) = parse text :=
  parse_congr (by rw [withoutBlanks_append, withoutBlanks_of_blank hb, List.append_nil])

end ColumnType

namespace Declares

theorem blanks_append_iff (hb : ∀ c ∈ before, isBlank c) :
    Declares (before ++ text) column ↔ Declares text column := by
  have hc : Column.cut (before ++ text) = Column.cut text := by
    rw [Column.cut, trimStart, List.dropWhile_append_of_pos hb]
    rfl
  rw [← Column.parse_eq_ok_iff, ← Column.parse_eq_ok_iff, Column.parse, Column.parse, hc]
  cases Column.cut text with
  | error fault => simp
  | ok pair => rfl

theorem append_blanks_iff (hb : ∀ c ∈ after, isBlank c) :
    Declares (text ++ after) column ↔ Declares text column := by
  constructor
  · intro h
    generalize he : text ++ after = whole at h
    cases h with
    | @intro blanks name typeText blank type hs hne hn hbl ht =>
      have he : text ++ after = (blanks ++ (name ++ [blank])) ++ typeText := by simp [he]
      rcases List.append_eq_append_iff.1 he with ⟨rest, -, rfl⟩ | ⟨rest, rfl, rfl⟩
      · -- the type would be among the blanks
        exact absurd (fun c hc => hb c (List.mem_append_right _ hc)) (ColumnType.not_blank_of_parse ht)
      · rw [ColumnType.parse_append_blanks hb] at ht
        simpa using Declares.intro hs hne hn hbl ht
  · rintro ⟨hs, hne, hn, hbl, ht⟩
    rw [← ColumnType.parse_append_blanks hb] at ht
    simpa using Declares.intro hs hne hn hbl ht

end Declares

/-- Blanks around a list go to its first and its last segment, where they have no part in a column. -/
theorem Text.TrimsTo.forall₂_declares_iff (h : TrimsTo text content) :
    List.Forall₂ Declares (segments ',' text) columns ↔
      List.Forall₂ Declares (segments ',' content) columns := by
  obtain ⟨before, after, rfl, hb, ha⟩ := h
  have hbefore : IsPiece ',' before := isPiece_of_blank (by decide) hb
  have hafter : ',' ∉ after := fun hm => absurd (ha _ hm) (by decide)
  have hc : Cuts ',' 0 content (segments ',' content) :=
    cuts_segments (by decide) (by decide) content
  obtain ⟨init, last, hi, hc⟩ := hc.append_unbroken fun _ => unbrokenFrom_of_not_mem hafter
  rw [← depthFrom_of_isBalanced hbefore.balanced 0] at hc
  obtain ⟨first, later, hf, hc⟩ := hc.unbroken_append hbefore.unbroken
  have hs : segments ',' (before ++ (content ++ after)) = (before ++ first) :: later :=
    ((cuts_iff (by decide) (by decide)).1 hc).symm
  calc List.Forall₂ Declares (segments ',' (before ++ (content ++ after))) columns
    _ ↔ List.Forall₂ Declares (first :: later) columns := by
      rw [hs, List.forall₂_cons_left_iff, List.forall₂_cons_left_iff]
      simp only [Declares.blanks_append_iff hb]
    _ ↔ List.Forall₂ Declares (segments ',' content) columns := by
      rw [← hf, hi, forall₂_append_iff, forall₂_append_iff]
      simp only [List.forall₂_cons_left_iff, Declares.append_blanks_iff ha]

namespace Text

theorem TrimsTo.trans {inner : Text} (h : TrimsTo text content) (h' : TrimsTo content inner) :
    TrimsTo text inner := by
  obtain ⟨before, after, rfl, hb, ha⟩ := h
  obtain ⟨before', after', rfl, hb', ha'⟩ := h'
  exact ⟨before ++ before', after' ++ after, by simp, List.forall_mem_append.2 ⟨hb, hb'⟩,
    List.forall_mem_append.2 ⟨ha', ha⟩⟩

theorem TrimsTo.blank (h : TrimsTo text []) : ∀ c ∈ text, isBlank c := by
  obtain ⟨before, after, rfl, hb, ha⟩ := h
  exact List.forall_mem_append.2 ⟨hb, ha⟩

theorem trim_append_cons {c : Char} (hc : isBlank c = false) (a b : Text) :
    trim (a ++ c :: b) = trimStart a ++ c :: trimEnd b := by
  have hs : trimStart (a ++ c :: b) = trimStart a ++ c :: b := by
    rw [trimStart, List.dropWhile_append]
    split
    · simp_all [trimStart]
    · rfl
  rw [trim, hs, trimEnd, List.reverse_append, List.reverse_cons, List.append_assoc,
    List.dropWhile_append]
  split
  · simp_all [trimEnd]
  · simp [trimEnd]

end Text

/-! ### Lists side by side -/

namespace Schema

variable {schema : Schema}

/-- A balanced list with some text that stands in no pair of parentheses. -/
structure Bare (text : Text) : Prop where
  balanced : isBalanced text
  nonblank : ¬∀ c ∈ text, isBlank c
  unwrapped : ∀ inner, ¬Wraps (trim text) inner

/-- On balanced text nothing is unwrapped exactly if no pair matches. -/
theorem forall_not_wraps_iff (hb : isBalanced text) :
    (∀ inner, ¬Wraps text inner) ↔ unwrap text = text := by
  constructor
  · intro h
    exact ((unwrapped_iff hb).1 (.inr ⟨rfl, h⟩)).symm
  · intro h inner hw
    have hi : inner = text := ((unwrapped_iff hb).1 (.inl hw)).trans h
    have hl : text.length = inner.length + 2 := by simp [hw.1]
    rw [hi] at hl
    omega

theorem Bare.trimsTo_body (h : Bare text) : TrimsTo text (body text) := by
  have ht : isBalanced (trim text) := (isBalanced_trim text).2 h.balanced
  rw [body, (forall_not_wraps_iff ht).1 h.unwrapped]
  exact (trimsTo_trim text).trans (trimsTo_trim (trim text))

/-- The segments of a bare list are those of the whole text, blanks and all. -/
theorem Bare.parse_eq_ok_iff (h : Bare text) :
    parse text = .ok schema ↔ List.Forall₂ Declares (segments ',' text) schema.columns := by
  have hne : body text ≠ [] := fun he => h.nonblank (he ▸ h.trimsTo_body).blank
  rw [parse_eq_ok_iff_forall₂, h.trimsTo_body.forall₂_declares_iff]
  simp [hne]

/-- The depth is back at zero where two lists meet, so nothing wraps both. -/
theorem Bare.append (ha : Bare a) (hb : Bare b) : Bare (a ++ ',' :: b) := by
  have hz : depthFrom 0 a = 0 := depthFrom_of_isBalanced ha.balanced 0
  have hc : isBalanced (',' :: b) := (isBalanced_append_iff (a := [',']) rfl).2 ⟨rfl, hb.balanced⟩
  refine ⟨(isBalanced_append_iff hz).2 ⟨ha.balanced, hc⟩, fun h => ?_, fun inner hw => ?_⟩
  · exact absurd (h ',' (by simp)) (by decide)
  · have hs : a = a.takeWhile isBlank ++ trimStart a := List.takeWhile_append_dropWhile.symm
    have hne : trimStart a ≠ [] := fun he => ha.nonblank (List.dropWhile_eq_nil_iff.1 he)
    have hf : Flat (a.takeWhile isBlank) := .of_blank fun _ => List.mem_takeWhile_imp
    rw [hs, depthFrom_append, depthFrom_of_flat hf] at hz
    rw [trim_append_cons (by decide)] at hw
    simpa using (hw.2 (trimStart a) (',' :: trimEnd b) rfl hne).1 hz

/-- Two bare lists with a comma between them are read as a schema exactly if each of them is, and then
the columns are those of the first and those of the second in this order. -/
theorem parse_append_eq_ok_iff (ha : Bare a) (hb : Bare b) (schema : Schema) :
    parse (a ++ ',' :: b) = .ok schema ↔
      ∃ first second : Schema, parse a = .ok first ∧ parse b = .ok second ∧
        schema.columns = first.columns ++ second.columns := by
  have hc : Cuts ',' 0 (a ++ ',' :: b) (segments ',' a ++ segments ',' b) :=
    .append (by decide) (cuts_segments (by decide) (by decide) a)
      (depthFrom_of_isBalanced ha.balanced 0) (cuts_segments (by decide) (by decide) b)
  have hs : segments ',' (a ++ ',' :: b) = segments ',' a ++ segments ',' b :=
    ((cuts_iff (by decide) (by decide)).1 hc).symm
  rw [(ha.append hb).parse_eq_ok_iff, hs, forall₂_append_iff]
  constructor
  · rintro ⟨columns, columns', he, h, h'⟩
    exact ⟨⟨columns⟩, ⟨columns'⟩, ha.parse_eq_ok_iff.2 h, hb.parse_eq_ok_iff.2 h', he⟩
  · rintro ⟨first, second, h, h', he⟩
    exact ⟨_, _, he, ha.parse_eq_ok_iff.1 h, hb.parse_eq_ok_iff.1 h'⟩

/-- The first list begins with a parenthesis, the second ends with one, and blanks stand where they
meet. -/
theorem parse_append_of_paired_ends :
    let a : Text := " (a,b)x Int8 "
    let b : Text := "\tc Map(String, Bool), d Array(Int8)"
    Bare a ∧ Bare b ∧
      parse (a ++ ',' :: b) =
        .ok ⟨[⟨"(a,b)x", .primitive .int8⟩, ⟨"c", .map (.primitive .string) (.primitive .bool)⟩,
          ⟨"d", .array (.primitive .int8)⟩]⟩ := by
  intro a b
  have ha : Bare a :=
    ⟨by decide, fun h => absurd (h 'x' (by decide)) (by decide),
      (forall_not_wraps_iff (by decide)).2 (by decide)⟩
  have hb : Bare b :=
    ⟨by decide, fun h => absurd (h 'c' (by decide)) (by decide),
      (forall_not_wraps_iff (by decide)).2 (by decide)⟩
  have hpa : parse a = .ok ⟨[⟨"(a,b)x", .primitive .int8⟩]⟩ :=
    toOption_eq_some_iff.1 (by decide +kernel)
  have hpb : parse b = .ok ⟨[⟨"c", .map (.primitive .string) (.primitive .bool)⟩,
      ⟨"d", .array (.primitive .int8)⟩]⟩ := toOption_eq_some_iff.1 (by decide +kernel)
  exact ⟨ha, hb, (parse_append_eq_ok_iff ha hb _).2 ⟨_, _, hpa, hpb, rfl⟩⟩

end Schema

end ColumnTypes
