import ColumnTypes.Proofs.ColumnList

/-!
Balance of column lists. The text of a type that can be read is balanced, and so are the blanks and
commas of a list, so a list that can be read is as balanced as the names in it. Names are runs of any
characters but blanks: a stray parenthesis is refused everywhere except in a name.
-/

namespace ColumnTypes

open Text

variable {text segment : Text} {column : Column} {schema : Schema} {type : ColumnType}

theorem isPiece_of_parse (h : ColumnType.parse text = .ok type) : IsPiece ',' text :=
  (isPiece_withoutBlanks (by decide)).1 (ColumnType.denotes_of_parse h).1.isPiece

namespace Declares

/-- What stands around the name of a column has no open parenthesis and no comma of its own. -/
theorem exists_around_name (h : Declares segment column) :
    ∃ before after, segment = before ++ (column.name ++ after) ∧
      IsPiece ',' before ∧ IsPiece ',' after := by
  cases h with
  | @intro blanks name typeText blank type hs hne hn hb ht =>
    have hblank : IsPiece ',' [blank] := isPiece_of_blank (by decide) (by simpa using hb)
    have htype : IsPiece ',' typeText := isPiece_of_parse ht
    exact ⟨blanks, [blank] ++ typeText, rfl, isPiece_of_blank (by decide) hs,
      (isPiece_append_left hblank).2 htype⟩

theorem isPiece_iff (h : Declares segment column) : IsPiece ',' segment ↔ IsPiece ',' column.name := by
  obtain ⟨before, after, rfl, hb, ha⟩ := h.exists_around_name
  rw [isPiece_append_left hb, isPiece_append_right ha]

theorem isBalanced_iff (h : Declares segment column) :
    isBalanced segment ↔ isBalanced column.name := by
  obtain ⟨before, after, rfl, hb, ha⟩ := h.exists_around_name
  rw [isBalanced_append_iff (depthFrom_of_isBalanced hb.balanced 0), isBalanced_append_right ha.balanced]
  simp [hb.balanced]

end Declares

namespace Schema

theorem isBalanced_of_unwrap (hb : isBalanced (unwrap text)) : isBalanced text := by
  rcases unwrap_spec text with ⟨inner, rfl, -, hu⟩ | ⟨hu, -⟩
  · have ho : IsOpening "(" := by decide
    rw [hu] at hb
    exact isBalanced_call ho hb
  · rwa [hu] at hb

theorem isBalanced_of_body (hb : isBalanced (body text)) : isBalanced text :=
  (isBalanced_trim text).1 (isBalanced_of_unwrap ((isBalanced_trim _).1 hb))

/-- The columns of a balanced list, each in a segment of its own. -/
theorem lists_body_of_parse (hb : isBalanced text) (h : parse text = .ok schema) :
    Lists (body text) schema.columns :=
  (lists_iff (isBalanced_body hb)).2 (parse_eq_ok_iff_forall₂.1 h)

theorem isPiece_name_of_lists {columns : List Column} (h : Lists text columns)
    (hc : column ∈ columns) : IsPiece ',' column.name := by
  rcases h with ⟨-, rfl⟩ | ⟨segments, -, hs⟩
  · cases hc
  · obtain ⟨pairs, -, rfl, hp⟩ := forall₂_iff_pairs.1 hs
    obtain ⟨pair, hm, rfl⟩ := List.mem_map.1 hc
    obtain ⟨hpiece, hd⟩ := hp pair hm
    exact hd.isPiece_iff.1 hpiece

/-- A list that can be read is balanced exactly if every name in it is. -/
theorem isBalanced_iff_names (h : parse text = .ok schema) :
    isBalanced text ↔ ∀ column ∈ schema.columns, isBalanced column.name := by
  constructor
  · intro hb column hc
    exact (isPiece_name_of_lists (lists_body_of_parse hb h) hc).balanced
  · intro hn
    apply isBalanced_of_body
    rcases parse_eq_ok_iff_forall₂.1 h with ⟨he, -⟩ | hd
    · rw [he]
      rfl
    · have hc : Cuts ',' 0 (body text) (segments ',' (body text)) :=
        cuts_segments (by decide) (by decide) (body text)
      obtain ⟨pairs, hs, hcs, hp⟩ := forall₂_iff_pairs.1 hd
      rw [← hc.join_eq, hs]
      refine isBalanced_join (by decide) (List.forall_mem_map.2 fun pair hm => ?_)
      exact (hp pair hm).isBalanced_iff.2 (hn pair.2 (hcs ▸ List.mem_map_of_mem hm))

/-- An unbalanced list is refused, unless a name in it is unbalanced. -/
theorem error_or_unbalanced_name (hb : ¬isBalanced text) :
    (∃ malformed, parse text = .error malformed) ∨
      ∃ schema, parse text = .ok schema ∧ ∃ column ∈ schema.columns, ¬isBalanced column.name := by
  cases h : parse text with
  | error malformed => exact .inl ⟨malformed, rfl⟩
  | ok schema =>
    right
    refine ⟨schema, rfl, ?_⟩
    by_contra hn
    refine hb ((isBalanced_iff_names h).2 fun column hc => ?_)
    by_contra hu
    exact hn ⟨column, hc, hu⟩

/-- The depth may be back at zero before the list goes on, and still have been below it. -/
theorem error_or_unbalanced_name_of_reversed_pair :
    ¬isBalanced ")( Int8, b Int8" ∧
      ((∃ malformed, parse ")( Int8, b Int8" = .error malformed) ∨
        ∃ schema, parse ")( Int8, b Int8" = .ok schema ∧
          ∃ column ∈ schema.columns, ¬isBalanced column.name) :=
  ⟨by decide, error_or_unbalanced_name (by decide)⟩

/-- A parenthesis that is never closed may be read as a part of a name. -/
theorem unbalanced_list_is_read :
    ¬isBalanced "x( Int8" ∧ parse "x( Int8" = .ok ⟨[⟨"x(", .primitive .int8⟩]⟩ :=
  ⟨by decide, toOption_eq_some_iff.1 (by decide +kernel)⟩

end Schema

end ColumnTypes
