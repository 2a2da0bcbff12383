import ColumnTypes.Proofs.ColumnBalance
import ColumnTypes.Proofs.Spelling

/-!
Schemas survive their spelling. A column can be written if its name is one balanced word without a
comma outside parentheses and its type is read from its own spelling. The spelling of such columns is
a list of them: it has no blank at its ends and no pair around it, since the first name is balanced on
its own. What is read from balanced text can be written.
-/

namespace ColumnTypes

open Text

variable {a b text : Text} {c : Char} {column : Column} {columns : List Column} {schema : Schema}

/-! ### Ends of a text -/

namespace Text

/-- The last character is there, one of ASCII and visible. -/
def EndsVisibly (text : Text) : Prop :=
  ∃ last ∈ text.getLast?, 0x20 < last.toNat ∧ last.toNat < 0x7F

theorem isBlank_of_ascii (hs : 0x20 < c.toNat) (ht : c.toNat < 0x7F) : isBlank c = false := by
  simp [isBlank]
  omega

theorem EndsVisibly.append (h : EndsVisibly b) : EndsVisibly (a ++ b) := by
  obtain ⟨last, hl, hb⟩ := h
  rw [Option.mem_def] at hl
  exact ⟨last, by simp [List.getLast?_append, hl], hb⟩

theorem EndsVisibly.trimEnd_eq (h : EndsVisibly text) : trimEnd text = text := by
  obtain ⟨last, hl, hs, ht⟩ := h
  rw [← List.dropLast_append_getLast? last hl]
  simp [trimEnd, isBlank_of_ascii hs ht]

/-- Nothing is trimmed from a text that begins and ends visibly. -/
theorem trim_cons (hc : isBlank c = false) (h : EndsVisibly (c :: text)) :
    trim (c :: text) = c :: text := by
  have hs : trimStart (c :: text) = c :: text := by simp [trimStart, hc]
  rw [trim, hs, h.trimEnd_eq]

/-- A comma alone separates, if every part but the first begins with the blank. -/
theorem join_comma_space (first : Text) (later : List Text) :
    join ", " (first :: later) = join "," (first :: later.map (' ' :: ·)) := by
  induction later generalizing first with
  | nil => simp [join]
  | cons next more ih =>
    have hs : join "," ((' ' :: next) :: more.map (' ' :: ·)) =
        ' ' :: join "," (next :: more.map (' ' :: ·)) := by
      cases more <;> simp [join, List.intercalate_cons_cons]
    rw [join_cons_cons, ih, List.map_cons, join_cons_cons, hs]
    rfl

end Text

theorem ColumnType.endsVisibly_spelling (type : ColumnType) : EndsVisibly type.spelling := by
  have hp : EndsVisibly (")" : Text) := ⟨')', rfl, by decide⟩
  cases type with
  | primitive p => cases p <;> exact ⟨_, rfl, by decide⟩
  | fixedString n => exact hp.append
  | decimal p s => exact hp.append
  | decimal256 p s => exact hp.append
  | dateTime64 p timezone => cases timezone <;> exact hp.append
  | array element => exact hp.append
  | tuple elements => exact hp.append
  | map key value => exact hp.append
  | nullable inner => exact hp.append

/-! ### Columns that can be written -/

/-- Columns that can be written: the name is a balanced word without a comma outside parentheses, and
the type is read from its spelling. -/
structure Column.WellFormed (column : Column) : Prop where
  nonempty : column.name ≠ []
  blankless : Blankless column.name
  piece : IsPiece ',' column.name
  type : ColumnType.parse column.type.spelling = .ok column.type

namespace Column

theorem spelling_eq (column : Column) :
    column.spelling = column.name ++ ' ' :: column.type.spelling := by
  simp [spelling]

theorem WellFormed.declares (h : column.WellFormed) (blanks : Text) (hb : ∀ c ∈ blanks, isBlank c) :
    Declares (blanks ++ column.spelling) column := by
  rw [spelling_eq]
  exact .intro hb h.nonempty h.blankless (by decide) h.type

theorem WellFormed.segment (h : column.WellFormed) (blanks : Text) (hb : ∀ c ∈ blanks, isBlank c) :
    IsPiece ',' (blanks ++ column.spelling) ∧ Declares (blanks ++ column.spelling) column :=
  ⟨(h.declares blanks hb).isPiece_iff.2 h.piece, h.declares blanks hb⟩

end Column

namespace Schema

theorem Lists.isBalanced (h : Lists text columns) : isBalanced text := by
  rcases h with ⟨rfl, -⟩ | ⟨segments, rfl, hs⟩
  · rfl
  · obtain ⟨pairs, rfl, -, hp⟩ := forall₂_iff_pairs.1 hs
    refine isBalanced_join (by decide) (List.forall_mem_map.2 fun pair hm => ?_)
    exact (hp pair hm).1.balanced

theorem Lists.wellFormed (h : Lists text columns) : ∀ column ∈ columns, column.WellFormed := by
  intro column hc
  have hpiece := isPiece_name_of_lists h hc
  rcases h with ⟨-, rfl⟩ | ⟨segments, -, hs⟩
  · cases hc
  · obtain ⟨pairs, -, rfl, hp⟩ := forall₂_iff_pairs.1 hs
    obtain ⟨⟨segment, column⟩, hm, rfl⟩ := List.mem_map.1 hc
    obtain ⟨-, hd⟩ := hp _ hm
    cases hd with
    | intro _ hne hn _ ht => exact ⟨hne, hn, hpiece, (parse_spelling_of_parse ht).1⟩

/-! ### The spelling of a schema -/

theorem spelling_cons_cons (first next : Column) (more : List Column) :
    spelling ⟨first :: next :: more⟩ = first.spelling ++ (", " ++ spelling ⟨next :: more⟩) :=
  join_cons_cons ..

theorem lists_spelling (h : ∀ column ∈ schema.columns, column.WellFormed) :
    Lists schema.spelling schema.columns := by
  obtain ⟨columns⟩ := schema
  cases columns with
  | nil => exact .inl ⟨rfl, rfl⟩
  | cons first later =>
    obtain ⟨hf, hl⟩ := List.forall_mem_cons.1 h
    refine .inr ⟨first.spelling :: later.map (' ' :: ·.spelling), ?_, .cons ?_ ?_⟩
    · have hj := join_comma_space first.spelling (later.map Column.spelling)
      rwa [List.map_map] at hj
    · exact hf.segment [] (by simp)
    · rw [List.forall₂_map_left_iff, List.forall₂_same]
      exact fun column hc => (hl column hc).segment [' '] (List.forall_mem_singleton.2 rfl)

theorem endsVisibly_spelling (first : Column) (later : List Column) :
    EndsVisibly (spelling ⟨first :: later⟩) := by
  induction later generalizing first with
  | nil =>
    have he : EndsVisibly first.spelling := first.type.endsVisibly_spelling.append
    simpa [spelling, join] using he
  | cons next more ih =>
    rw [spelling_cons_cons]
    exact (ih next).append.append

/-- The spelling begins with the first name, and more follows. -/
theorem exists_after_first_name (first : Column) (later : List Column) :
    ∃ after, spelling ⟨first :: later⟩ = first.name ++ ' ' :: after := by
  cases later with
  | nil => exact ⟨first.type.spelling, by simp [spelling, join, Column.spelling_eq]⟩
  | cons next more =>
    refine ⟨first.type.spelling ++ (", " ++ spelling ⟨next :: more⟩), ?_⟩
    rw [spelling_cons_cons, Column.spelling_eq, List.append_assoc, List.cons_append]

/-- A first name that is balanced on its own closes every parenthesis at the start. -/
theorem unwrap_spelling (h : ∀ column ∈ schema.columns, column.WellFormed) :
    unwrap schema.spelling = schema.spelling := by
  symm
  refine (unwrapped_iff (lists_spelling h).isBalanced).1 (.inr ⟨rfl, fun content hw => ?_⟩)
  obtain ⟨columns⟩ := schema
  cases columns with
  | nil => cases hw.1
  | cons first later =>
    have hf := h first List.mem_cons_self
    obtain ⟨after, ha⟩ := exists_after_first_name first later
    have hz : depthFrom 0 first.name = 0 := depthFrom_of_isBalanced hf.piece.balanced 0
    simpa using (hw.2 first.name (' ' :: after) ha hf.nonempty).1 hz

theorem trim_spelling (h : ∀ column ∈ schema.columns, column.WellFormed) :
    trim schema.spelling = schema.spelling := by
  obtain ⟨columns⟩ := schema
  cases columns with
  | nil => rfl
  | cons first later =>
    have hf := h first List.mem_cons_self
    have he := endsVisibly_spelling first later
    obtain ⟨after, ha⟩ := exists_after_first_name first later
    obtain ⟨c, rest, hn⟩ := List.exists_cons_of_ne_nil hf.nonempty
    have hc : isBlank c = false := hf.blankless c (hn ▸ List.mem_cons_self)
    rw [ha, hn] at he ⊢
    exact trim_cons hc he

theorem body_spelling (h : ∀ column ∈ schema.columns, column.WellFormed) :
    body schema.spelling = schema.spelling := by
  rw [body, trim_spelling h, unwrap_spelling h, trim_spelling h]

theorem parse_spelling_of_wellFormed (h : ∀ column ∈ schema.columns, column.WellFormed) :
    parse schema.spelling = .ok schema := by
  have hl := lists_spelling h
  rw [parse_eq_ok_iff_forall₂, body_spelling h, ← lists_iff hl.isBalanced]
  exact hl

theorem wellFormed_of_parse (hb : isBalanced text) (h : parse text = .ok schema) :
    ∀ column ∈ schema.columns, column.WellFormed :=
  (lists_body_of_parse hb h).wellFormed

/-- A schema of columns that can be written is read from its spelling, and the columns of a balanced
list that was read can be written. -/
theorem spelling_round_trip :
    (∀ schema : Schema, (∀ column ∈ schema.columns, column.WellFormed) →
      parse schema.spelling = .ok schema) ∧
    ∀ text schema, isBalanced text → parse text = .ok schema →
      (∀ column ∈ schema.columns, column.WellFormed) ∧ parse schema.spelling = .ok schema := by
  refine ⟨fun schema => parse_spelling_of_wellFormed, fun text schema hb h => ?_⟩
  have hw := wellFormed_of_parse hb h
  exact ⟨hw, parse_spelling_of_wellFormed hw⟩

/-- A spelling that begins and ends with parentheses is no list in a pair of them. -/
theorem spelling_round_trip_of_paired_ends :
    let text : Text := "( (a,b)\tInt8, c  Array( String ) )"
    let schema : Schema := ⟨[⟨"(a,b)", .primitive .int8⟩, ⟨"c", .array (.primitive .string)⟩]⟩
    isBalanced text ∧ parse text = .ok schema ∧
      (∀ column ∈ schema.columns, column.WellFormed) ∧ parse schema.spelling = .ok schema := by
  intro text schema
  have hb : isBalanced text := by decide
  have hp : parse text = .ok schema := toOption_eq_some_iff.1 (by decide +kernel)
  have hw := (spelling_round_trip.2 text schema hb hp).1
  exact ⟨hb, hp, hw, spelling_round_trip.1 schema hw⟩

end Schema

end ColumnTypes
