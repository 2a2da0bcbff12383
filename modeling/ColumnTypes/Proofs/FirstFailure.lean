import ColumnTypes.Proofs.ColumnList
import ColumnTypes.Proofs.Recursion

/-!
Where reading stops. A type is refused at the first fragment whose outermost level cannot be read, and
the error names a piece of that fragment. A column without a blank after its name is refused as a whole,
any other by its type, and a list by the first of its segments that declares no column.
-/

namespace ColumnTypes

open Text

variable {text inner fragment before : Text} {e : MalformedType} {k : Nat}

/-! ### Errors of one level -/

theorem input_of_readUnsigned {quantity : Quantity} {bound : Nat}
    (h : readUnsigned quantity bound text = .error e) : e.input = text := by
  unfold readUnsigned at h
  split at h
  · cases h
    rfl
  · split at h
    · cases h
    · cases h
      rfl

theorem input_of_readDecimal {keyword : Text} (h : readDecimal keyword inner = .error e) :
    e.input <:+: inner := by
  unfold readDecimal at h
  split at h
  · cases h
    exact List.infix_rfl
  · rename_i precision scale hs
    obtain ⟨rfl, -⟩ := splitFirst?_eq_some_iff.1 hs
    rcases bind_eq_error_iff.1 h with hp | ⟨p, -, h⟩
    · rw [input_of_readUnsigned hp]
      exact (List.prefix_append precision _).isInfix
    · rcases bind_eq_error_iff.1 h with hs | ⟨s, -, h⟩
      · rw [input_of_readUnsigned hs]
        exact ((List.suffix_cons ',' scale).trans (List.suffix_append precision _)).isInfix
      · cases h

theorem input_of_readTimestamp (h : readTimestamp inner = .error e) : e.input <:+: inner := by
  rcases readTimestamp_error_cases h with ⟨hi, -⟩ | ⟨code, timezone, hp, rfl⟩
  · rw [hi]
  · -- the code is the text up to the first comma
    rcases padded_two_eq_ok_iff.1 hp with ⟨hl, -⟩ | ⟨a, zone, hl, rfl, -, -⟩
    · obtain ⟨rfl, rfl⟩ : code = inner ∧ timezone = none := by simpa using hl
      exact List.infix_rfl
    · obtain ⟨rfl, rfl⟩ : code = a ∧ timezone = some zone := by simpa using hl
      exact (List.prefix_append _ _).isInfix

theorem Keyword.input_of_level {keyword : Keyword} (h : keyword.level inner = .error e) :
    e.input <:+: inner := by
  cases keyword with
  | dateTime64 => exact input_of_readTimestamp (map_eq_error_iff.1 h)
  | decimal => exact input_of_readDecimal (map_eq_error_iff.1 h)
  | decimal256 => exact input_of_readDecimal (map_eq_error_iff.1 h)
  | fixedString =>
    rw [input_of_readUnsigned (map_eq_error_iff.1 h)]
  | array => cases h
  | tuple => cases h
  | map =>
    simp only [Keyword.level] at h
    split at h
    · cases h
    · cases h
      exact List.infix_rfl
  | nullable => cases h

theorem Head.input_of_read {table : List Construct} (h : Head.read table text = .error e) :
    e.input = text := by
  unfold Head.read at h
  split at h
  · cases h
    rfl
  · split at h
    · cases h
    · split at h
      · cases h
        rfl
      · split at h
        · cases h
          rfl
        · cases h

/-- An error of a level names a piece of the fragment. -/
theorem Level.input_of_read (h : Level.read constructs text = .error e) : e.input <:+: text := by
  unfold Level.read at h
  split at h
  · rename_i hh
    cases h
    rw [Head.input_of_read hh]
  · cases h
  · rename_i c inner hh
    obtain ⟨-, rfl⟩ := Head.read_eq_construct_iff.1 hh
    exact (Keyword.input_of_level h).trans (List.infix_append _ _ _)

theorem input_of_checkNesting (h : checkNesting text = .error e) : e.input = text := by
  unfold checkNesting at h
  split at h
  · cases h
  · cases h
    rfl

/-! ### Errors of a fragment -/

namespace ColumnType

/-- A fragment fails with the first of its parts that fails. -/
theorem parseFragment_eq_error_iff_parts {level : Level} (hl : Level.read constructs text = .ok level) :
    parseFragment constructs text = .error e ↔
      level.parts.mapM (parseFragment constructs) = .error e := by
  rw [parseFragment_eq, hl]
  cases level with
  | whole type => simp [Level.parts, pure, Except.pure]
  | array element => simp [Level.parts, map_eq_error_iff, bind_eq_error_iff, pure, Except.pure]
  | tuple elements => simp [Level.parts, map_eq_error_iff]
  | map key value => simp [Level.parts, bind_eq_error_iff, pure, Except.pure]
  | nullable inner => simp [Level.parts, map_eq_error_iff, bind_eq_error_iff, pure, Except.pure]

/-- A fragment fails exactly if reading it comes to a fragment whose outermost level cannot be read. -/
theorem parseFragment_eq_error_iff :
    parseFragment constructs text = .error e ↔
      ∃ k before fragment, Calls text k before fragment ∧ Level.read constructs fragment = .error e := by
  constructor
  · intro h
    induction text using parts_induction constructs with
    | step text ih =>
      cases hl : Level.read constructs text with
      | error e' =>
        rw [parseFragment_eq, hl] at h
        cases h
        exact ⟨0, [], text, .first text, hl⟩
      | ok level =>
        rw [parseFragment_eq_error_iff_parts hl] at h
        obtain ⟨earlier, part, later, hp, he, hf⟩ := mapM_eq_error_iff.1 h
        have hm : part ∈ level.parts := by simp [hp]
        obtain ⟨c, inner, hh, hk⟩ := exists_head_of_part hl hm
        obtain ⟨k, before, fragment, hc, hr⟩ := ih level hl part hm hf
        exact ⟨k + 1, _, fragment, .nested (.intro hh hk hp he) hc, hr⟩
  · rintro ⟨k, before, fragment, hc, hr⟩
    induction hc with
    | first text => rw [parseFragment_eq, hr]
    | @nested text part fragment _ between k he _ ih =>
      obtain @⟨inner, _, c, level, earlier, later, hh, hk, hp, ho⟩ := he
      have hl : Level.read constructs text = .ok level := by simp only [Level.read, hh, hk]
      rw [parseFragment_eq_error_iff_parts hl, mapM_eq_error_iff]
      exact ⟨earlier, part, later, hp, ho, ih hr⟩

theorem input_of_parseFragment (h : parseFragment constructs text = .error e) : e.input <:+: text := by
  obtain ⟨k, before, fragment, hc, hr⟩ := parseFragment_eq_error_iff.1 h
  obtain ⟨⟨after, rfl⟩, -⟩ := hc.position
  exact (Level.input_of_read hr).trans (List.infix_append _ _ _)

theorem parse_eq_error_iff :
    parse text = .error e ↔
      checkNesting text.withoutBlanks = .error e ∨
        checkNesting text.withoutBlanks = .ok () ∧
          parseFragment constructs text.withoutBlanks = .error e :=
  bind_eq_error_iff.trans (or_congr_right ⟨fun ⟨_, h⟩ => h, fun h => ⟨(), h⟩⟩)

theorem input_of_parse (h : parse text = .error e) : e.input <:+: text.withoutBlanks := by
  rcases parse_eq_error_iff.1 h with hs | ⟨-, hf⟩
  · rw [input_of_checkNesting hs]
  · exact input_of_parseFragment hf

end ColumnType

/-! ### Errors of columns and lists -/

/-- No blank stands after the first character that is not blank, if there is one. -/
def SingleWord (text : Text) : Prop :=
  ∀ blanks c rest, text = blanks ++ c :: rest → (∀ b ∈ blanks, isBlank b) → isBlank c = false →
    Blankless rest

namespace Column

/-- A text comes apart into a name and the text of a type unless it is a single word. -/
theorem exists_cut_iff : (∃ name typeText, cut text = .ok (name, typeText)) ↔ ¬SingleWord text := by
  constructor
  · rintro ⟨name, typeText, hc⟩ hw
    obtain ⟨blanks, blank, rfl, hs, hne, hn, hb⟩ := cut_eq_ok_iff.1 hc
    obtain ⟨c, rest, rfl⟩ := List.exists_cons_of_ne_nil hne
    have hl := hw blanks c (rest ++ blank :: typeText) rfl hs (hn c List.mem_cons_self) blank (by simp)
    rw [hb] at hl
    cases hl
  · intro hw
    by_contra hc
    apply hw
    rintro blanks c rest rfl hs hn
    by_contra hr
    apply hc
    -- the name ends at the first blank of the rest
    have hd : rest.dropWhile (fun x => !isBlank x) ≠ [] := by
      rw [ne_eq, List.dropWhile_eq_nil_iff]
      simpa [Blankless] using hr
    obtain ⟨blank, typeText, hd⟩ := List.exists_cons_of_ne_nil hd
    obtain ⟨ht, ha, hb⟩ := takeWhile_dropWhile_eq_iff.1 ⟨rfl, hd⟩
    generalize rest.takeWhile (fun x => !isBlank x) = start at ht ha
    subst ht
    have hname : Blankless (c :: start) := List.forall_mem_cons.2 ⟨hn, by simpa using ha⟩
    exact ⟨c :: start, typeText, cut_eq_ok_iff.2
      ⟨blanks, blank, by simp, hs, by simp, hname, by simpa using hb⟩⟩

theorem parse_eq_error_iff {text : Text} {e : MalformedSchema} :
    parse text = .error e ↔
      (∃ fault, cut text = .error fault ∧ e = .column text fault) ∨
        ∃ name typeText malformed, cut text = .ok (name, typeText) ∧
          ColumnType.parse typeText = .error malformed ∧ e = .type malformed := by
  unfold parse
  cases hc : cut text with
  | error fault => simp [eq_comm]
  | ok pair =>
    obtain ⟨name, typeText⟩ := pair
    cases ht : ColumnType.parse typeText with
    | error malformed => simp [ht, eq_comm]
    | ok type => simp [ht]

end Column

/-- A list without text has no column to fail; any other fails with its first segment that does. -/
theorem Schema.parse_eq_error_iff {text : Text} {e : MalformedSchema} :
    Schema.parse text = .error e ↔
      body text ≠ [] ∧ ∃ earlier segment later,
        segments ',' (body text) = earlier ++ segment :: later ∧
          (∀ s ∈ earlier, ∃ column, Column.parse s = .ok column) ∧ Column.parse segment = .error e := by
  rw [← mapM_eq_error_iff]
  unfold Schema.parse
  split
  · rename_i he
    simp [he]
  · rename_i hne
    have he : body text ≠ [] := fun h => hne h
    rw [map_eq_error_iff]
    simp [he]

/-- A text that is no type is refused for a piece of itself, either by the scan or at the first fragment
whose outermost level cannot be read. A column is refused as a whole exactly if it is a single word,
otherwise for a piece of its type. A list is refused as the first of its segments that cannot be read. -/
theorem refused_at_first_failure :
    (∀ (text : Text) (e : MalformedType), ColumnType.parse text = .error e →
      e.input <:+: text.withoutBlanks ∧
        (checkNesting text.withoutBlanks = .error e ∨
          ∃ k before fragment, Calls text.withoutBlanks k before fragment ∧
            Level.read constructs fragment = .error e)) ∧
    (∀ (text : Text) (e : MalformedSchema), Column.parse text = .error e →
      (SingleWord text ∧ ∃ fault, e = .column text fault) ∨
        (¬SingleWord text ∧ ∃ (blanks name : Text) (blank : Char) (typeText : Text) (malformed : MalformedType),
          text = blanks ++ (name ++ blank :: typeText) ∧ (∀ c ∈ blanks, isBlank c) ∧ name ≠ [] ∧
            Blankless name ∧ isBlank blank ∧ ColumnType.parse typeText = .error malformed ∧
            e = .type malformed ∧ malformed.input <:+: typeText.withoutBlanks)) ∧
    ∀ (text : Text) (e : MalformedSchema), Schema.parse text = .error e ↔
      Schema.body text ≠ [] ∧ ∃ earlier segment later,
        segments ',' (Schema.body text) = earlier ++ segment :: later ∧
          (∀ s ∈ earlier, ∃ column, Column.parse s = .ok column) ∧
          Column.parse segment = .error e := by
  refine ⟨fun text e h => ⟨ColumnType.input_of_parse h, ?_⟩, fun text e h => ?_,
    fun text e => Schema.parse_eq_error_iff⟩
  · rcases ColumnType.parse_eq_error_iff.1 h with hs | ⟨-, hf⟩
    · exact .inl hs
    · exact .inr (ColumnType.parseFragment_eq_error_iff.1 hf)
  · rcases Column.parse_eq_error_iff.1 h with ⟨fault, hc, rfl⟩ | ⟨name, typeText, m, hc, ht, rfl⟩
    · left
      refine ⟨?_, fault, rfl⟩
      by_contra hw
      obtain ⟨name, typeText, ho⟩ := Column.exists_cut_iff.2 hw
      rw [hc] at ho
      cases ho
    · right
      obtain ⟨blanks, blank, rfl, hs, hne, hn, hb⟩ := Column.cut_eq_ok_iff.1 hc
      exact ⟨Column.exists_cut_iff.1 ⟨name, typeText, hc⟩, blanks, name, blank, typeText, m, rfl, hs,
        hne, hn, hb, ht, rfl, ColumnType.input_of_parse ht⟩

/-- The piece refused may be unbalanced in a balanced text. -/
theorem refused_at_first_failure_of_unbalanced_piece :
    let text : Text := "Array( Tuple(Int8),Foo(Int9) )"
    let malformed : MalformedType := ⟨"Int8),Foo(Int9", .unknownName⟩
    ColumnType.parse text = .error malformed ∧ malformed.input <:+: text.withoutBlanks ∧
      Column.parse (" a " ++ text) = .error (.type malformed) ∧ ¬SingleWord (" a " ++ text) := by
  intro text malformed
  have ht : ColumnType.parse text = .error malformed := error?_eq_some_iff.1 (by decide +kernel)
  have hc : Column.parse (" a " ++ text) = .error (.type malformed) :=
    error?_eq_some_iff.1 (by decide +kernel)
  obtain ⟨htype, hcolumn, -⟩ := refused_at_first_failure
  refine ⟨ht, (htype text malformed ht).1, hc, ?_⟩
  rcases hcolumn (" a " ++ text) (.type malformed) hc with ⟨-, fault, hf⟩ | ⟨hw, -⟩
  · cases hf
  · exact hw

end ColumnTypes
