import ColumnTypes.Proofs.Levels
import ColumnTypes.Proofs.NestingScan

/-!
The grammar of column types. `Denotes` says which texts without blanks stand for a type, by a derivation
that never mentions splitting. What a text denotes is balanced and has no comma outside parentheses, so
a list of arguments comes apart just where it was joined, and reading accepts exactly the grammar. For the
same reason reading finds every imbalance by itself, and the scan ahead of it decides only about the depth.
-/

namespace ColumnTypes

open Text

/-- The texts that denote a column type, once blanks are gone. -/
inductive Denotes : Text → ColumnType → Prop
  | leaf {text : Text} {type : ColumnType} (h : Leaf text type) : Denotes text type
  | array {text : Text} {type : ColumnType} (h : Denotes text type) :
    Denotes ("Array(" ++ text ++ ")") (.array type)
  | tuple {parts : List (Text × ColumnType)} (hne : parts ≠ [])
    (hp : ∀ part ∈ parts, Denotes part.1 part.2) :
    Denotes ("Tuple(" ++ join "," (parts.map Prod.fst) ++ ")") (.tuple (parts.map Prod.snd))
  | map {a b : Text} {key value : ColumnType} (hk : Denotes a key) (hv : Denotes b value) :
    Denotes ("Map(" ++ join "," [a, b] ++ ")") (.map key value)
  | nullable {text : Text} {type : ColumnType} (h : Denotes text type) :
    Denotes ("Nullable(" ++ text ++ ")") (.nullable type)

variable {text : Text} {type : ColumnType}

theorem Denotes.isPiece (h : Denotes text type) : IsPiece ',' text := by
  induction h with
  | leaf h => exact h.isPiece
  | array _ ih | nullable _ ih =>
    exact isPiece_call (by decide) (by decide) (by decide) ih.balanced
  | @tuple parts _ _ ih =>
    refine isPiece_call (by decide) (by decide) (by decide) (isBalanced_join (by decide) ?_)
    exact List.forall_mem_map.2 fun part hp => (ih part hp).balanced
  | map _ _ ihk ihv =>
    refine isPiece_call (by decide) (by decide) (by decide) (isBalanced_join (by decide) ?_)
    simpa using ⟨ihk.balanced, ihv.balanced⟩

/-! ### Reading level by level -/

/-- What holds of a text once it holds of the parts of its outermost level holds of every text. -/
theorem parts_induction (table : List Construct) {motive : Text → Prop}
    (step : ∀ text, (∀ level, Level.read table text = .ok level → ∀ part ∈ level.parts, motive part) →
      motive text) (text : Text) : motive text :=
  step text fun _ _ part _ => parts_induction table step part
termination_by text.length
decreasing_by exact Level.length_lt_of_mem_parts (by assumption) (by assumption)

namespace ColumnType

theorem denotes_of_parseFragment (h : parseFragment constructs text = .ok type) : Denotes text type := by
  -- a part may be any text, even an unbalanced one, so the induction is on the reading itself
  induction text using parts_induction constructs generalizing type with
  | step text ih =>
    rw [parseFragment_eq] at h
    cases hl : Level.read constructs text with
    | error e =>
      rw [hl] at h
      cases h
    | ok level =>
      rw [hl] at h
      replace ih := ih level hl
      cases Level.read_eq_ok_iff.1 hl with
      | leaf ht =>
        cases h
        exact .leaf ht
      | array element =>
        obtain ⟨inner, hi, rfl⟩ := map_eq_ok_iff.1 h
        exact .array (ih element (by simp [Level.parts]) hi)
      | nullable element =>
        obtain ⟨inner, hi, rfl⟩ := map_eq_ok_iff.1 h
        exact .nullable (ih element (by simp [Level.parts]) hi)
      | @tuple inner elements hc =>
        obtain ⟨types, ht, rfl⟩ := map_eq_ok_iff.1 h
        obtain ⟨pairs, rfl, rfl, hp⟩ := forall₂_iff_pairs.1 (mapM_eq_ok_iff.1 ht)
        rw [← hc.join_eq]
        refine .tuple (by simpa using hc.ne_nil) fun pair hm => ?_
        exact ih pair.1 (List.mem_map_of_mem hm) (hp pair hm)
      | @map inner a b hc =>
        obtain ⟨key, hk, h⟩ := bind_eq_ok_iff.1 h
        obtain ⟨value, hv, h⟩ := bind_eq_ok_iff.1 h
        cases h
        rw [← hc.join_eq]
        exact .map (ih a (by simp [Level.parts]) hk) (ih b (by simp [Level.parts]) hv)

theorem parseFragment_of_denotes (h : Denotes text type) : parseFragment constructs text = .ok type := by
  induction h with
  | leaf h =>
    rw [parseFragment_eq, Level.read_eq_ok_iff.2 (.leaf h)]
  | @array text _ _ ih =>
    rw [parseFragment_eq, Level.read_eq_ok_iff.2 (.array text)]
    exact map_eq_ok_iff.2 ⟨_, ih, rfl⟩
  | @nullable text _ _ ih =>
    rw [parseFragment_eq, Level.read_eq_ok_iff.2 (.nullable text)]
    exact map_eq_ok_iff.2 ⟨_, ih, rfl⟩
  | @tuple parts hne hp ih =>
    have hc : Cuts ',' 0 (join "," (parts.map Prod.fst)) (parts.map Prod.fst) :=
      cuts_join (by simpa using hne) (List.forall_mem_map.2 fun part hm => (hp part hm).isPiece)
    rw [parseFragment_eq, Level.read_eq_ok_iff.2 (.tuple hc)]
    exact map_eq_ok_iff.2 ⟨_, mapM_eq_ok_iff.2 (forall₂_iff_pairs.2 ⟨parts, rfl, rfl, ih⟩), rfl⟩
  | @map a b _ _ hk hv ihk ihv =>
    have hc : Cuts ',' 0 (join "," [a, b]) [a, b] :=
      cuts_join (by simp) (by simpa using ⟨hk.isPiece, hv.isPiece⟩)
    rw [parseFragment_eq, Level.read_eq_ok_iff.2 (.map hc)]
    exact bind_eq_ok_iff.2 ⟨_, ihk, bind_eq_ok_iff.2 ⟨_, ihv, rfl⟩⟩

/-- Level by level, a fragment is read exactly if it is in the grammar. -/
theorem parseFragment_eq_ok_iff : parseFragment constructs text = .ok type ↔ Denotes text type :=
  ⟨denotes_of_parseFragment, parseFragment_of_denotes⟩

/-! ### Reading after the scan -/

theorem denotes_of_parse (h : parse text = .ok type) :
    Denotes text.withoutBlanks type ∧ NestsWithin 256 text.withoutBlanks := by
  obtain ⟨_, hs, hf⟩ := bind_eq_ok_iff.1 h
  exact ⟨parseFragment_eq_ok_iff.1 hf, (checkNesting_eq_ok_iff.1 hs).2⟩

theorem parse_of_denotes (h : Denotes text.withoutBlanks type)
    (hn : NestsWithin 256 text.withoutBlanks) : parse text = .ok type :=
  bind_eq_ok_iff.2 ⟨(), checkNesting_eq_ok_iff.2 ⟨h.isPiece.balanced, hn⟩, parseFragment_eq_ok_iff.2 h⟩

/-- A text is read as a type exactly if it denotes the type once its blanks are gone and nowhere
nests parentheses more than 256 deep. -/
theorem parse_eq_ok_iff_denotes (text : Text) (type : ColumnType) :
    parse text = .ok type ↔
      Denotes text.withoutBlanks type ∧ NestsWithin 256 text.withoutBlanks :=
  ⟨denotes_of_parse, fun h => parse_of_denotes h.1 h.2⟩

/-- Reading a fragment needs no scan to refuse imbalance: whatever is read has balanced parentheses and no
comma outside them. So a text is read as a type exactly if its fragment is read by itself and has no
more than 256 parentheses open anywhere, and what the scan finds unbalanced would be refused all the same. -/
theorem balance_found_without_scan :
    (∀ text type, parseFragment constructs text = .ok type → isBalanced text ∧ Unbroken ',' text) ∧
      (∀ text type, parse text = .ok type ↔
        parseFragment constructs text.withoutBlanks = .ok type ∧ NestsWithin 256 text.withoutBlanks) ∧
      ∀ text, checkNesting text = .error ⟨text, .unbalanced⟩ →
        ∃ e, parseFragment constructs text = .error e := by
  have hpiece : ∀ text type, parseFragment constructs text = .ok type → IsPiece ',' text :=
    fun text type h => (denotes_of_parseFragment h).isPiece
  refine ⟨fun text type h => ⟨(hpiece text type h).balanced, (hpiece text type h).unbroken⟩, ?_, ?_⟩
  · intro text type
    rw [parseFragment_eq_ok_iff]
    exact ⟨denotes_of_parse, fun h => parse_of_denotes h.1 h.2⟩
  · intro text h
    cases hp : parseFragment constructs text with
    | error e => exact ⟨e, rfl⟩
    | ok type => exact absurd (hpiece text type hp).balanced (not_isBalanced_of_checkNesting h)

/-- A comma and parentheses inside a pair are read, and so is a zone with parentheses of its own; a text that
closes too early is refused with the scan and without. -/
theorem balance_found_without_scan_of_early_close :
    (parseFragment constructs "Map(Int8,DateTime64(3,a(b)))" =
        .ok (.map (.primitive .int8) (.dateTime64 3 (some "a(b)"))) ∧
      isBalanced "Map(Int8,DateTime64(3,a(b)))" ∧ Unbroken ',' "Map(Int8,DateTime64(3,a(b)))") ∧
    checkNesting "Tuple(Int8),Tuple(Int8))" = .error ⟨"Tuple(Int8),Tuple(Int8))", .unbalanced⟩ ∧
      ∃ e, parseFragment constructs "Tuple(Int8),Tuple(Int8))" = .error e := by
  have hp : parseFragment constructs "Map(Int8,DateTime64(3,a(b)))" =
      .ok (.map (.primitive .int8) (.dateTime64 3 (some "a(b)"))) :=
    toOption_eq_some_iff.1 (by decide +kernel)
  have hc : checkNesting "Tuple(Int8),Tuple(Int8))" =
      .error ⟨"Tuple(Int8),Tuple(Int8))", .unbalanced⟩ :=
    checkNesting_eq_error_iff.2 (by decide)
  obtain ⟨hpiece, -, hscan⟩ := balance_found_without_scan
  exact ⟨⟨hp, hpiece _ _ hp⟩, hc, hscan _ hc⟩

end ColumnType

end ColumnTypes
