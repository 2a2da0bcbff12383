import ColumnTypes.ColumnType.Spelling
import ColumnTypes.Proofs.Grammar

/-!
The canonical spelling as a normal form. A type whose tuples have elements and whose time stamps have
one digit and a readable timezone is denoted by its own spelling, and only such types are ever read. A
spelling nests exactly as deep as any other text of the same type, so the limit never cuts it off.
-/

namespace ColumnTypes

open Text

/-- Types that can be written: no tuple is empty, the precision of a time stamp is one digit, and a
timezone has neither blank nor comma and is balanced. -/
inductive WellFormed : ColumnType → Prop
  | primitive (name : Primitive) : WellFormed (.primitive name)
  | fixedString (length : UInt64) : WellFormed (.fixedString length)
  | decimal (precision scale : UInt32) : WellFormed (.decimal precision scale)
  | decimal256 (precision scale : UInt32) : WellFormed (.decimal256 precision scale)
  | dateTime64 {precision : UInt8} {timezone : Option Text} (hp : precision ≤ 9)
    (hz : ∀ zone ∈ timezone, IsZone zone ∧ Blankless zone) :
    WellFormed (.dateTime64 precision timezone)
  | array {element : ColumnType} (h : WellFormed element) : WellFormed (.array element)
  | tuple {elements : List ColumnType} (hne : elements ≠ []) (h : ∀ e ∈ elements, WellFormed e) :
    WellFormed (.tuple elements)
  | map {key value : ColumnType} (hk : WellFormed key) (hv : WellFormed value) :
    WellFormed (.map key value)
  | nullable {inner : ColumnType} (h : WellFormed inner) : WellFormed (.nullable inner)

variable {a b text inner opening : Text} {type : ColumnType}

/-! ### What is denoted is well formed -/

theorem Numeral.le_nine {digit : Char} {n : Nat} (h : Numeral [digit] n) : n ≤ 9 := by
  have hd : digit.isDigit := h.digit digit List.mem_cons_self
  have hn : digit.toNat - '0'.toNat = n := by simpa [natOfDigits, Nat.ofDigitChars_cons] using h.value
  have h9 : digit.toNat ≤ '9'.toNat := (Char.isDigit_iff_toNat.1 hd).2
  simp at hn h9
  omega

theorem precision_le_nine {digit : Char} {n : Nat} (h : Numeral [digit] n) : UInt8.ofNat n ≤ 9 := by
  have hn := h.le_nine
  have hs : n < UInt8.size := Nat.lt_of_le_of_lt hn (by decide)
  rw [UInt8.le_iff_toNat_le, UInt8.toNat_ofNat_of_lt' hs]
  exact hn

theorem Denotes.wellFormed (h : Denotes text type) (hb : Blankless text) : WellFormed type := by
  induction h with
  | leaf h =>
    cases h with
    | primitive name => exact .primitive name
    | fixedString => exact .fixedString _
    | decimal => exact .decimal _ _
    | decimal256 => exact .decimal256 _ _
    | dateTime64 hd => exact .dateTime64 (precision_le_nine hd) (by simp)
    | @dateTime64In digit n zone hd hz =>
      have hi : Blankless ([digit] ++ "," ++ zone) := hb.of_call
      refine .dateTime64 (precision_le_nine hd) ?_
      rintro _ ⟨rfl⟩
      exact ⟨hz, hi.of_infix (List.suffix_append _ _).isInfix⟩
  | array _ ih => exact .array (ih hb.of_call)
  | nullable _ ih => exact .nullable (ih hb.of_call)
  | @tuple parts hne _ ih =>
    have hi : Blankless (join "," (parts.map Prod.fst)) := hb.of_call
    refine .tuple (by simpa using hne) (List.forall_mem_map.2 fun part hm => ih part hm ?_)
    exact hi.of_infix (infix_join (List.mem_map_of_mem hm))
  | @map a b _ _ _ _ ihk ihv =>
    have hi : Blankless (join "," [a, b]) := hb.of_call
    exact .map (ihk (hi.of_infix (infix_join (by simp)))) (ihv (hi.of_infix (infix_join (by simp))))

/-! ### The spelling of each type -/

section

open ColumnType

theorem spelling_primitive (p : Primitive) : (primitive p).spelling = p.name := rfl

theorem spelling_fixedString (n : UInt64) :
    (fixedString n).spelling = "FixedString(" ++ Text.ofNat n.toNat ++ ")" := rfl

theorem spelling_decimal (p s : UInt32) :
    (decimal p s).spelling =
      "Decimal(" ++ (Text.ofNat p.toNat ++ ", " ++ Text.ofNat s.toNat) ++ ")" := by
  show "Decimal(" ++ Text.ofNat p.toNat ++ ", " ++ Text.ofNat s.toNat ++ ")" = _
  simp only [List.append_assoc]

theorem spelling_decimal256 (p s : UInt32) :
    (decimal256 p s).spelling =
      "Decimal256(" ++ (Text.ofNat p.toNat ++ ", " ++ Text.ofNat s.toNat) ++ ")" := by
  show "Decimal256(" ++ Text.ofNat p.toNat ++ ", " ++ Text.ofNat s.toNat ++ ")" = _
  simp only [List.append_assoc]

theorem spelling_dateTime64 (p : UInt8) :
    (dateTime64 p none).spelling = "DateTime64(" ++ Text.ofNat p.toNat ++ ")" := rfl

theorem spelling_dateTime64_some (p : UInt8) (zone : Text) :
    (dateTime64 p (some zone)).spelling =
      "DateTime64(" ++ (Text.ofNat p.toNat ++ ", " ++ zone) ++ ")" := by
  show "DateTime64(" ++ Text.ofNat p.toNat ++ ", " ++ zone ++ ")" = _
  simp only [List.append_assoc]

theorem spelling_array (element : ColumnType) :
    (array element).spelling = "Array(" ++ element.spelling ++ ")" := rfl

theorem spellings_eq_map (types : List ColumnType) : spellings types = types.map spelling := by
  induction types with
  | nil => rfl
  | cons type rest ih => rw [List.map_cons, ← ih]; rfl

theorem spelling_tuple (elements : List ColumnType) :
    (tuple elements).spelling = "Tuple(" ++ join ", " (elements.map spelling) ++ ")" := by
  rw [← spellings_eq_map]
  rfl

theorem spelling_map (key value : ColumnType) :
    (map key value).spelling = "Map(" ++ join ", " [key.spelling, value.spelling] ++ ")" := by
  show "Map(" ++ key.spelling ++ ", " ++ value.spelling ++ ")" = _
  simp [join]

theorem spelling_nullable (inner : ColumnType) :
    (nullable inner).spelling = "Nullable(" ++ inner.spelling ++ ")" := rfl

end

/-! ### A well-formed type is denoted by its spelling -/

theorem withoutBlanks_call (ho : Blankless opening) (inner : Text) :
    withoutBlanks (opening ++ inner ++ ")") = opening ++ withoutBlanks inner ++ ")" := by
  rw [withoutBlanks_append, withoutBlanks_append, ho.withoutBlanks_eq]
  rfl

theorem withoutBlanks_join (pieces : List Text) :
    withoutBlanks (join ", " pieces) = join "," (pieces.map withoutBlanks) := by
  induction pieces with
  | nil => rfl
  | cons first later ih =>
    cases later with
    | nil => simp [join]
    | cons next more =>
      rw [List.map_cons, List.map_cons, join_cons_cons, join_cons_cons, withoutBlanks_append,
        withoutBlanks_append, ih]
      rfl

theorem withoutBlanks_pair (ha : Blankless a) (hb : Blankless b) :
    withoutBlanks (a ++ ", " ++ b) = a ++ "," ++ b := by
  rw [withoutBlanks_append, withoutBlanks_append, ha.withoutBlanks_eq, hb.withoutBlanks_eq]
  rfl

theorem blankless_name (p : Primitive) : Blankless p.name := by
  cases p <;> decide

theorem blankless_ofNat (n : Nat) : Blankless (Text.ofNat n) :=
  blankless_of_isDigit (Numeral.ofNat n).digit

/-- A precision of one digit is spelled as one digit. -/
theorem exists_digit_of_le_nine {precision : UInt8} (h : precision ≤ 9) :
    ∃ digit, Text.ofNat precision.toNat = [digit] := by
  have hn : precision.toNat < 10 := Nat.lt_succ_of_le (UInt8.le_iff_toNat_le.1 h)
  exact ⟨_, Nat.toDigits_of_lt_base hn⟩

theorem denotes_spelling (h : WellFormed type) : Denotes type.spelling.withoutBlanks type := by
  induction h with
  | primitive name =>
    rw [spelling_primitive, (blankless_name name).withoutBlanks_eq]
    exact .leaf (.primitive name)
  | fixedString n =>
    rw [spelling_fixedString, withoutBlanks_call (by decide), (blankless_ofNat _).withoutBlanks_eq]
    simpa using Denotes.leaf (.fixedString (.ofNat n.toNat) n.toNat_lt)
  | decimal p s =>
    rw [spelling_decimal, withoutBlanks_call (by decide),
      withoutBlanks_pair (blankless_ofNat _) (blankless_ofNat _)]
    simpa using Denotes.leaf (.decimal (.ofNat p.toNat) (.ofNat s.toNat) p.toNat_lt s.toNat_lt)
  | decimal256 p s =>
    rw [spelling_decimal256, withoutBlanks_call (by decide),
      withoutBlanks_pair (blankless_ofNat _) (blankless_ofNat _)]
    simpa using Denotes.leaf (.decimal256 (.ofNat p.toNat) (.ofNat s.toNat) p.toNat_lt s.toNat_lt)
  | @dateTime64 p timezone hp hz =>
    obtain ⟨digit, hd⟩ := exists_digit_of_le_nine hp
    have hn : Numeral [digit] p.toNat := hd ▸ .ofNat p.toNat
    cases timezone with
    | none =>
      rw [spelling_dateTime64, withoutBlanks_call (by decide), (blankless_ofNat _).withoutBlanks_eq, hd]
      simpa using Denotes.leaf (.dateTime64 hn)
    | some zone =>
      obtain ⟨hz, hb⟩ := hz zone rfl
      rw [spelling_dateTime64_some, withoutBlanks_call (by decide),
        withoutBlanks_pair (blankless_ofNat _) hb, hd]
      simpa using Denotes.leaf (.dateTime64In hn hz)
  | array _ ih =>
    rw [spelling_array, withoutBlanks_call (by decide)]
    exact .array ih
  | nullable _ ih =>
    rw [spelling_nullable, withoutBlanks_call (by decide)]
    exact .nullable ih
  | @tuple elements hne _ ih =>
    rw [spelling_tuple, withoutBlanks_call (by decide), withoutBlanks_join]
    have hd := @Denotes.tuple (elements.map fun e => (e.spelling.withoutBlanks, e)) (by simpa using hne)
      (List.forall_mem_map.2 ih)
    simpa [Function.comp_def] using hd
  | map _ _ ihk ihv =>
    rw [spelling_map, withoutBlanks_call (by decide), withoutBlanks_join]
    exact .map ihk ihv

theorem parse_spelling_of_wellFormed (hw : WellFormed type) (hn : NestsWithin 256 type.spelling) :
    ColumnType.parse type.spelling = .ok type :=
  ColumnType.parse_of_denotes (denotes_spelling hw) ((nestsWithinFrom_withoutBlanks 0 256 _).2 hn)

theorem wellFormed_of_parse (h : ColumnType.parse text = .ok type) : WellFormed type :=
  (ColumnType.denotes_of_parse h).1.wellFormed (blankless_withoutBlanks text)

/-- A spelling is read as its type exactly if the type can be written and nests within the limit. -/
theorem parse_spelling_eq_ok_iff (type : ColumnType) :
    ColumnType.parse type.spelling = .ok type ↔
      WellFormed type ∧ NestsWithin 256 type.spelling := by
  constructor
  · intro h
    exact ⟨wellFormed_of_parse h,
      (nestsWithinFrom_withoutBlanks 0 256 _).1 (ColumnType.denotes_of_parse h).2⟩
  · rintro ⟨hw, hn⟩
    exact parse_spelling_of_wellFormed hw hn

/-! ### The nesting of a spelling -/

/-- Two balanced texts that nest equally deep. -/
structure NestsAlike (a b : Text) : Prop where
  left : isBalanced a
  right : isBalanced b
  within : ∀ limit, NestsWithin limit a ↔ NestsWithin limit b

namespace NestsAlike

theorem refl (h : isBalanced a) : NestsAlike a a := ⟨h, h, fun _ => Iff.rfl⟩

theorem of_flat (ha : Flat a) (hb : Flat b) : NestsAlike a b :=
  ⟨isBalanced_of_flat ha, isBalanced_of_flat hb, fun _ =>
    (nestsWithinFrom_of_flat ha).trans (nestsWithinFrom_of_flat hb).symm⟩

theorem call (ho : IsOpening opening) (h : NestsAlike a b) :
    NestsAlike (opening ++ a ++ ")") (opening ++ b ++ ")") :=
  ⟨isBalanced_call ho h.left, isBalanced_call ho h.right, fun _ =>
    (nestsWithin_call ho).trans ((h.within _).trans (nestsWithin_call ho).symm)⟩

theorem append {a' b' : Text} (h : NestsAlike a b) (h' : NestsAlike a' b') :
    NestsAlike (a ++ a') (b ++ b') := by
  have ha : depthFrom 0 a = 0 := depthFrom_of_isBalanced h.left 0
  have hb : depthFrom 0 b = 0 := depthFrom_of_isBalanced h.right 0
  refine ⟨(isBalanced_append_iff ha).2 ⟨h.left, h'.left⟩,
    (isBalanced_append_iff hb).2 ⟨h.right, h'.right⟩, fun limit => ?_⟩
  have hw := h.within limit
  have hw' := h'.within limit
  unfold NestsWithin at *
  rw [nestsWithinFrom_append, ha, nestsWithinFrom_append, hb, hw, hw']

/-- Joins nest alike if their pieces do, whatever the separators. -/
theorem join {s t : Text} {as bs : List Text} (hs : Flat s) (ht : Flat t)
    (h : List.Forall₂ NestsAlike as bs) : NestsAlike (join s as) (join t bs) := by
  induction h with
  | nil => exact refl rfl
  | cons hab hl ih =>
    cases hl with
    | nil => simpa [Text.join] using hab
    | cons =>
      rw [join_cons_cons, join_cons_cons]
      exact hab.append ((of_flat hs ht).append ih)

end NestsAlike

theorem flat_ofNat (n : Nat) : Flat (Text.ofNat n) := (Numeral.ofNat n).flat

/-- No pair of numbers nests, however it is written. -/
theorem nestsAlike_pair {m n : Nat} (ha : Numeral a m) (hb : Numeral b n) (p s : Nat) :
    NestsAlike (a ++ "," ++ b) (Text.ofNat p ++ ", " ++ Text.ofNat s) := by
  have hc : Flat ("," : Text) := by decide
  have hs : Flat (", " : Text) := by decide
  refine .of_flat ((ha.flat.append hc).append hb.flat) ?_
  exact ((flat_ofNat p).append hs).append (flat_ofNat s)

theorem Leaf.nestsAlike (h : Leaf text type) : NestsAlike text type.spelling := by
  cases h with
  | primitive name => exact .of_flat name.flat_name name.flat_name
  | fixedString hd => exact .call (by decide) (.of_flat hd.flat (flat_ofNat _))
  | decimal ha hb =>
    rw [spelling_decimal]
    exact .call (by decide) (nestsAlike_pair ha hb _ _)
  | decimal256 ha hb =>
    rw [spelling_decimal256]
    exact .call (by decide) (nestsAlike_pair ha hb _ _)
  | dateTime64 hd => exact .call (by decide) (.of_flat hd.flat (flat_ofNat _))
  | dateTime64In hd hz =>
    have hc : Flat ("," : Text) := by decide
    have hs : Flat (", " : Text) := by decide
    rw [spelling_dateTime64_some]
    refine .call (by decide) (.append (.of_flat (hd.flat.append hc) ?_) (.refl hz.balanced))
    exact (flat_ofNat _).append hs

/-- A spelling nests as deep as every text of the type. -/
theorem Denotes.nestsAlike (h : Denotes text type) : NestsAlike text type.spelling := by
  induction h with
  | leaf h => exact h.nestsAlike
  | array _ ih => exact .call (by decide) ih
  | nullable _ ih => exact .call (by decide) ih
  | @tuple parts _ _ ih =>
    rw [spelling_tuple, List.map_map]
    refine .call (by decide) (.join (by decide) (by decide) ?_)
    rwa [List.forall₂_map_left_iff, List.forall₂_map_right_iff, List.forall₂_same]
  | map _ _ ihk ihv =>
    rw [spelling_map]
    exact .call (by decide) (.join (by decide) (by decide) (.cons ihk (.cons ihv .nil)))

/-- What was read is read from its spelling again: the limit on the text is one on its spelling. -/
theorem parse_spelling_of_parse (h : ColumnType.parse text = .ok type) :
    ColumnType.parse type.spelling = .ok type ∧ NestsWithin 256 type.spelling := by
  obtain ⟨hd, hl⟩ := ColumnType.denotes_of_parse h
  have hn : NestsWithin 256 type.spelling := (hd.nestsAlike.within 256).1 hl
  exact ⟨parse_spelling_of_wellFormed (wellFormed_of_parse h) hn, hn⟩

/-- Among the types that can be read at all, the spelling is a normal form: it is read as the type it
spells, nests within the limit, and is the same for two types only if they are equal. -/
theorem spelling_normal_form :
    (∀ text type, ColumnType.parse text = .ok type →
      ColumnType.parse type.spelling = .ok type ∧ NestsWithin 256 type.spelling) ∧
    ∀ a b m n, ColumnType.parse a = .ok m → ColumnType.parse b = .ok n →
      (m = n ↔ m.spelling = n.spelling) := by
  refine ⟨fun text type => parse_spelling_of_parse, fun a b m n ha hb => ⟨congrArg _, fun h => ?_⟩⟩
  have hm := (parse_spelling_of_parse ha).1
  rw [h, (parse_spelling_of_parse hb).1] at hm
  exact (Except.ok.inj hm).symm

/-- Blanks and leading zeros do not outlive the spelling, the parentheses of a timezone do. -/
theorem spelling_normal_form_of_two_zones :
    let m : ColumnType := .map (.fixedString 7) (.dateTime64 3 (some "(UTC)"))
    let n : ColumnType := .map (.fixedString 7) (.dateTime64 3 (some "UTC"))
    (ColumnType.parse m.spelling = .ok m ∧ NestsWithin 256 m.spelling) ∧
      (m = n ↔ m.spelling = n.spelling) := by
  intro m n
  have hm : ColumnType.parse " Map( FixedString(007) , DateTime64 (3, (U TC)) )" = .ok m :=
    toOption_eq_some_iff.1 (by decide +kernel)
  have hn : ColumnType.parse "Map(FixedString(7),DateTime64(3,UTC))" = .ok n :=
    toOption_eq_some_iff.1 (by decide +kernel)
  exact ⟨spelling_normal_form.1 _ _ hm, spelling_normal_form.2 _ _ _ _ hm hn⟩

end ColumnTypes
