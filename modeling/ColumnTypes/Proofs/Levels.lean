import ColumnTypes.ColumnType.Parser
import ColumnTypes.Proofs.Results
import ColumnTypes.Proofs.Segments

/-!
What reading one level of a type amounts to. `Outermost` relates a text to its outermost level by the
shape of the text alone, and a level is read exactly if the text has that shape. Nothing is said about
the parts of a level, which may be any texts at all.
-/

namespace ColumnTypes

open Text

/-! ### Numbers -/

/-- One or more ASCII digits, leading zeros allowed, of value `n`. -/
structure Numeral (digits : Text) (n : Nat) : Prop where
  nonempty : digits ≠ []
  digit : ∀ c ∈ digits, c.isDigit
  value : natOfDigits digits = n

namespace Numeral

variable {digits : Text} {n : Nat}

theorem flat (h : Numeral digits n) : Flat digits := by
  intro c hc
  constructor
  · rintro rfl
    exact absurd (h.digit _ hc) (by decide)
  · rintro rfl
    exact absurd (h.digit _ hc) (by decide)

theorem comma_notMem (h : Numeral digits n) : ',' ∉ digits :=
  fun hc => absurd (h.digit _ hc) (by decide)

theorem ofNat (n : Nat) : Numeral (Text.ofNat n) n where
  nonempty := Nat.toDigits_ne_nil
  digit _ hc := Nat.isDigit_of_mem_toDigits (by decide) (by decide) hc
  value := Nat.ofDigitChars_ten_toDigits

theorem toNat?_eq_some_iff : digits.toNat? = some n ↔ Numeral digits n := by
  unfold toNat?
  constructor
  · intro h
    split at h
    · cases h
    · rename_i hd
      simp only [Bool.or_eq_true, List.isEmpty_iff, Bool.not_eq_true', not_or, Bool.not_eq_false,
        List.all_eq_true] at hd
      exact ⟨hd.1, hd.2, Option.some.inj h⟩
  · rintro ⟨hne, hd, rfl⟩
    rw [if_neg]
    simpa [hne] using hd

end Numeral

theorem readUnsigned_eq_ok_iff {quantity : Quantity} {bound : Nat} {text : Text} {n : Fin bound} :
    readUnsigned quantity bound text = .ok n ↔ Numeral text n := by
  rw [← Numeral.toNat?_eq_some_iff, readUnsigned]
  cases text.toNat? with
  | none => simp
  | some m =>
    simp only [Option.some.injEq]
    constructor
    · intro h
      split at h
      · cases h
        rfl
      · cases h
    · rintro rfl
      simp

theorem readDecimal_eq_ok_iff {keyword inner : Text} {precision scale : UInt32} :
    readDecimal keyword inner = .ok (precision, scale) ↔
      ∃ a b, inner = a ++ ',' :: b ∧ Numeral a precision.toNat ∧ Numeral b scale.toNat := by
  unfold readDecimal
  constructor
  · intro h
    split at h
    · cases h
    · rename_i a b hs
      obtain ⟨p, hp, h⟩ := bind_eq_ok_iff.1 h
      obtain ⟨s, hs', h⟩ := bind_eq_ok_iff.1 h
      cases h
      exact ⟨a, b, (splitFirst?_eq_some_iff.1 hs).1, readUnsigned_eq_ok_iff.1 hp,
        readUnsigned_eq_ok_iff.1 hs'⟩
  · rintro ⟨a, b, rfl, ha, hb⟩
    rw [splitFirst?_eq_some_iff.2 ⟨rfl, ha.comma_notMem⟩]
    have hp : readUnsigned .precision UInt32.size a = .ok precision.toFin :=
      readUnsigned_eq_ok_iff.2 ha
    have hs : readUnsigned .scale UInt32.size b = .ok scale.toFin := readUnsigned_eq_ok_iff.2 hb
    exact bind_eq_ok_iff.2 ⟨_, hp, bind_eq_ok_iff.2 ⟨_, hs, rfl⟩⟩

theorem readDecimal_of_numerals (keyword : Text) {a b : Text} {p s : Nat} (ha : Numeral a p)
    (hb : Numeral b s) (hp : p < UInt32.size) (hs : s < UInt32.size) :
    readDecimal keyword (a ++ "," ++ b) = .ok (.ofNat p, .ofNat s) := by
  refine readDecimal_eq_ok_iff.2 ⟨a, b, by simp, ?_, ?_⟩
  · rwa [UInt32.toNat_ofNat_of_lt' hp]
  · rwa [UInt32.toNat_ofNat_of_lt' hs]

/-! ### Time stamps -/

/-- The text of a timezone. It is opaque but for the comma and the balance of its parentheses. -/
structure IsZone (zone : Text) : Prop where
  nonempty : zone ≠ []
  unsplit : ',' ∉ zone
  balanced : zone.isBalanced

theorem readPrecision_eq_ok_iff {code : Text} {precision : UInt8} :
    readPrecision code = .ok precision ↔
      ∃ digit n, code = [digit] ∧ Numeral [digit] n ∧ precision = .ofNat n := by
  constructor
  · intro h
    unfold readPrecision at h
    split at h
    · rename_i c
      split at h
      · rename_i hd
        cases h
        exact ⟨c, _, rfl, ⟨by simp, by simpa using hd, rfl⟩, by simp [natOfDigits, Nat.ofDigitChars_cons]⟩
      · cases h
    · cases h
  · rintro ⟨digit, n, rfl, ⟨-, hd, rfl⟩, rfl⟩
    have hd : digit.isDigit := by simpa using hd
    simp [readPrecision, hd, natOfDigits, Nat.ofDigitChars_cons]

theorem error_of_readPrecision {code : Text} {e : MalformedType} (h : readPrecision code = .error e) :
    e = ⟨code, .timestampPrecision⟩ := by
  unfold readPrecision at h
  split at h
  · split at h
    · cases h
    · exact (Except.error.inj h).symm
  · exact (Except.error.inj h).symm

/-- Two entries at most: the text has no separator, or one between its two pieces. -/
theorem padded_two_eq_ok_iff {separator : Char} {text : Text} {entries : List (Option Text)} :
    padded separator 2 text = .ok entries ↔
      (entries = [some text, none] ∧ separator ∉ text) ∨
        ∃ a b, entries = [some a, some b] ∧ text = a ++ separator :: b ∧ separator ∉ a ∧ separator ∉ b := by
  constructor
  · intro h
    match hs : text.splitOn separator with
    | [] => exact absurd hs (List.splitOn_ne_nil _ _)
    | [a] =>
      obtain ⟨-, rfl, ha⟩ := splitOn_eq_iff.1 hs
      simp only [padded, hs] at h
      cases h
      exact .inl ⟨by simp [join], by simpa [join] using ha⟩
    | [a, b] =>
      obtain ⟨-, rfl, hab⟩ := splitOn_eq_iff.1 hs
      simp only [padded, hs] at h
      cases h
      exact .inr ⟨a, b, rfl, by simp [join], hab a (by simp), hab b (by simp)⟩
    | _ :: _ :: _ :: _ => simp [padded, hs] at h
  · rintro (⟨rfl, ht⟩ | ⟨a, b, rfl, rfl, ha, hb⟩)
    · have hs : text.splitOn separator = [text] := List.splitOn_eq_singleton ht
      simp [padded, hs]
    · have hs : (a ++ separator :: b).splitOn separator = [a, b] := by
        rw [List.splitOn_append_cons_self_of_not_mem ha, List.splitOn_eq_singleton hb]
      simp [padded, hs]

/-- Two entries are a piece and perhaps another. -/
theorem exists_of_padded_two {separator : Char} {text : Text} {entries : List (Option Text)}
    (h : padded separator 2 text = .ok entries) : ∃ code timezone, entries = [some code, timezone] := by
  rcases padded_two_eq_ok_iff.1 h with ⟨rfl, -⟩ | ⟨a, b, rfl, -⟩
  · exact ⟨text, none, rfl⟩
  · exact ⟨a, some b, rfl⟩

/-- An error is about the first piece, or about the whole text but never for want of a piece. -/
theorem readTimestamp_error_cases {inner : Text} {e : MalformedType}
    (h : readTimestamp inner = .error e) :
    (e.input = inner ∧ e.fault ≠ .timestampParameters) ∨
      ∃ code timezone, padded ',' 2 inner = .ok [some code, timezone] ∧
        e = ⟨code, .timestampPrecision⟩ := by
  unfold readTimestamp at h
  split at h
  · split at h
    · cases h
      simp
    · rename_i first timezone hp
      obtain ⟨code, _, hc⟩ := exists_of_padded_two hp
      obtain ⟨rfl, rfl⟩ : first = some code ∧ timezone = _ := by simpa using hc
      rcases bind_eq_error_iff.1 h with hc | ⟨precision, -, h⟩
      · exact .inr ⟨code, timezone, hp, error_of_readPrecision hc⟩
      · split at h
        · cases h
          simp
        · cases h
    · rename_i entries hne hp
      obtain ⟨code, timezone, rfl⟩ := exists_of_padded_two hp
      exact absurd rfl (hne (some code) timezone)
  · cases h
    simp

theorem readTimestamp_eq_ok_iff_entries {inner : Text} {type : ColumnType} :
    readTimestamp inner = .ok type ↔
      inner.isBalanced ∧ ∃ code timezone precision, padded ',' 2 inner = .ok [code, timezone] ∧
        readPrecision (code.getD []) = .ok precision ∧ timezone ≠ some [] ∧
        type = .dateTime64 precision timezone := by
  unfold readTimestamp
  constructor
  · intro h
    split at h
    · rename_i hb
      split at h
      · cases h
      · rename_i code timezone he
        obtain ⟨precision, hp, h⟩ := bind_eq_ok_iff.1 h
        split at h
        · cases h
        · rename_i hz
          cases h
          exact ⟨hb, code, timezone, precision, he, hp, hz, rfl⟩
      · cases h
    · cases h
  · rintro ⟨hb, code, timezone, precision, he, hp, hz, rfl⟩
    rw [if_pos hb, he]
    exact bind_eq_ok_iff.2 ⟨precision, hp, if_neg hz⟩

/-- A digit and a comma in front of a zone do not touch its balance. -/
theorem isBalanced_after_digit {digit : Char} {n : Nat} (hd : Numeral [digit] n) (zone : Text) :
    isBalanced (digit :: ',' :: zone) ↔ isBalanced zone := by
  have hs : Flat ("," : Text) := by decide
  have hf : Flat ([digit] ++ ",") := hd.flat.append hs
  rw [show digit :: ',' :: zone = [digit] ++ "," ++ zone from rfl,
    isBalanced_append_iff (depthFrom_of_flat hf 0)]
  exact ⟨fun h => h.2, fun h => ⟨isBalanced_of_flat hf, h⟩⟩

theorem readTimestamp_eq_ok_iff {inner : Text} {type : ColumnType} :
    readTimestamp inner = .ok type ↔
      ∃ digit n, Numeral [digit] n ∧
        (inner = [digit] ∧ type = .dateTime64 (.ofNat n) none ∨
          ∃ zone, IsZone zone ∧ inner = digit :: ',' :: zone ∧
            type = .dateTime64 (.ofNat n) (some zone)) := by
  rw [readTimestamp_eq_ok_iff_entries]
  constructor
  · rintro ⟨hb, code, timezone, precision, he, hp, hz, rfl⟩
    obtain ⟨digit, n, hc, hn, rfl⟩ := readPrecision_eq_ok_iff.1 hp
    refine ⟨digit, n, hn, ?_⟩
    rcases padded_two_eq_ok_iff.1 he with ⟨hl, -⟩ | ⟨a, zone, hl, hi, -, hu⟩
    · obtain ⟨rfl, rfl⟩ : code = some inner ∧ timezone = none := by simpa using hl
      exact .inl ⟨hc, rfl⟩
    · obtain ⟨rfl, rfl⟩ : code = some a ∧ timezone = some zone := by simpa using hl
      obtain rfl : a = [digit] := hc
      subst hi
      exact .inr ⟨zone, ⟨by simpa using hz, hu, (isBalanced_after_digit hn zone).1 hb⟩, rfl, rfl⟩
  · rintro ⟨digit, n, hn, ⟨rfl, rfl⟩ | ⟨zone, hz, rfl, rfl⟩⟩
    · exact ⟨isBalanced_of_flat hn.flat, some [digit], none, .ofNat n,
        padded_two_eq_ok_iff.2 (.inl ⟨rfl, hn.comma_notMem⟩),
        readPrecision_eq_ok_iff.2 ⟨digit, n, rfl, hn, rfl⟩, by simp, rfl⟩
    · exact ⟨(isBalanced_after_digit hn zone).2 hz.balanced, some [digit], some zone, .ofNat n,
        padded_two_eq_ok_iff.2 (.inr ⟨[digit], zone, rfl, rfl, hn.comma_notMem, hz.unsplit⟩),
        readPrecision_eq_ok_iff.2 ⟨digit, n, rfl, hn, rfl⟩, by simpa using hz.nonempty, rfl⟩

/-! ### The table of constructs -/

namespace Construct

theorem foldl_longer (best : Construct) (table : List Construct) :
    ∃ c, table.foldl longer (some best) = some c ∧ (c = best ∨ c ∈ table) ∧
      best.opening.length ≤ c.opening.length ∧
      ∀ c' ∈ table, c'.opening.length ≤ c.opening.length := by
  induction table generalizing best with
  | nil => exact ⟨best, rfl, .inl rfl, le_rfl, by simp⟩
  | cons next rest ih =>
    rw [List.foldl_cons]
    by_cases hl : best.opening.length ≤ next.opening.length
    · obtain ⟨c, hc, hm, hb, hr⟩ := ih next
      refine ⟨c, by rw [← hc, longer, if_pos hl], ?_, hl.trans hb, List.forall_mem_cons.2 ⟨hb, hr⟩⟩
      rcases hm with rfl | hm
      · exact .inr List.mem_cons_self
      · exact .inr (List.mem_cons_of_mem _ hm)
    · obtain ⟨c, hc, hm, hb, hr⟩ := ih best
      refine ⟨c, by rw [← hc, longer, if_neg hl], ?_, hb, List.forall_mem_cons.2 ⟨by omega, hr⟩⟩
      exact hm.imp id (List.mem_cons_of_mem _)

/-- The longest opening that fits, or no opening fits. -/
theorem longest?_spec (table : List Construct) (text : Text) :
    (longest? table text = none ∧ ∀ c ∈ table, ¬c.opening <+: text) ∨
      ∃ c ∈ table, longest? table text = some c ∧ c.opening <+: text ∧
        ∀ c' ∈ table, c'.opening <+: text → c'.opening.length ≤ c.opening.length := by
  have hm (c : Construct) :
      c ∈ table.filter (·.opening.isPrefixOf text) ↔ c ∈ table ∧ c.opening <+: text := by simp
  rw [longest?]
  match hf : table.filter (·.opening.isPrefixOf text) with
  | [] =>
    rw [hf] at hm ⊢
    exact .inl ⟨rfl, fun c hc hp => by simpa using (hm c).2 ⟨hc, hp⟩⟩
  | first :: rest =>
    rw [hf] at hm ⊢
    obtain ⟨c, hc, hcm, hb, hr⟩ := foldl_longer first rest
    obtain ⟨ht, hp⟩ := (hm c).1 (List.mem_cons.2 hcm)
    have hl : ∀ c' ∈ first :: rest, c'.opening.length ≤ c.opening.length :=
      List.forall_mem_cons.2 ⟨hb, hr⟩
    exact .inr ⟨c, ht, hc, hp, fun c' hc' hp' => hl c' ((hm c').2 ⟨hc', hp'⟩)⟩

theorem isOpening_of_mem {c : Construct} (hc : c ∈ constructs) : IsOpening c.opening := by
  have h : ∀ c ∈ constructs, IsOpening c.opening := by decide
  exact h c hc

theorem eq_of_opening_eq {c c' : Construct} (hc : c ∈ constructs) (hc' : c' ∈ constructs)
    (he : c.opening = c'.opening) : c = c' := by
  have h : ∀ c ∈ constructs, ∀ c' ∈ constructs, c.opening = c'.opening → c = c' := by decide
  exact h c hc c' hc' he

/-- A text is opened by at most one construct. -/
theorem longest?_eq_some_iff {text : Text} {c : Construct} :
    longest? constructs text = some c ↔ c ∈ constructs ∧ c.opening <+: text := by
  constructor
  · intro h
    rcases longest?_spec constructs text with ⟨hn, -⟩ | ⟨c', hc', hs, hp, -⟩
    · rw [h] at hn
      cases hn
    · obtain rfl := Option.some.inj (h.symm.trans hs)
      exact ⟨hc', hp⟩
  · rintro ⟨hc, hp⟩
    rcases longest?_spec constructs text with ⟨-, hn⟩ | ⟨c', hc', hs, hp', -⟩
    · exact absurd hp (hn c hc)
    · have he : c.opening = c'.opening :=
        ((isOpening_of_mem hc).eq_takeWhile hp).trans ((isOpening_of_mem hc').eq_takeWhile hp').symm
      rw [hs, eq_of_opening_eq hc hc' he]

end Construct

/-! ### The beginning of a fragment -/

theorem dropLast?_eq_some_iff {last : Char} {text rest : Text} :
    dropLast? last text = some rest ↔ text = rest ++ [last] := by
  unfold dropLast?
  constructor
  · intro h
    split at h
    · rename_i hl
      rw [← Option.some.inj h, List.dropLast_append_getLast? last hl]
    · cases h
  · rintro rfl
    simp

theorem Primitive.flat_name (p : Primitive) : Flat p.name := by
  cases p <;> decide

theorem Primitive.comma_notMem_name (p : Primitive) : ',' ∉ p.name := by
  cases p <;> decide

namespace Head

variable {text inner : Text} {c : Construct}

theorem read_eq_primitive_iff {p : Primitive} :
    read constructs text = .ok (.primitive p) ↔ text = p.name := by
  unfold read
  constructor
  · intro h
    split at h
    · cases h
    · split at h
      · rename_i hp
        cases h
        exact Primitive.ofName?_eq_some_iff.1 hp
      · split at h
        · cases h
        · split at h <;> cases h
  · rintro rfl
    have hne : p.name.isEmpty = false := by cases p <;> rfl
    simp [hne, Primitive.ofName?_name]

theorem read_eq_construct_iff :
    read constructs text = .ok (.construct c inner) ↔
      c ∈ constructs ∧ text = c.opening ++ inner ++ ")" := by
  unfold read
  constructor
  · intro h
    split at h
    · cases h
    · split at h
      · cases h
      · split at h
        · cases h
        · rename_i c' hc
          split at h
          · cases h
          · rename_i rest hd
            cases h
            obtain ⟨hm, after, rfl⟩ := Construct.longest?_eq_some_iff.1 hc
            rw [List.drop_left, dropLast?_eq_some_iff] at hd
            exact ⟨hm, by rw [hd, List.append_assoc]; rfl⟩
  · rintro ⟨hc, rfl⟩
    obtain ⟨keyword, -, hk⟩ := (Construct.isOpening_of_mem hc).exists_keyword
    have hne : (c.opening ++ inner ++ ")").isEmpty = false := by simp [hk]
    -- names are tried first, but none of them has a parenthesis
    have hp : Primitive.ofName? (c.opening ++ inner ++ ")") = none := by
      refine Option.eq_none_iff_forall_ne_some.2 fun p hp => ?_
      have hm : '(' ∈ p.name := by
        rw [← Primitive.ofName?_eq_some_iff.1 hp, hk]
        simp
      exact (p.flat_name _ hm).1 rfl
    have hl : Construct.longest? constructs (c.opening ++ inner ++ ")") = some c :=
      Construct.longest?_eq_some_iff.2 ⟨hc, by rw [List.append_assoc]; exact List.prefix_append _ _⟩
    have hd : dropLast? ')' ((c.opening ++ inner ++ ")").drop c.opening.length) = some inner := by
      rw [List.append_assoc, List.drop_left, dropLast?_eq_some_iff]
      rfl
    simp only [hne, hp, hl, hd, Bool.false_eq_true, if_false]

end Head

/-! ### The outermost level -/

/-- The texts of the types that hold no further types. -/
inductive Leaf : Text → ColumnType → Prop
  | primitive (name : Primitive) : Leaf name.name (.primitive name)
  | fixedString {digits : Text} {n : Nat} (hd : Numeral digits n) (hn : n < UInt64.size) :
    Leaf ("FixedString(" ++ digits ++ ")") (.fixedString (.ofNat n))
  | decimal {a b : Text} {p s : Nat} (ha : Numeral a p) (hb : Numeral b s)
    (hp : p < UInt32.size) (hs : s < UInt32.size) :
    Leaf ("Decimal(" ++ (a ++ "," ++ b) ++ ")") (.decimal (.ofNat p) (.ofNat s))
  | decimal256 {a b : Text} {p s : Nat} (ha : Numeral a p) (hb : Numeral b s)
    (hp : p < UInt32.size) (hs : s < UInt32.size) :
    Leaf ("Decimal256(" ++ (a ++ "," ++ b) ++ ")") (.decimal256 (.ofNat p) (.ofNat s))
  | dateTime64 {digit : Char} {n : Nat} (hd : Numeral [digit] n) :
    Leaf ("DateTime64(" ++ [digit] ++ ")") (.dateTime64 (.ofNat n) none)
  | dateTime64In {digit : Char} {n : Nat} {zone : Text} (hd : Numeral [digit] n) (hz : IsZone zone) :
    Leaf ("DateTime64(" ++ ([digit] ++ "," ++ zone) ++ ")") (.dateTime64 (.ofNat n) (some zone))

theorem Leaf.isPiece {text : Text} {type : ColumnType} (h : Leaf text type) : IsPiece ',' text := by
  cases h with
  | primitive name => exact isPiece_of_flat name.flat_name name.comma_notMem_name
  | fixedString hd hn =>
    exact isPiece_call (by decide) (by decide) (by decide) (isBalanced_of_flat hd.flat)
  | decimal ha hb hp hs | decimal256 ha hb hp hs =>
    have hs : Flat ("," : Text) := by decide
    have hf := (ha.flat.append hs).append hb.flat
    exact isPiece_call (by decide) (by decide) (by decide) (isBalanced_of_flat hf)
  | dateTime64 hd =>
    exact isPiece_call (by decide) (by decide) (by decide) (isBalanced_of_flat hd.flat)
  | @dateTime64In digit n zone hd hz =>
    have hb := (isBalanced_after_digit hd zone).2 hz.balanced
    exact isPiece_call (by decide) (by decide) (by decide) hb

/-- The outermost level of a text by its shape. The parts are any texts at all. -/
inductive Outermost : Text → Level → Prop
  | leaf {text : Text} {type : ColumnType} (h : Leaf text type) : Outermost text (.whole type)
  | array (element : Text) : Outermost ("Array(" ++ element ++ ")") (.array element)
  | tuple {inner : Text} {elements : List Text} (h : Cuts ',' 0 inner elements) :
    Outermost ("Tuple(" ++ inner ++ ")") (.tuple elements)
  | map {inner key value : Text} (h : Cuts ',' 0 inner [key, value]) :
    Outermost ("Map(" ++ inner ++ ")") (.map key value)
  | nullable (inner : Text) : Outermost ("Nullable(" ++ inner ++ ")") (.nullable inner)

namespace Level

variable {text inner : Text} {level : Level}

theorem read_construct (c : Construct) (hc : c ∈ constructs) (inner : Text) :
    read constructs (c.opening ++ inner ++ ")") = c.keyword.level inner := by
  simp only [read, Head.read_eq_construct_iff.2 ⟨hc, rfl⟩]

theorem outermost_of_keyword {c : Construct} (hc : c ∈ constructs)
    (h : c.keyword.level inner = .ok level) : Outermost (c.opening ++ inner ++ ")") level := by
  obtain ⟨opening, keyword⟩ := c
  cases keyword with
  | dateTime64 =>
    obtain rfl : opening = "DateTime64(" := by simpa [constructs] using hc
    obtain ⟨type, ht, rfl⟩ := map_eq_ok_iff.1 h
    obtain ⟨digit, n, hn, ⟨rfl, rfl⟩ | ⟨zone, hz, rfl, rfl⟩⟩ := readTimestamp_eq_ok_iff.1 ht
    · exact .leaf (.dateTime64 hn)
    · exact .leaf (.dateTime64In hn hz)
  | decimal =>
    obtain rfl : opening = "Decimal(" := by simpa [constructs] using hc
    obtain ⟨⟨p, s⟩, hr, rfl⟩ := map_eq_ok_iff.1 h
    obtain ⟨a, b, rfl, ha, hb⟩ := readDecimal_eq_ok_iff.1 hr
    simpa using Outermost.leaf (.decimal ha hb p.toNat_lt s.toNat_lt)
  | decimal256 =>
    obtain rfl : opening = "Decimal256(" := by simpa [constructs] using hc
    obtain ⟨⟨p, s⟩, hr, rfl⟩ := map_eq_ok_iff.1 h
    obtain ⟨a, b, rfl, ha, hb⟩ := readDecimal_eq_ok_iff.1 hr
    simpa using Outermost.leaf (.decimal256 ha hb p.toNat_lt s.toNat_lt)
  | fixedString =>
    obtain rfl : opening = "FixedString(" := by simpa [constructs] using hc
    obtain ⟨n, hr, rfl⟩ := map_eq_ok_iff.1 h
    simpa using Outermost.leaf (.fixedString (readUnsigned_eq_ok_iff.1 hr) n.isLt)
  | array =>
    obtain rfl : opening = "Array(" := by simpa [constructs] using hc
    cases h
    exact .array inner
  | tuple =>
    obtain rfl : opening = "Tuple(" := by simpa [constructs] using hc
    cases h
    exact .tuple (cuts_segments (by decide) (by decide) inner)
  | map =>
    obtain rfl : opening = "Map(" := by simpa [constructs] using hc
    simp only [Keyword.level] at h
    split at h
    · rename_i key value hs
      cases h
      exact .map ((cuts_iff (by decide) (by decide)).2 hs.symm)
    · cases h
  | nullable =>
    obtain rfl : opening = "Nullable(" := by simpa [constructs] using hc
    cases h
    exact .nullable inner

theorem read_of_leaf {type : ColumnType} (h : Leaf text type) :
    read constructs text = .ok (.whole type) := by
  cases h with
  | primitive name => simp only [read, Head.read_eq_primitive_iff.2 rfl]
  | @fixedString digits n hd hn =>
    have hr : readUnsigned .length UInt64.size digits = .ok ⟨n, hn⟩ := readUnsigned_eq_ok_iff.2 hd
    refine (read_construct ⟨"FixedString(", .fixedString⟩ (by decide) digits).trans ?_
    have hw : UInt64.ofFin ⟨n, hn⟩ = .ofNat n := UInt64.ofNatLT_eq_ofNat n
    exact map_eq_ok_iff.2 ⟨_, hr, by rw [hw]⟩
  | @decimal a b p s ha hb hp hs =>
    refine (read_construct ⟨"Decimal(", .decimal⟩ (by decide) (a ++ "," ++ b)).trans ?_
    exact map_eq_ok_iff.2 ⟨_, readDecimal_of_numerals "Decimal" ha hb hp hs, rfl⟩
  | @decimal256 a b p s ha hb hp hs =>
    refine (read_construct ⟨"Decimal256(", .decimal256⟩ (by decide) (a ++ "," ++ b)).trans ?_
    exact map_eq_ok_iff.2 ⟨_, readDecimal_of_numerals "Decimal256" ha hb hp hs, rfl⟩
  | @dateTime64 digit n hd =>
    refine (read_construct ⟨"DateTime64(", .dateTime64⟩ (by decide) [digit]).trans ?_
    exact map_eq_ok_iff.2 ⟨_, readTimestamp_eq_ok_iff.2 ⟨digit, n, hd, .inl ⟨rfl, rfl⟩⟩, rfl⟩
  | @dateTime64In digit n zone hd hz =>
    refine (read_construct ⟨"DateTime64(", .dateTime64⟩ (by decide) ([digit] ++ "," ++ zone)).trans ?_
    exact map_eq_ok_iff.2
      ⟨_, readTimestamp_eq_ok_iff.2 ⟨digit, n, hd, .inr ⟨zone, hz, rfl, rfl⟩⟩, rfl⟩

/-- A level is read exactly from the texts of its shape. -/
theorem read_eq_ok_iff : read constructs text = .ok level ↔ Outermost text level := by
  constructor
  · intro h
    unfold read at h
    split at h
    · cases h
    · rename_i p hp
      cases h
      obtain rfl := Head.read_eq_primitive_iff.1 hp
      exact .leaf (.primitive p)
    · rename_i c inner hc
      obtain ⟨hm, rfl⟩ := Head.read_eq_construct_iff.1 hc
      exact outermost_of_keyword hm h
  · intro h
    cases h with
    | leaf h => exact read_of_leaf h
    | array element => exact read_construct ⟨"Array(", .array⟩ (by decide) element
    | @tuple inner elements h =>
      refine (read_construct ⟨"Tuple(", .tuple⟩ (by decide) inner).trans ?_
      rw [(cuts_iff (by decide) (by decide)).1 h]
      rfl
    | @map inner key value h =>
      refine (read_construct ⟨"Map(", .map⟩ (by decide) inner).trans ?_
      have hs : segments ',' inner = [key, value] := ((cuts_iff (by decide) (by decide)).1 h).symm
      simp only [Keyword.level, hs]
    | nullable inner => exact read_construct ⟨"Nullable(", .nullable⟩ (by decide) inner

end Level

end ColumnTypes
