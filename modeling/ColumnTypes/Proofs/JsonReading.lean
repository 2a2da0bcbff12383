import ColumnTypes.Json.Reader
import ColumnTypes.Proofs.JsonTokens
import Mathlib.Data.List.Forall2

/-!
Reading a JSON value from its spellings. Both spellings have the tokens of the value, and reading these
gives the value again within the bound on nested calls, whatever tokens follow. So the two spellings
denote the same value, the one that was written.
-/

namespace ColumnTypes.Json

open Token

variable {value : Json} {blanks text : Text} {n : Nat}

/-! ### The tokens of a value -/

mutual

/-- The tokens of a value, in order. -/
def tokens : Json → List Token
  | null => [.null]
  | boolean value => [.boolean value]
  | integer value => [.integer value]
  | real spelling => [.real spelling]
  | string value => [.string value]
  | array items => .leftBracket :: [Token.comma].intercalate (itemTokens items) ++ [.rightBracket]
  | object members =>
    .leftBrace :: [Token.comma].intercalate (memberTokens members) ++ [.rightBrace]

def itemTokens : List Json → List (List Token)
  | [] => []
  | value :: rest => value.tokens :: itemTokens rest

def memberTokens : List (Text × Json) → List (List Token)
  | [] => []
  | (key, value) :: rest => (.string key :: .colon :: value.tokens) :: memberTokens rest

end

theorem itemTokens_eq_map (items : List Json) : itemTokens items = items.map tokens := by
  induction items with
  | nil => rfl
  | cons item rest ih => rw [itemTokens, ih, List.map_cons]

theorem memberTokens_eq_map (members : List (Text × Json)) :
    memberTokens members = members.map fun member => .string member.1 :: .colon :: member.2.tokens := by
  induction members with
  | nil => rfl
  | cons member rest ih => rw [memberTokens, ih, List.map_cons]

/-- Values without reals, which are kept as they are written and need not be written well. -/
inductive WithoutReals : Json → Prop
  | null : WithoutReals null
  | boolean (value : Bool) : WithoutReals (boolean value)
  | integer (value : Int) : WithoutReals (integer value)
  | string (value : Text) : WithoutReals (string value)
  | array {items : List Json} (h : ∀ item ∈ items, WithoutReals item) : WithoutReals (array items)
  | object {members : List (Text × Json)} (h : ∀ member ∈ members, WithoutReals member.2) :
    WithoutReals (object members)

/-! ### The two spellings -/

theorem compactItems_eq_map (items : List Json) : compactItems items = items.map compact := by
  induction items with
  | nil => rfl
  | cons item rest ih => rw [compactItems, ih, List.map_cons]

theorem compactMembers_eq_map (members : List (Text × Json)) :
    compactMembers members = members.map fun member => quote member.1 ++ ":" ++ member.2.compact := by
  induction members with
  | nil => rfl
  | cons member rest ih => rw [compactMembers, ih, List.map_cons]

theorem prettyItems_eq_map (level : Nat) (items : List Json) :
    prettyItems level items = items.map (prettyAt level) := by
  induction items with
  | nil => rfl
  | cons item rest ih => rw [prettyItems, ih, List.map_cons]

theorem prettyMembers_eq_map (level : Nat) (members : List (Text × Json)) :
    prettyMembers level members =
      members.map fun member => quote member.1 ++ ": " ++ prettyAt level member.2 := by
  induction members with
  | nil => rfl
  | cons member rest ih => rw [prettyMembers, ih, List.map_cons]

theorem spells_items {spell : Json → Text} {items : List Json}
    (h : ∀ item ∈ items, Spells (spell item) item.tokens) :
    List.Forall₂ Spells (items.map spell) (itemTokens items) := by
  rw [itemTokens_eq_map, List.forall₂_map_left_iff, List.forall₂_map_right_iff, List.forall₂_same]
  exact h

theorem spells_members {spell : Json → Text} {members : List (Text × Json)}
    (hb : ∀ c ∈ blanks, Token.isBlank c)
    (h : ∀ member ∈ members, Spells (spell member.2) member.2.tokens) :
    List.Forall₂ Spells
      (members.map fun member => quote member.1 ++ (':' :: blanks) ++ spell member.2)
      (memberTokens members) := by
  rw [memberTokens_eq_map, List.forall₂_map_left_iff, List.forall₂_map_right_iff, List.forall₂_same]
  exact fun member hm => (h member hm).member hb member.1

theorem WithoutReals.spells_compact (h : WithoutReals value) : Spells value.compact value.tokens := by
  have hno : ∀ c ∈ ([] : Text), Token.isBlank c := by simp
  induction h with
  | null => exact .null
  | boolean value => exact .boolean value
  | integer value => exact .ofInt value
  | string value => exact .quote value
  | array _ ih =>
    rw [compact, compactItems_eq_map]
    exact (Spells.join hno (spells_items ih)).enclose isMark_leftBracket isMark_rightBracket
  | object _ ih =>
    rw [compact, compactMembers_eq_map]
    exact (Spells.join hno (spells_members hno ih)).enclose isMark_leftBrace isMark_rightBrace

theorem isBlank_newline (level : Nat) : ∀ c ∈ newline level, Token.isBlank c := by
  refine List.forall_mem_cons.2 ⟨rfl, fun c hc => ?_⟩
  rw [List.eq_of_mem_replicate hc]
  rfl

theorem spells_block {first last : Char} {start finish : Token} {texts : List Text}
    {parts : List (List Token)} (hf : IsMark first start) (hl : IsMark last finish) (level : Nat)
    (h : List.Forall₂ Spells texts parts) :
    Spells (block first last level texts) (start :: [Token.comma].intercalate parts ++ [finish]) := by
  have hj := Spells.join (isBlank_newline (level + 1)) h
  exact (hj.between_blanks (isBlank_newline (level + 1)) (isBlank_newline level)).enclose hf hl

theorem WithoutReals.spells_prettyAt (h : WithoutReals value) (level : Nat) :
    Spells (prettyAt level value) value.tokens := by
  have hblank : ∀ c ∈ ([' '] : Text), Token.isBlank c := List.forall_mem_singleton.2 rfl
  induction h generalizing level with
  | null => exact .null
  | boolean value => exact .boolean value
  | integer value => exact .ofInt value
  | string value => exact .quote value
  | @array items _ ih =>
    cases items with
    | nil => exact Spells.nil.enclose isMark_leftBracket isMark_rightBracket
    | cons item rest =>
      rw [prettyAt, prettyItems_eq_map]
      have hi := spells_items fun item hm => ih item hm (level + 1)
      exact spells_block isMark_leftBracket isMark_rightBracket level hi
  | @object members _ ih =>
    cases members with
    | nil => exact Spells.nil.enclose isMark_leftBrace isMark_rightBrace
    | cons member rest =>
      rw [prettyAt, prettyMembers_eq_map]
      have hm := spells_members hblank fun member hm => ih member hm (level + 1)
      exact spells_block isMark_leftBrace isMark_rightBrace level hm

/-! ### From tokens to the value -/

variable {items : List Json} {members : List (Text × Json)} {tokens rest : List Token}

theorem value?_of_items? (h : items? n tokens = some (items, rest)) :
    value? (n + 1) (.leftBracket :: tokens) = some (array items, rest) := by
  -- items begin with a value, so the list is not taken for the empty one
  have hne : ∀ more, tokens ≠ .rightBracket :: more := by
    rintro more rfl
    cases n with
    | zero => simp [items?] at h
    | succ n => cases n <;> simp [items?, value?] at h
  rw [value?]
  · rw [h]
    rfl
  · exact hne

theorem value?_of_members? (h : members? n tokens = some (members, rest)) :
    value? (n + 1) (.leftBrace :: tokens) = some (object members, rest) := by
  have hne : ∀ more, tokens ≠ .rightBrace :: more := by
    rintro more rfl
    cases n <;> simp [members?] at h
  rw [value?]
  · rw [h]
    rfl
  · exact hne

/-- The value is read from its tokens, whatever follows, with a bound of twice their number. -/
def ReadBack (value : Json) : Prop :=
  ∀ n rest, 2 * value.tokens.length ≤ n → value? n (value.tokens ++ rest) = some (value, rest)

theorem items?_itemTokens (hne : items ≠ []) (h : ∀ item ∈ items, item.ReadBack)
    (hn : 2 * ([Token.comma].intercalate (itemTokens items)).length < n) :
    items? n ([Token.comma].intercalate (itemTokens items) ++ .rightBracket :: rest) =
      some (items, rest) := by
  induction items generalizing n with
  | nil => exact absurd rfl hne
  | cons item later ih =>
    obtain ⟨hi, hl⟩ := List.forall_mem_cons.1 h
    obtain ⟨n, rfl⟩ := Nat.exists_eq_add_one_of_ne_zero (n := n) (by omega)
    cases later with
    | nil =>
      simp only [itemTokens, List.intercalate_singleton] at hn ⊢
      rw [items?, hi n _ (by omega)]
    | cons next more =>
      have hs : [Token.comma].intercalate (itemTokens (item :: next :: more)) =
          item.tokens ++ .comma :: [Token.comma].intercalate (itemTokens (next :: more)) := by
        simp [itemTokens, List.intercalate_cons_cons]
      rw [hs, List.length_append, List.length_cons] at hn
      have hlater := ih (by simp) hl (n := n) (by omega)
      rw [hs, List.append_assoc, items?, hi n _ (by omega), List.cons_append]
      simp only [hlater, Option.map_some]

theorem members?_memberTokens (hne : members ≠ []) (h : ∀ member ∈ members, member.2.ReadBack)
    (hn : 2 * ([Token.comma].intercalate (memberTokens members)).length < n) :
    members? n ([Token.comma].intercalate (memberTokens members) ++ .rightBrace :: rest) =
      some (members, rest) := by
  induction members generalizing n with
  | nil => exact absurd rfl hne
  | cons member later ih =>
    obtain ⟨key, value⟩ := member
    obtain ⟨hm, hl⟩ := List.forall_mem_cons.1 h
    replace hm : value.ReadBack := hm
    obtain ⟨n, rfl⟩ := Nat.exists_eq_add_one_of_ne_zero (n := n) (by omega)
    cases later with
    | nil =>
      simp only [memberTokens, List.intercalate_singleton, List.length_cons] at hn
      simp only [memberTokens, List.intercalate_singleton, List.cons_append]
      rw [members?, hm n _ (by omega)]
    | cons next more =>
      have hs : [Token.comma].intercalate (memberTokens ((key, value) :: next :: more)) =
          .string key :: .colon ::
            (value.tokens ++ .comma :: [Token.comma].intercalate (memberTokens (next :: more))) := by
        simp [memberTokens, List.intercalate_cons_cons]
      rw [hs, List.length_cons, List.length_cons, List.length_append, List.length_cons] at hn
      have hlater := ih (by simp) hl (n := n) (by omega)
      rw [hs, List.cons_append, List.cons_append, List.append_assoc, members?, hm n _ (by omega),
        List.cons_append]
      simp only [hlater, Option.map_some]

theorem readBack_of_token {token : Token} (ht : value.tokens = [token])
    (hv : ∀ n rest, value? (n + 1) (token :: rest) = some (value, rest)) : value.ReadBack := by
  intro n rest hn
  rw [ht, List.length_singleton] at hn
  obtain ⟨n, rfl⟩ := Nat.exists_eq_add_one_of_ne_zero (n := n) (by omega)
  rw [ht]
  exact hv n rest

/-- Every token of a value makes room for two nested calls, which is more than are made. -/
theorem WithoutReals.readBack (h : WithoutReals value) : value.ReadBack := by
  induction h with
  | null => exact readBack_of_token rfl fun _ _ => rfl
  | boolean value => exact readBack_of_token rfl fun _ _ => rfl
  | integer value => exact readBack_of_token rfl fun _ _ => rfl
  | string value => exact readBack_of_token rfl fun _ _ => rfl
  | @array items _ ih =>
    intro n rest hn
    rw [tokens, List.length_append, List.length_cons] at hn
    obtain ⟨n, rfl⟩ := Nat.exists_eq_add_one_of_ne_zero (n := n) (by omega)
    rw [tokens, List.append_assoc, List.cons_append]
    cases items with
    | nil => rfl
    | cons item later => exact value?_of_items? (items?_itemTokens (by simp) ih (by omega))
  | @object members _ ih =>
    intro n rest hn
    rw [tokens, List.length_append, List.length_cons] at hn
    obtain ⟨n, rfl⟩ := Nat.exists_eq_add_one_of_ne_zero (n := n) (by omega)
    rw [tokens, List.append_assoc, List.cons_append]
    cases members with
    | nil => rfl
    | cons member later => exact value?_of_members? (members?_memberTokens (by simp) ih (by omega))

theorem read?_of_spells (h : WithoutReals value) (hs : Spells text value.tokens) :
    read? text = some value := by
  have hr := h.readBack (2 * value.tokens.length + 1) [] (by omega)
  rw [List.append_nil] at hr
  rw [read?, hs.all?_eq_some]
  simp only [hr]

/-- A value is read back from both of its spellings. -/
theorem WithoutReals.read?_spellings (h : WithoutReals value) :
    read? value.compact = some value ∧ read? value.pretty = some value :=
  ⟨read?_of_spells h h.spells_compact, read?_of_spells h (h.spells_prettyAt 0)⟩

end ColumnTypes.Json
