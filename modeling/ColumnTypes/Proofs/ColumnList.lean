import ColumnTypes.Proofs.Grammar
import ColumnTypes.Schema.Parser

/-!
The grammar of column lists. A list may stand in a pair of parentheses that match each other; what is
left is nothing, or segments joined by commas, each of which declares one column. On balanced text this
grammar is what reading accepts, and a text can be taken for a list in one way only. On unbalanced text
the two parentheses removed need not match.
-/

namespace ColumnTypes

open Text

variable {text inner segment : Text} {column : Column} {columns : List Column}

/-! ### One column -/

/-- How a segment declares a column: blanks, the name, one blank, and the text of the type. -/
inductive Declares : Text → Column → Prop
  | intro {blanks name typeText : Text} {blank : Char} {type : ColumnType}
    (hs : ∀ c ∈ blanks, isBlank c) (hne : name ≠ []) (hn : Blankless name) (hb : isBlank blank)
    (ht : ColumnType.parse typeText = .ok type) :
    Declares (blanks ++ (name ++ blank :: typeText)) ⟨name, type⟩

theorem Declares.ne_nil (h : Declares segment column) : segment ≠ [] := by
  cases h
  simp

namespace Column

theorem cut_eq_ok_iff {name typeText : Text} :
    cut text = .ok (name, typeText) ↔
      ∃ blanks blank, text = blanks ++ (name ++ blank :: typeText) ∧ (∀ c ∈ blanks, isBlank c) ∧
        name ≠ [] ∧ Blankless name ∧ isBlank blank := by
  constructor
  · intro h
    unfold cut at h
    split at h
    · cases h
    · rename_i hne
      split at h
      · cases h
      · rename_i blank rest hd
        cases h
        obtain ⟨c, start, hs⟩ := List.exists_cons_of_ne_nil hne
        obtain ⟨ht, hb, hc⟩ := takeWhile_dropWhile_eq_iff.1 ⟨rfl, hs⟩
        obtain ⟨hr, hn, hbl⟩ := takeWhile_dropWhile_eq_iff.1 ⟨rfl, hd⟩
        refine ⟨_, blank, ?_, hb, ?_, ?_, by simpa using hbl⟩
        · rw [← hr, hs]
          exact ht
        · rw [hs, List.takeWhile_cons]
          simp [hc]
        · intro x hx
          simpa using hn x hx
  · rintro ⟨blanks, blank, rfl, hs, hne, hn, hb⟩
    obtain ⟨c, rest, rfl⟩ := List.exists_cons_of_ne_nil hne
    have hc : isBlank c = false := hn c List.mem_cons_self
    have ht : trimStart (blanks ++ c :: (rest ++ blank :: typeText)) = c :: (rest ++ blank :: typeText) :=
      (takeWhile_dropWhile_eq_iff.2 ⟨rfl, hs, hc⟩).2
    have hk : ∀ x ∈ c :: rest, (!isBlank x) = true := fun x hx => by simp [hn x hx]
    have hw : (c :: (rest ++ blank :: typeText)).takeWhile (fun x => !isBlank x) = c :: rest ∧
        (c :: (rest ++ blank :: typeText)).dropWhile (fun x => !isBlank x) = blank :: typeText :=
      takeWhile_dropWhile_eq_iff.2 ⟨rfl, hk, by simpa using hb⟩
    simp only [cut, List.cons_append, ht, hw]

theorem parse_eq_ok_iff : parse segment = .ok column ↔ Declares segment column := by
  constructor
  · intro h
    unfold parse at h
    split at h
    · cases h
    · rename_i name typeText hc
      split at h
      · cases h
      · rename_i type ht
        cases h
        obtain ⟨blanks, blank, rfl, hs, hne, hn, hb⟩ := cut_eq_ok_iff.1 hc
        exact .intro hs hne hn hb ht
  · rintro ⟨hs, hne, hn, hb, ht⟩
    rw [parse, cut_eq_ok_iff.2 ⟨_, _, rfl, hs, hne, hn, hb⟩]
    simp only [ht]

end Column

namespace Text

/-! ### The pair around a list -/

/-- The outer characters of `text` are a pair of parentheses around `inner` that match each other: the
depth is back at zero at the end and at no point before. -/
def Wraps (text inner : Text) : Prop :=
  text = '(' :: (inner ++ [')']) ∧
    ∀ before after, text = before ++ after → before ≠ [] → (depthFrom 0 before = 0 ↔ after = [])

/-- What is left once one outer pair is removed, if there is one. -/
def Unwrapped (text inner : Text) : Prop :=
  Wraps text inner ∨ inner = text ∧ ∀ content, ¬Wraps text content

/-- The first parenthesis of `text` is not closed anywhere in it. -/
def NeverClosed (text : Text) : Prop :=
  ∀ before, before <+: text → before ≠ [] → depthFrom 0 before ≠ 0

theorem neverClosed_open_cons : NeverClosed ('(' :: inner) ↔ neverBelowFrom 0 inner := by
  constructor
  · intro h
    refine neverBelowFrom_of_ne (Int.le_refl 0) fun before hp hd => ?_
    refine h ('(' :: before) (List.cons_prefix_cons.2 ⟨rfl, hp⟩) (List.cons_ne_nil _ _) ?_
    rw [depthFrom_open_cons, hd]
    rfl
  · intro h before hp hne
    obtain ⟨rest, rfl, hr⟩ := (List.prefix_cons_iff.1 hp).resolve_left hne
    have hn : 0 ≤ depthFrom 0 rest := (neverBelowFrom_iff (Int.le_refl 0)).1 h rest hr
    rw [depthFrom_open_cons]
    omega

theorem wraps_iff :
    Wraps text inner ↔
      text = '(' :: (inner ++ [')']) ∧ neverBelowFrom 0 inner ∧ depthFrom 0 text = 0 := by
  rw [Wraps, ← neverClosed_open_cons, and_congr_right_iff]
  rintro rfl
  constructor
  · refine fun h => ⟨?_, (h _ [] (List.append_nil _).symm (List.cons_ne_nil _ _)).2 rfl⟩
    rintro before ⟨after, hb⟩ hne hz
    have he : '(' :: (inner ++ [')']) = before ++ (after ++ [')']) := by
      rw [← List.append_assoc, hb, List.cons_append]
    have hn : after ++ [')'] = [] := (h before (after ++ [')']) he hne).1 hz
    simp at hn
  · rintro ⟨hn, hz⟩ before after he hne
    refine ⟨fun hb => ?_, fun ha => by rwa [he, ha, List.append_nil] at hz⟩
    rcases List.eq_nil_or_concat after with ha | ⟨init, last, rfl⟩
    · exact ha
    · -- an earlier return to zero would close the first parenthesis before the end
      rw [List.concat_eq_append, ← List.append_assoc, ← List.cons_append] at he
      exact absurd hb (hn before ⟨init, (List.append_inj' he rfl).1.symm⟩ hne)

/-- The outer characters of `text` are parentheses around `inner`, and the first one is never closed. -/
def LeftOpen (text inner : Text) : Prop := text = '(' :: (inner ++ [')']) ∧ NeverClosed text

theorem neverClosed_concat {c : Char} :
    NeverClosed (text ++ [c]) ↔ NeverClosed text ∧ depthFrom 0 (text ++ [c]) ≠ 0 := by
  constructor
  · refine fun h => ⟨fun before hp => h before (hp.trans (List.prefix_append _ _)), ?_⟩
    exact h _ List.prefix_rfl (by simp)
  · rintro ⟨h, hz⟩ before hp hne
    rcases List.prefix_concat_iff.1 hp with rfl | hp
    · exact hz
    · exact h before hp hne

theorem leftOpen_iff :
    LeftOpen text inner ↔
      text = '(' :: (inner ++ [')']) ∧ neverBelowFrom 0 inner ∧ depthFrom 0 text ≠ 0 := by
  rw [LeftOpen, and_congr_right_iff]
  rintro rfl
  rw [← List.cons_append, neverClosed_concat, neverClosed_open_cons]

theorem Wraps.not_leftOpen {content : Text} (h : Wraps text inner) : ¬LeftOpen text content :=
  fun ho => (leftOpen_iff.1 ho).2.2 (wraps_iff.1 h).2.2

/-- A pair of outer parentheses that is not closed early matches or is left open. -/
theorem wraps_or_leftOpen_iff :
    Wraps text inner ∨ LeftOpen text inner ↔ text = '(' :: (inner ++ [')']) ∧ neverBelowFrom 0 inner := by
  rw [wraps_iff, leftOpen_iff]
  tauto

end Text

namespace Schema

/-- The pair is removed unless the depth inside falls below zero. -/
theorem unwrap_spec (text : Text) :
    (∃ inner, text = '(' :: (inner ++ [')']) ∧ neverBelowFrom 0 inner ∧ unwrap text = inner) ∨
      unwrap text = text ∧ ∀ inner, text = '(' :: (inner ++ [')']) → ¬neverBelowFrom 0 inner := by
  unfold unwrap
  split
  · rename_i rest
    split
    · rename_i inner hd
      rw [dropLast?_eq_some_iff] at hd
      subst hd
      split_ifs with hn
      · exact .inl ⟨inner, rfl, hn, rfl⟩
      · refine .inr ⟨rfl, fun content hc => ?_⟩
        obtain rfl : inner = content := by simpa using hc
        exact hn
    · rename_i hd
      refine .inr ⟨rfl, fun content hc => ?_⟩
      rw [List.cons.injEq] at hc
      rw [dropLast?_eq_some_iff.2 hc.2] at hd
      cases hd
  · rename_i hne
    exact .inr ⟨rfl, fun content hc => absurd hc (hne _)⟩

theorem unwrap_eq_iff :
    unwrap text = inner ↔
      text = '(' :: (inner ++ [')']) ∧ neverBelowFrom 0 inner ∨
        inner = text ∧ ∀ content, ¬(text = '(' :: (content ++ [')']) ∧ neverBelowFrom 0 content) := by
  rcases unwrap_spec text with ⟨content, rfl, hn, hu⟩ | ⟨hu, hn⟩
  · rw [hu]
    constructor
    · rintro rfl
      exact .inl ⟨rfl, hn⟩
    · rintro (⟨he, -⟩ | ⟨-, hno⟩)
      · simpa using he
      · exact absurd ⟨rfl, hn⟩ (hno content)
  · rw [hu]
    constructor
    · rintro rfl
      exact .inr ⟨rfl, fun content h => hn content h.1 h.2⟩
    · rintro (⟨he, hi⟩ | ⟨he, -⟩)
      · exact absurd hi (hn inner he)
      · exact he.symm

/-- A matching pair is removed and any other text stays as it is, but for one case: where the first
parenthesis is never closed and the last character is one that closes another, both are removed. -/
theorem matching_pair_removed_unless_left_open (text inner : Text) :
    unwrap text = inner ↔
      Unwrapped text inner ∧ (∀ content, ¬LeftOpen text content) ∨ LeftOpen text inner := by
  rw [unwrap_eq_iff, Unwrapped]
  simp only [← wraps_or_leftOpen_iff, not_or, forall_and]
  constructor
  · rintro ((hw | ho) | ⟨he, hw, ho⟩)
    · exact .inl ⟨.inl hw, fun content => hw.not_leftOpen⟩
    · exact .inr ho
    · exact .inl ⟨.inr ⟨he, hw⟩, ho⟩
  · rintro (⟨hw | ⟨he, hw⟩, ho⟩ | ho)
    · exact .inl (.inl hw)
    · exact .inr ⟨he, hw, ho⟩
    · exact .inl (.inr ho)

/-- The pair around `x( Int8` does not match and is removed. Kept, it would belong to the name and to the
type, and the type would be refused. -/
theorem unmatched_pair_is_removed :
    ¬Unwrapped "(x( Int8)" (unwrap "(x( Int8)") ∧
      parse "(x( Int8)" = .ok ⟨[⟨"x(", .primitive .int8⟩]⟩ ∧
      Column.parse "(x( Int8)" = .error (.type ⟨"Int8)", .unbalanced⟩) := by
  refine ⟨?_, toOption_eq_some_iff.1 (by decide +kernel), error?_eq_some_iff.1 (by decide +kernel)⟩
  rintro (hw | ⟨hu, -⟩)
  · exact absurd (wraps_iff.1 hw).2.2 (by decide)
  · exact absurd hu (by decide)

/-- On balanced text the pair removed is one that matches. -/
theorem unwrapped_iff (hb : isBalanced text) : Unwrapped text inner ↔ inner = unwrap text := by
  have hw (content : Text) :
      Wraps text content ↔ text = '(' :: (content ++ [')']) ∧ neverBelowFrom 0 content := by
    rw [wraps_iff, (isBalanced_iff.1 hb).2]
    simp
  rw [eq_comm, unwrap_eq_iff, Unwrapped]
  simp only [hw]

theorem isBalanced_unwrap (hb : isBalanced text) : isBalanced (unwrap text) := by
  rcases unwrap_spec text with ⟨inner, rfl, hn, hu⟩ | ⟨hu, -⟩
  · have hz : depthFrom 1 inner - 1 = 0 := by
      simpa [depthStep] using (isBalanced_iff.1 hb).2
    have hd : depthFrom 1 inner = depthFrom 0 inner + 1 := depthFrom_eq_add 1 inner
    rw [hu]
    exact isBalanced_iff.2 ⟨hn, by omega⟩
  · rwa [hu]

theorem isBalanced_body (hb : isBalanced text) : isBalanced (body text) :=
  (isBalanced_trim _).2 (isBalanced_unwrap ((isBalanced_trim text).2 hb))

/-! ### The list -/

/-- A text lists columns: it is empty, or a join of segments that declare the columns in order. -/
def Lists (text : Text) (columns : List Column) : Prop :=
  text = [] ∧ columns = [] ∨
    ∃ segments, text = join "," segments ∧
      List.Forall₂ (fun segment column => IsPiece ',' segment ∧ Declares segment column) segments columns

/-- A balanced list has one decomposition only, the one at its commas outside parentheses. -/
theorem lists_iff (hb : isBalanced text) :
    Lists text columns ↔
      text = [] ∧ columns = [] ∨ List.Forall₂ Declares (segments ',' text) columns := by
  simp only [Lists, List.forall₂_and_left]
  constructor
  · rintro (h | ⟨pieces, rfl, hp, hd⟩)
    · exact .inl h
    · cases pieces with
      | nil =>
        cases hd
        exact .inl ⟨rfl, rfl⟩
      | cons first later =>
        have hs : segments ',' (join "," (first :: later)) = first :: later :=
          segments_join (by decide) (by decide) (by simp) hp
        rw [hs]
        exact .inr hd
  · rintro (h | h)
    · exact .inl h
    · have hc : Cuts ',' 0 text (segments ',' text) := cuts_segments (by decide) (by decide) text
      exact .inr ⟨_, hc.join_eq.symm, hc.isPiece (by decide) hb, h⟩

theorem parse_eq_ok_iff_forall₂ {schema : Schema} :
    parse text = .ok schema ↔
      body text = [] ∧ schema.columns = [] ∨
        List.Forall₂ Declares (segments ',' (body text)) schema.columns := by
  obtain ⟨columns⟩ := schema
  have hp (pieces : List Text) :
      Schema.mk <$> pieces.mapM Column.parse = .ok ⟨columns⟩ ↔ List.Forall₂ Declares pieces columns := by
    simp [map_eq_ok_iff, mapM_eq_ok_iff, Column.parse_eq_ok_iff]
  unfold parse
  split
  · rename_i he
    have hn : ¬List.Forall₂ Declares (segments ',' []) columns := by
      intro h
      cases h with
      | cons hd _ => exact hd.ne_nil rfl
    simp [he, hn, eq_comm]
  · rename_i hne
    have he : body text ≠ [] := fun h => hne h
    rw [hp]
    simp [he]

/-- Balanced text is read as a schema exactly if it lists the columns of the schema, once it is
trimmed, freed from one matching pair of parentheses and trimmed again. -/
theorem parse_eq_ok_iff_lists {text : Text} (hb : isBalanced text) (schema : Schema) :
    parse text = .ok schema ↔
      ∃ inner, Unwrapped (trim text) inner ∧ Lists (trim inner) schema.columns := by
  have ht : isBalanced (trim text) := (isBalanced_trim text).2 hb
  rw [parse_eq_ok_iff_forall₂, ← lists_iff (isBalanced_body hb)]
  constructor
  · intro h
    exact ⟨unwrap (trim text), (unwrapped_iff ht).2 rfl, h⟩
  · rintro ⟨inner, hu, h⟩
    rw [(unwrapped_iff ht).1 hu] at h
    exact h

/-- Names may hold parentheses and commas, and a list with blanks around its pair is still one list. -/
theorem lists_of_wrapped_columns :
    isBalanced "\t( (a,b)x  Int8,y(,) Tuple(Int8, String) ) " ∧
      ∃ inner, Unwrapped (trim "\t( (a,b)x  Int8,y(,) Tuple(Int8, String) ) ") inner ∧
        Lists (trim inner)
          [⟨"(a,b)x", .primitive .int8⟩,
            ⟨"y(,)", .tuple [.primitive .int8, .primitive .string]⟩] :=
  ⟨by decide, (parse_eq_ok_iff_lists (by decide) ⟨_⟩).1 (toOption_eq_some_iff.1 (by decide +kernel))⟩

end Schema

end ColumnTypes
