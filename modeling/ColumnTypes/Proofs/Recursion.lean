import ColumnTypes.Proofs.Grammar

/-!
How deep reading recurses. A part of a fragment begins one parenthesis deeper than the fragment, and
this needs neither of them to be balanced. So the depth of the text where a fragment begins is the
number of calls around the one that reads it, and the scan ahead of reading bounds them both.
-/

namespace ColumnTypes

open Text

variable {text inner part before fragment : Text} {type : ColumnType} {level : Level} {k n : Nat}

/-! ### The calls that reading makes -/

/-- Reading `text` goes on to read `part`, a part of its outermost level that stands after `before`.
Parts are read in order, each once the parts before it were read. -/
inductive Enters (text : Text) : Text → Text → Prop
  | intro {inner part : Text} {c : Construct} {level : Level} {earlier later : List Text}
    (hh : Head.read constructs text = .ok (.construct c inner))
    (hl : c.keyword.level inner = .ok level)
    (hp : level.parts = earlier ++ part :: later)
    (he : ∀ e ∈ earlier, ∃ type, ColumnType.parseFragment constructs e = .ok type) :
    Enters text (c.opening ++ earlier.flatMap (· ++ [','])) part

/-- Reading `text` comes to read `fragment`, which stands after `before`, in a call that is nested `k`
levels below the first one. -/
inductive Calls : Text → Nat → Text → Text → Prop
  | first (text : Text) : Calls text 0 [] text
  | nested {text part fragment before between : Text} {k : Nat} (he : Enters text before part)
    (hc : Calls part k between fragment) : Calls text (k + 1) (before ++ between) fragment

theorem Text.Cuts.exists_after {separator : Char} {earlier later : List Text}
    (hs : Flat [separator]) (h : Cuts separator 0 text (earlier ++ part :: later)) :
    ∃ after, text = earlier.flatMap (· ++ [separator]) ++ part ++ after ∧
      depthFrom 0 (earlier.flatMap (· ++ [separator])) = 0 := by
  induction earlier generalizing text with
  | nil =>
    cases h with
    | last => exact ⟨[], by simp, rfl⟩
    | @cut _ _ rest _ hu hz hl => exact ⟨separator :: rest, by simp, rfl⟩
  | cons first earlier ih =>
    generalize hp : first :: earlier ++ part :: later = pieces at h
    cases h with
    | last => simp at hp
    | @cut _ first' rest pieces hu hz hl =>
      obtain ⟨rfl, rfl⟩ := List.cons.inj hp
      obtain ⟨after, rfl, hd⟩ := ih hl
      refine ⟨after, by simp, ?_⟩
      rw [List.flatMap_cons, depthFrom_append, depthFrom_append, hz, depthFrom_of_flat hs, hd]

/-- The parts of a construct, if it has any, are its parameter text or what that is cut into. -/
theorem Keyword.parts_cases {keyword : Keyword} (h : keyword.level inner = .ok level) :
    level.parts = [] ∨ level.parts = [inner] ∨ Cuts ',' 0 inner level.parts := by
  have hs : Cuts ',' 0 inner (segments ',' inner) := cuts_segments (by decide) (by decide) inner
  cases keyword with
  | dateTime64 => exact .inl (Level.parts_eq_nil_of_whole h)
  | decimal => exact .inl (Level.parts_eq_nil_of_whole h)
  | decimal256 => exact .inl (Level.parts_eq_nil_of_whole h)
  | fixedString => exact .inl (Level.parts_eq_nil_of_whole h)
  | array =>
    cases h
    exact .inr (.inl rfl)
  | nullable =>
    cases h
    exact .inr (.inl rfl)
  | tuple =>
    cases h
    exact .inr (.inr hs)
  | map =>
    simp only [Keyword.level] at h
    split at h
    · rename_i key value hkv
      cases h
      rw [hkv] at hs
      exact .inr (.inr hs)
    · cases h

/-- A part begins one parenthesis deeper than the fragment it is a part of. -/
theorem Enters.position (h : Enters text before part) :
    (∃ after, text = before ++ part ++ after) ∧ depthFrom 0 before = 1 := by
  cases h with
  | @intro inner _ c level earlier later hh hl hp he =>
    obtain ⟨hc, rfl⟩ := Head.read_eq_construct_iff.1 hh
    have ho : depthFrom 0 c.opening = 1 := (Construct.isOpening_of_mem hc).depthFrom 0
    have hin : ∃ after, inner = earlier.flatMap (· ++ [',']) ++ part ++ after ∧
        depthFrom 0 (earlier.flatMap (· ++ [','])) = 0 := by
      rcases Keyword.parts_cases hl with hn | hn | hn
      · simp [hn] at hp
      · rw [hn, List.singleton_eq_append_iff] at hp
        obtain ⟨rfl, hp⟩ | ⟨-, hp⟩ := hp
        · cases hp
          exact ⟨[], by simp, rfl⟩
        · cases hp
      · rw [hp] at hn
        exact hn.exists_after (by decide)
    obtain ⟨after, rfl, hz⟩ := hin
    refine ⟨⟨after ++ ")", by simp⟩, ?_⟩
    rw [depthFrom_append, ho, depthFrom_eq_add, hz, Int.zero_add]

/-- The depth where a fragment begins is the number of calls around the one that reads it. -/
theorem Calls.position (h : Calls text k before fragment) :
    (∃ after, text = before ++ fragment ++ after) ∧ depthFrom 0 before = k := by
  induction h with
  | first text => exact ⟨⟨[], by simp⟩, rfl⟩
  | @nested text part fragment before between k he hc ih =>
    obtain ⟨⟨after, rfl⟩, hd⟩ := he.position
    obtain ⟨⟨after', rfl⟩, hd'⟩ := ih
    refine ⟨⟨after' ++ after, by simp⟩, ?_⟩
    rw [depthFrom_append, hd, depthFrom_eq_add, hd']
    rfl

/-! ### Reading with a bound on nested calls -/

namespace ColumnType

/-- Reads a fragment with at most `n` calls nested in each other. An error without a fault says that
reading was given up. -/
def parseWithin : Nat → Text → Except (Option MalformedType) ColumnType
  | 0, _ => .error none
  | n + 1, text =>
    match Level.read constructs text with
    | .error e => .error (some e)
    | .ok (.whole type) => .ok type
    | .ok (.array element) => array <$> parseWithin n element
    | .ok (.tuple elements) => tuple <$> elements.mapM (parseWithin n)
    | .ok (.map key value) => return map (← parseWithin n key) (← parseWithin n value)
    | .ok (.nullable inner) => nullable <$> parseWithin n inner

theorem mapError_map {ε ε' α β : Type} (f : α → β) (ι : ε → ε') (r : Except ε α) :
    f <$> r.mapError ι = (f <$> r).mapError ι := by
  cases r <;> rfl

/-- Two traversals agree if they agree on every entry that the first of them comes to. -/
theorem mapM_eq_mapError {ε ε' α β : Type} {f : α → Except ε β} {g : α → Except ε' β} {ι : ε → ε'}
    {xs : List α} (h : ∀ earlier x later, xs = earlier ++ x :: later →
      (∀ e ∈ earlier, ∃ y, f e = .ok y) → g x = (f x).mapError ι) :
    xs.mapM g = (xs.mapM f).mapError ι := by
  induction xs with
  | nil => rfl
  | cons x xs ih =>
    have hx : g x = (f x).mapError ι := h [] x xs rfl (by simp)
    rw [List.mapM_cons, List.mapM_cons, hx]
    cases hf : f x with
    | error e => rfl
    | ok y =>
      have hxs : xs.mapM g = (xs.mapM f).mapError ι := by
        refine ih fun earlier x' later hs he => h (x :: earlier) x' later (by simp [hs]) ?_
        exact List.forall_mem_cons.2 ⟨⟨y, hf⟩, he⟩
      rw [hxs]
      cases xs.mapM f <;> rfl

theorem exists_head_of_part (hl : Level.read constructs text = .ok level) (hp : part ∈ level.parts) :
    ∃ c inner, Head.read constructs text = .ok (.construct c inner) ∧
      c.keyword.level inner = .ok level := by
  unfold Level.read at hl
  split at hl
  · cases hl
  · cases hl
    cases hp
  · rename_i c inner hh
    exact ⟨c, inner, hh, hl⟩

/-- A bound that no call passes has no effect. -/
theorem parseWithin_eq (h : ∀ k before fragment, Calls text k before fragment → k < n) :
    parseWithin n text = (parseFragment constructs text).mapError some := by
  induction n generalizing text with
  | zero => exact absurd (h 0 [] text (.first text)) (Nat.lt_irrefl 0)
  | succ n ih =>
    rw [parseWithin, parseFragment_eq]
    cases hl : Level.read constructs text with
    | error e => rfl
    | ok level =>
      have hpart : ∀ earlier part later, level.parts = earlier ++ part :: later →
          (∀ e ∈ earlier, ∃ type, parseFragment constructs e = .ok type) →
          parseWithin n part = (parseFragment constructs part).mapError some := by
        intro earlier part later hp he
        have hm : part ∈ level.parts := by simp [hp]
        obtain ⟨c, inner, hh, hk⟩ := exists_head_of_part hl hm
        apply ih
        intro k before fragment hc
        exact Nat.lt_of_succ_lt_succ (h _ _ _ (.nested (.intro hh hk hp he) hc))
      cases level with
      | whole type => rfl
      | array element =>
        have he := hpart [] element [] rfl (by simp)
        simp only [he, mapError_map]
      | nullable element =>
        have he := hpart [] element [] rfl (by simp)
        simp only [he, mapError_map]
      | tuple elements =>
        have he := mapM_eq_mapError hpart
        simp only [Level.parts] at he
        simp only [he, mapError_map]
      | map key value =>
        have hk := hpart [] key [value] rfl (by simp)
        simp only [hk]
        cases hkey : parseFragment constructs key with
        | error e => rfl
        | ok k =>
          have hv := hpart [key] value [] rfl (by simpa using ⟨k, hkey⟩)
          simp only [hv]
          cases parseFragment constructs value <;> rfl

theorem Leaf.depth_eq (h : Leaf text type) : type.depth = 1 := by
  cases h <;> rfl

/-- A tree has no more levels than there were calls nested in each other to read it. -/
theorem depth_le_of_parseWithin (h : parseWithin n text = .ok type) : type.depth ≤ n := by
  induction n generalizing text type with
  | zero => cases h
  | succ n ih =>
    rw [parseWithin] at h
    cases hl : Level.read constructs text with
    | error e =>
      rw [hl] at h
      cases h
    | ok level =>
      rw [hl] at h
      cases Level.read_eq_ok_iff.1 hl with
      | leaf ht =>
        cases h
        rw [Leaf.depth_eq ht]
        omega
      | array element =>
        obtain ⟨inner, hi, rfl⟩ := map_eq_ok_iff.1 h
        have := ih hi
        rw [depth]
        omega
      | nullable element =>
        obtain ⟨inner, hi, rfl⟩ := map_eq_ok_iff.1 h
        have := ih hi
        rw [depth]
        omega
      | @tuple inner elements hc =>
        obtain ⟨types, ht, rfl⟩ := map_eq_ok_iff.1 h
        obtain ⟨pairs, -, rfl, hp⟩ := forall₂_iff_pairs.1 (mapM_eq_ok_iff.1 ht)
        have hd : deepest (pairs.map Prod.snd) ≤ n :=
          deepest_le_iff.2 (List.forall_mem_map.2 fun pair hm => ih (hp pair hm))
        rw [depth]
        omega
      | map hc =>
        obtain ⟨key, hk, h⟩ := bind_eq_ok_iff.1 h
        obtain ⟨value, hv, h⟩ := bind_eq_ok_iff.1 h
        cases h
        have := ih hk
        have := ih hv
        rw [depth]
        omega

/-! ### The limit -/

theorem Calls.le_of_nestsWithin {limit : Nat} (hn : NestsWithin limit text)
    (h : Calls text k before fragment) : k ≤ limit := by
  obtain ⟨⟨after, ht⟩, hd⟩ := h.position
  have hb : depthFrom 0 before ≤ limit := hn before ⟨fragment ++ after, by simp [ht]⟩
  omega

theorem parseWithin_eq_of_checkNesting (h : checkNesting text = .ok ()) :
    parseWithin 257 text = (parseFragment constructs text).mapError some :=
  parseWithin_eq fun _ _ _ hc =>
    Nat.lt_succ_of_le (Calls.le_of_nestsWithin (checkNesting_eq_ok_iff.1 h).2 hc)

theorem depth_le_of_parse (h : parse text = .ok type) : type.depth ≤ 257 := by
  obtain ⟨_, hs, hf⟩ := bind_eq_ok_iff.1 h
  have hw : parseWithin 257 text.withoutBlanks = .ok type := by
    rw [parseWithin_eq_of_checkNesting hs, hf]
    rfl
  exact depth_le_of_parseWithin hw

/-- On a text that the scan lets pass, a call nested `k` levels deep reads a fragment that begins at
depth `k`, so no more than 257 calls are nested in each other and a bound of as many has no effect. No
type that is read is deeper. -/
theorem nested_calls_bounded :
    (∀ text : Text, checkNesting text.withoutBlanks = .ok () →
      (∀ k before fragment, Calls text.withoutBlanks k before fragment →
        (∃ after, text.withoutBlanks = before ++ fragment ++ after) ∧ depthFrom 0 before = k ∧
          k + 1 ≤ 257) ∧
      parseWithin 257 text.withoutBlanks =
        (parseFragment constructs text.withoutBlanks).mapError some) ∧
    ∀ text type, parse text = .ok type → type.depth ≤ 257 := by
  refine ⟨fun text h => ⟨fun k before fragment hc => ?_, parseWithin_eq_of_checkNesting h⟩,
    fun text type => depth_le_of_parse⟩
  obtain ⟨ha, hd⟩ := hc.position
  have hk := Calls.le_of_nestsWithin (checkNesting_eq_ok_iff.1 h).2 hc
  exact ⟨ha, hd, Nat.succ_le_succ hk⟩

/-- The parameter text of the inner tuple is unbalanced, and begins two parentheses deep all the same. -/
theorem nested_calls_bounded_of_unbalanced_fragment :
    let text : Text := "Array( Tuple(Int8), Array(Int8) )"
    checkNesting text.withoutBlanks = .ok () ∧
      Calls text.withoutBlanks 2 "Array(Tuple(" "Int8),Array(Int8" ∧
      depthFrom 0 "Array(Tuple(" = 2 ∧
      parseWithin 257 text.withoutBlanks =
        (parseFragment constructs text.withoutBlanks).mapError some ∧
      parse "Array(Tuple(Int8))" = .ok (.array (.tuple [.primitive .int8])) ∧
      (array (.tuple [.primitive .int8])).depth ≤ 257 := by
  intro text
  have hn : checkNesting text.withoutBlanks = .ok () := toOption_eq_some_iff.1 (by decide +kernel)
  have houter : Enters text.withoutBlanks "Array(" "Tuple(Int8),Array(Int8)" :=
    @Enters.intro _ "Tuple(Int8),Array(Int8)" _ ⟨"Array(", .array⟩ _ [] []
      (Head.read_eq_construct_iff.2 ⟨by decide, by decide⟩) rfl rfl (by simp)
  have hinner : Enters "Tuple(Int8),Array(Int8)" "Tuple(" "Int8),Array(Int8" :=
    @Enters.intro _ "Int8),Array(Int8" _ ⟨"Tuple(", .tuple⟩ _ [] []
      (Head.read_eq_construct_iff.2 ⟨by decide, by decide⟩) rfl rfl (by simp)
  have hc : Calls text.withoutBlanks 2 "Array(Tuple(" "Int8),Array(Int8" :=
    .nested houter (.nested hinner (.first _))
  have hp : parse "Array(Tuple(Int8))" = .ok (.array (.tuple [.primitive .int8])) :=
    toOption_eq_some_iff.1 (by decide +kernel)
  obtain ⟨hcalls, hwithin⟩ := nested_calls_bounded.1 text hn
  exact ⟨hn, hc, (hcalls _ _ _ hc).2.1, hwithin, hp, nested_calls_bounded.2 _ _ hp⟩

end ColumnType

end ColumnTypes
