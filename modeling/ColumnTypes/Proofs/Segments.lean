import ColumnTypes.Proofs.Nesting
import ColumnTypes.Text.Segments

/-!
The segments of a text are its only decomposition at the separators outside parentheses. `Cuts` says
what such a decomposition is without reference to the scan; a join of pieces, each balanced and without
a separator of its own, comes apart into just these pieces.
-/

namespace ColumnTypes.Text

variable {separator c : Char} {depth : Int} {a b text first rest : Text}
  {later pieces : List Text}

/-- No separator stands at depth zero, counted from `depth`. -/
def UnbrokenFrom (separator : Char) (depth : Int) (text : Text) : Prop :=
  ∀ before after, text = before ++ separator :: after → depthFrom depth before ≠ 0

/-- No separator stands outside parentheses. -/
def Unbroken (separator : Char) (text : Text) : Prop := UnbrokenFrom separator 0 text

theorem unbrokenFrom_nil : UnbrokenFrom separator depth [] := by
  intro before after h
  simp at h

theorem unbrokenFrom_cons :
    UnbrokenFrom separator depth (c :: text) ↔
      ¬(c = separator ∧ depth = 0) ∧ UnbrokenFrom separator (depthStep depth c) text := by
  constructor
  · intro h
    refine ⟨fun hc => h [] text (by rw [hc.1]; rfl) hc.2, fun before after hb => ?_⟩
    exact h (c :: before) after (by rw [hb]; rfl)
  · rintro ⟨hc, h⟩ before after hb
    cases before with
    | nil =>
      rw [List.nil_append, List.cons.injEq] at hb
      exact fun hd => hc ⟨hb.1, hd⟩
    | cons c' before =>
      rw [List.cons_append, List.cons.injEq] at hb
      obtain ⟨rfl, hb⟩ := hb
      exact h before after hb

theorem unbrokenFrom_append :
    UnbrokenFrom separator depth (a ++ b) ↔
      UnbrokenFrom separator depth a ∧ UnbrokenFrom separator (depthFrom depth a) b := by
  induction a generalizing depth with
  | nil => simp [unbrokenFrom_nil]
  | cons c rest ih =>
    rw [List.cons_append, unbrokenFrom_cons, ih, unbrokenFrom_cons, depthFrom_cons, and_assoc]

theorem unbrokenFrom_of_not_mem (h : separator ∉ text) : UnbrokenFrom separator depth text := by
  rintro before after rfl
  simp at h

/-- Inside a pair of parentheses no separator counts. -/
theorem unbrokenFrom_of_pos (hd : 0 < depth) (h : neverBelowFrom (depth - 1) text) :
    UnbrokenFrom separator depth text := by
  rintro before after rfl
  rw [neverBelowFrom_append, Bool.and_eq_true] at h
  have hn : 0 ≤ depthFrom (depth - 1) before := depthFrom_nonneg (by omega) h.1
  have hs : depthFrom depth before = depthFrom (depth - 1) before + 1 := by
    simpa using depthFrom_add (depth - 1) 1 before
  omega

/-! ### Decompositions -/

/-- The texts between the separators that stand at depth zero, the first counted from `depth`. -/
inductive Cuts (separator : Char) : Int → Text → List Text → Prop
  | last {depth : Int} {text : Text} (hu : UnbrokenFrom separator depth text) :
    Cuts separator depth text [text]
  | cut {depth : Int} {first rest : Text} {later : List Text}
    (hu : UnbrokenFrom separator depth first) (hz : depthFrom depth first = 0)
    (hl : Cuts separator 0 rest later) :
    Cuts separator depth (first ++ separator :: rest) (first :: later)

theorem isBreak_iff (ho : separator ≠ '(') (hc : separator ≠ ')') :
    isBreak separator depth c ↔ c = separator ∧ depth = 0 := by
  simp only [isBreak, Bool.and_eq_true, beq_iff_eq, bne_iff_ne]
  constructor
  · rintro ⟨⟨⟨rfl, -⟩, -⟩, rfl⟩
    exact ⟨rfl, rfl⟩
  · rintro ⟨rfl, rfl⟩
    exact ⟨⟨⟨rfl, ho⟩, hc⟩, rfl⟩

theorem Cuts.consFirst (hc : ¬(c = separator ∧ depth = 0))
    (h : Cuts separator (depthStep depth c) text pieces) :
    Cuts separator depth (c :: text) (consFirst c pieces) := by
  cases h with
  | last hu => exact .last (unbrokenFrom_cons.2 ⟨hc, hu⟩)
  | cut hu hz hl => exact .cut (unbrokenFrom_cons.2 ⟨hc, hu⟩) hz hl

theorem cuts_segmentsFrom (ho : separator ≠ '(') (hc : separator ≠ ')') (depth : Int) (text : Text) :
    Cuts separator depth text (segmentsFrom separator depth text) := by
  induction text generalizing depth with
  | nil => exact .last unbrokenFrom_nil
  | cons c rest ih =>
    rw [segmentsFrom]
    split_ifs with hb
    · obtain ⟨rfl, rfl⟩ := (isBreak_iff ho hc).1 hb
      exact @Cuts.cut c 0 [] rest _ unbrokenFrom_nil rfl (ih 0)
    · exact (ih _).consFirst (mt (isBreak_iff ho hc).2 hb)

theorem cuts_segments (ho : separator ≠ '(') (hc : separator ≠ ')') (text : Text) :
    Cuts separator 0 text (segments separator text) :=
  cuts_segmentsFrom ho hc 0 text

theorem segmentsFrom_of_unbroken (h : UnbrokenFrom separator depth text) :
    segmentsFrom separator depth text = [text] := by
  induction text generalizing depth with
  | nil => rfl
  | cons c rest ih =>
    obtain ⟨hc, hr⟩ := unbrokenFrom_cons.1 h
    have hb : ¬isBreak separator depth c := by
      simp only [isBreak, Bool.and_eq_true, beq_iff_eq]
      tauto
    rw [segmentsFrom, if_neg hb, ih hr, consFirst]

theorem segmentsFrom_append_cons (ho : separator ≠ '(') (hc : separator ≠ ')')
    (hu : UnbrokenFrom separator depth first) (hz : depthFrom depth first = 0) :
    segmentsFrom separator depth (first ++ separator :: rest) =
      first :: segmentsFrom separator 0 rest := by
  induction first generalizing depth with
  | nil =>
    obtain rfl : depth = 0 := hz
    rw [List.nil_append, segmentsFrom, if_pos ((isBreak_iff ho hc).2 ⟨rfl, rfl⟩)]
  | cons c later ih =>
    obtain ⟨hn, hu⟩ := unbrokenFrom_cons.1 hu
    rw [List.cons_append, segmentsFrom, if_neg (mt (isBreak_iff ho hc).1 hn), ih hu hz, consFirst]

/-- The scan finds the decomposition, and there is no other. -/
theorem cuts_iff (ho : separator ≠ '(') (hc : separator ≠ ')') :
    Cuts separator depth text pieces ↔ pieces = segmentsFrom separator depth text := by
  constructor
  · intro h
    induction h with
    | last hu => exact (segmentsFrom_of_unbroken hu).symm
    | cut hu hz _ ih => rw [segmentsFrom_append_cons ho hc hu hz, ih]
  · rintro rfl
    exact cuts_segmentsFrom ho hc depth text

/-- What follows at the depth of the end belongs to the last piece, if no separator in it counts. -/
theorem Cuts.append_unbroken (h : Cuts separator depth text pieces)
    (hu : ∀ depth, UnbrokenFrom separator depth b) :
    ∃ init last, pieces = init ++ [last] ∧ Cuts separator depth (text ++ b) (init ++ [last ++ b]) := by
  induction h with
  | @last depth text ht =>
    exact ⟨[], text, rfl, .last (unbrokenFrom_append.2 ⟨ht, hu _⟩)⟩
  | @cut depth first rest later hf hz _ ih =>
    obtain ⟨init, last, rfl, hc⟩ := ih
    refine ⟨first :: init, last, rfl, ?_⟩
    rw [List.append_assoc]
    exact .cut hf hz hc

theorem Cuts.unbroken_append (h : Cuts separator (depthFrom depth a) text pieces)
    (hu : UnbrokenFrom separator depth a) :
    ∃ first later, pieces = first :: later ∧ Cuts separator depth (a ++ text) ((a ++ first) :: later) := by
  cases h with
  | last ht => exact ⟨text, [], rfl, .last (unbrokenFrom_append.2 ⟨hu, ht⟩)⟩
  | @cut _ first rest later hf hz hl =>
    refine ⟨first, later, rfl, ?_⟩
    rw [← List.append_assoc]
    exact .cut (unbrokenFrom_append.2 ⟨hu, hf⟩) (by rwa [depthFrom_append]) hl

/-- Two texts with a separator between them come apart there, if the first ends at depth zero. -/
theorem Cuts.append {pieces' : List Text} (hs : Flat [separator]) (h : Cuts separator depth a pieces)
    (hz : depthFrom depth a = 0) (h' : Cuts separator 0 b pieces') :
    Cuts separator depth (a ++ separator :: b) (pieces ++ pieces') := by
  induction h with
  | last hu => exact .cut hu hz h'
  | @cut depth first rest later hu hf _ ih =>
    rw [depthFrom_append, hf, ← List.singleton_append, depthFrom_append, depthFrom_of_flat hs] at hz
    rw [List.append_assoc, List.cons_append, List.cons_append]
    exact .cut hu hf (ih hz)

/-! ### Joins -/

theorem join_cons_cons (separator a b : Text) (texts : List Text) :
    join separator (a :: b :: texts) = a ++ (separator ++ join separator (b :: texts)) := by
  simp [join, List.intercalate_cons_cons]

theorem join_append {separator : Text} {texts texts' : List Text} (h : texts ≠ []) (h' : texts' ≠ []) :
    join separator (texts ++ texts') = join separator texts ++ (separator ++ join separator texts') := by
  induction texts with
  | nil => exact absurd rfl h
  | cons first later ih =>
    cases later with
    | nil =>
      obtain ⟨next, more, rfl⟩ := List.exists_cons_of_ne_nil h'
      simp [join, List.intercalate_cons_cons]
    | cons next more =>
      rw [List.cons_append, List.cons_append, join_cons_cons, join_cons_cons, ← List.cons_append,
        ih (List.cons_ne_nil _ _)]
      simp only [List.append_assoc]

/-- A join of joins is one join. -/
theorem join_map_join {α : Type} {separator : Text} {parts : α → List Text} {xs : List α}
    (h : ∀ x ∈ xs, parts x ≠ []) :
    join separator (xs.map fun x => join separator (parts x)) = join separator (xs.flatMap parts) := by
  induction xs with
  | nil => rfl
  | cons first later ih =>
    obtain ⟨hf, hl⟩ := List.forall_mem_cons.1 h
    cases later with
    | nil => simp [join]
    | cons next more =>
      have hn : (next :: more).flatMap parts ≠ [] := by simp [(List.forall_mem_cons.1 hl).1]
      rw [List.flatMap_cons, join_append hf hn, ← ih hl]
      exact join_cons_cons ..

theorem infix_join {separator : Text} (h : a ∈ pieces) : a <:+: join separator pieces := by
  induction pieces with
  | nil => cases h
  | cons first later ih =>
    cases later with
    | nil =>
      obtain rfl : a = first := by simpa using h
      simp [join]
    | cons next more =>
      rw [join_cons_cons]
      rcases List.mem_cons.1 h with rfl | h
      · exact (List.prefix_append _ _).isInfix
      · exact (ih h).trans ((List.suffix_append _ _).trans (List.suffix_append _ _)).isInfix

theorem Cuts.ne_nil (h : Cuts separator depth text pieces) : pieces ≠ [] := by
  cases h <;> simp

theorem Cuts.join_eq (h : Cuts separator depth text pieces) : join [separator] pieces = text := by
  induction h with
  | last hu => simp [join]
  | @cut depth first rest later hu hz hl ih =>
    obtain ⟨next, more, rfl⟩ := List.exists_cons_of_ne_nil hl.ne_nil
    rw [join_cons_cons, ih]
    rfl

theorem isBalanced_join {separator : Text} (hs : Flat separator) (h : ∀ p ∈ pieces, isBalanced p) :
    isBalanced (join separator pieces) := by
  induction pieces with
  | nil => rfl
  | cons first later ih =>
    obtain ⟨hf, hl⟩ := List.forall_mem_cons.1 h
    cases later with
    | nil => simpa [join] using hf
    | cons next more =>
      rw [join_cons_cons, isBalanced_append_iff (depthFrom_of_isBalanced hf 0),
        isBalanced_append_iff (depthFrom_of_flat hs 0)]
      exact ⟨hf, isBalanced_of_flat hs, ih hl⟩

/-! ### Pieces -/

/-- A balanced text without a separator outside parentheses. -/
structure IsPiece (separator : Char) (text : Text) : Prop where
  balanced : isBalanced text
  unbroken : Unbroken separator text

theorem isPiece_of_flat (hf : Flat text) (hs : separator ∉ text) : IsPiece separator text :=
  ⟨isBalanced_of_flat hf, unbrokenFrom_of_not_mem hs⟩

theorem isPiece_call {opening inner : Text} (ho : IsOpening opening) (hs : separator ∉ opening)
    (hc : separator ≠ ')') (hi : isBalanced inner) : IsPiece separator (opening ++ inner ++ ")") := by
  refine ⟨isBalanced_call ho hi, ?_⟩
  have hn : neverBelowFrom (1 - 1) inner := (isBalanced_iff.1 hi).1
  have hl : separator ∉ [')'] := by simpa using hc
  rw [Unbroken, unbrokenFrom_append, unbrokenFrom_append, ho.depthFrom]
  exact ⟨⟨unbrokenFrom_of_not_mem hs, unbrokenFrom_of_pos Int.one_pos hn⟩, unbrokenFrom_of_not_mem hl⟩

theorem isPiece_append_left (ha : IsPiece separator a) :
    IsPiece separator (a ++ b) ↔ IsPiece separator b := by
  have hz : depthFrom 0 a = 0 := depthFrom_of_isBalanced ha.balanced 0
  constructor
  · rintro ⟨hb, hu⟩
    rw [Unbroken, unbrokenFrom_append, hz] at hu
    exact ⟨((isBalanced_append_iff hz).1 hb).2, hu.2⟩
  · rintro ⟨hb, hu⟩
    refine ⟨(isBalanced_append_iff hz).2 ⟨ha.balanced, hb⟩, ?_⟩
    rw [Unbroken, unbrokenFrom_append, hz]
    exact ⟨ha.unbroken, hu⟩

theorem isPiece_append_right (hb : IsPiece separator b) :
    IsPiece separator (a ++ b) ↔ IsPiece separator a := by
  constructor
  · rintro ⟨hab, hu⟩
    exact ⟨(isBalanced_append_right hb.balanced).1 hab, (unbrokenFrom_append.1 hu).1⟩
  · exact fun ha => (isPiece_append_left ha).2 hb

/-! ### Blanks -/

theorem isPiece_of_blank (hs : isBlank separator = false) (h : ∀ c ∈ text, isBlank c) :
    IsPiece separator text := by
  refine isPiece_of_flat (.of_blank h) fun hm => ?_
  rw [h _ hm] at hs
  cases hs

theorem unbrokenFrom_withoutBlanks (hs : isBlank separator = false) :
    UnbrokenFrom separator depth (withoutBlanks text) ↔ UnbrokenFrom separator depth text := by
  induction text generalizing depth with
  | nil => rfl
  | cons c rest ih =>
    rw [withoutBlanks_cons]
    split_ifs with hc
    · have hne : c ≠ separator := by
        rintro rfl
        rw [hs] at hc
        cases hc
      rw [ih, unbrokenFrom_cons, depthStep_of_isBlank hc]
      simp [hne]
    · rw [unbrokenFrom_cons, unbrokenFrom_cons, ih]

theorem isPiece_withoutBlanks (hs : isBlank separator = false) :
    IsPiece separator (withoutBlanks text) ↔ IsPiece separator text := by
  constructor
  · rintro ⟨hb, hu⟩
    exact ⟨isBalanced_withoutBlanks text ▸ hb, (unbrokenFrom_withoutBlanks hs).1 hu⟩
  · rintro ⟨hb, hu⟩
    exact ⟨isBalanced_withoutBlanks text ▸ hb, (unbrokenFrom_withoutBlanks hs).2 hu⟩

/-! ### Joins of pieces -/

theorem cuts_join (hne : pieces ≠ []) (h : ∀ p ∈ pieces, IsPiece separator p) :
    Cuts separator 0 (join [separator] pieces) pieces := by
  induction pieces with
  | nil => exact absurd rfl hne
  | cons first later ih =>
    obtain ⟨hf, hl⟩ := List.forall_mem_cons.1 h
    cases later with
    | nil => simpa [join] using Cuts.last hf.unbroken
    | cons next more =>
      rw [join_cons_cons]
      exact .cut hf.unbroken (depthFrom_of_isBalanced hf.balanced 0) (ih (by simp) hl)

/-- A join of pieces comes apart into the pieces. -/
theorem segments_join (ho : separator ≠ '(') (hc : separator ≠ ')') (hne : pieces ≠ [])
    (h : ∀ p ∈ pieces, IsPiece separator p) : segments separator (join [separator] pieces) = pieces :=
  ((cuts_iff ho hc).1 (cuts_join hne h)).symm

/-- What a balanced text is cut into is balanced. -/
theorem Cuts.isPiece (hs : Flat [separator]) (h : Cuts separator 0 text pieces)
    (hb : isBalanced text) : ∀ p ∈ pieces, IsPiece separator p := by
  generalize hd : (0 : Int) = depth at h
  induction h with
  | last hu =>
    subst hd
    simpa using ⟨hb, hu⟩
  | @cut depth first rest later hu hz hl ih =>
    subst hd
    rw [isBalanced_append_iff hz, ← List.singleton_append,
      isBalanced_append_iff (depthFrom_of_flat hs 0)] at hb
    exact List.forall_mem_cons.2 ⟨⟨hb.1, hu⟩, ih hb.2.2 rfl⟩

/-! ### Cuts at the first character of a kind -/

/-- A text is cut at its first character outside `kind`. -/
theorem takeWhile_dropWhile_eq_iff {kind : Char → Bool} :
    text.takeWhile kind = a ∧ text.dropWhile kind = c :: b ↔
      text = a ++ c :: b ∧ (∀ x ∈ a, kind x) ∧ kind c = false := by
  constructor
  · rintro ⟨rfl, hd⟩
    refine ⟨by rw [← hd, List.takeWhile_append_dropWhile], fun x => List.mem_takeWhile_imp, ?_⟩
    have hne : text.dropWhile kind ≠ [] := by simp [hd]
    simpa [hd] using List.head_dropWhile_not kind hne
  · rintro ⟨rfl, ha, hc⟩
    rw [List.takeWhile_append_of_pos ha, List.dropWhile_append_of_pos ha]
    simp [hc]

theorem splitFirst?_eq_some_iff :
    splitFirst? separator text = some (a, b) ↔ text = a ++ separator :: b ∧ separator ∉ a := by
  have hk : text.takeWhile (· ≠ separator) = a ∧ text.dropWhile (· ≠ separator) = separator :: b ↔
      text = a ++ separator :: b ∧ separator ∉ a := by
    have hm : (∀ x ∈ a, x ≠ separator) ↔ separator ∉ a := List.forall_mem_ne'
    rw [takeWhile_dropWhile_eq_iff, ← hm]
    simp
  rw [← hk, splitFirst?]
  constructor
  · intro h
    split at h
    · cases h
    · rename_i c after hd
      obtain ⟨rfl, rfl⟩ := Prod.mk.inj (Option.some.inj h)
      have hc := (takeWhile_dropWhile_eq_iff.1 ⟨rfl, hd⟩).2.2
      obtain rfl : c = separator := by simpa using hc
      exact ⟨rfl, hd⟩
  · rintro ⟨rfl, hd⟩
    rw [hd]

/-! ### Cuts at every separator -/

theorem notMem_of_mem_splitOn (h : a ∈ text.splitOn separator) : separator ∉ a := by
  induction text generalizing a with
  | nil =>
    obtain rfl : a = [] := by simpa using h
    simp
  | cons c rest ih =>
    rw [List.splitOn_cons_eq_if_modifyHead] at h
    split_ifs at h with hc
    · rcases List.mem_cons.1 h with rfl | h
      · simp
      · exact ih h
    · obtain ⟨first, later, hs⟩ := List.exists_cons_of_ne_nil (List.splitOn_ne_nil separator rest)
      rw [hs, List.modifyHead_cons] at h
      rcases List.mem_cons.1 h with rfl | h
      · have hf : separator ∉ first := ih (hs ▸ List.mem_cons_self)
        simp only [beq_iff_eq] at hc
        simp [hf, Ne.symm hc]
      · exact ih (hs ▸ List.mem_cons_of_mem _ h)

/-- Cutting at every separator undoes the join of texts that hold none. -/
theorem splitOn_eq_iff :
    text.splitOn separator = pieces ↔
      pieces ≠ [] ∧ join [separator] pieces = text ∧ ∀ p ∈ pieces, separator ∉ p := by
  constructor
  · rintro rfl
    exact ⟨List.splitOn_ne_nil _ _, List.intercalate_splitOn _, fun _ => notMem_of_mem_splitOn⟩
  · rintro ⟨hne, rfl, hp⟩
    exact List.splitOn_intercalate separator hp hne

/-- Texts without a separator are known from their join. -/
theorem join_inj {pieces' : List Text} (hne : pieces ≠ []) (hne' : pieces' ≠ [])
    (hp : ∀ p ∈ pieces, separator ∉ p) (hp' : ∀ p ∈ pieces', separator ∉ p)
    (h : join [separator] pieces = join [separator] pieces') : pieces = pieces' :=
  (splitOn_eq_iff.2 ⟨hne, rfl, hp⟩).symm.trans (splitOn_eq_iff.2 ⟨hne', h.symm, hp'⟩)

end ColumnTypes.Text
