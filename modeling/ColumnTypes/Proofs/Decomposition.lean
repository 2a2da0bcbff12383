import ColumnTypes.Proofs.Segments

/-!
The split of a parameter list, told without the scan. `Decomposes` speaks of the join of the pieces and
of the parentheses inside each piece alone, so it makes sense for any text, balanced or not. Every text
has one decomposition and no other, with a piece for each separator at depth zero and one more.
-/

namespace ColumnTypes.Text

variable {separator c : Char} {depth : Int} {text : Text} {pieces : List Text}

/-- The pieces joined by `separator` are the text, each of them but the last closes as many parentheses
as it opens, and a separator inside a piece stands within parentheses of that piece. -/
structure Decomposes (separator : Char) (text : Text) (pieces : List Text) : Prop where
  nonempty : pieces ≠ []
  join_eq : join [separator] pieces = text
  closed : ∀ piece ∈ pieces.dropLast, piece.count '(' = piece.count ')'
  unbroken : ∀ piece ∈ pieces, Unbroken separator piece

/-- How many separators stand at depth zero, the depth counted from `depth` at the start of the text. -/
def breakCount (separator : Char) (depth : Int) (text : Text) : Nat :=
  (List.range text.length).countP fun i =>
    text[i]? == some separator && depthFrom depth (text.take i) == 0

theorem depthFrom_eq_count (depth : Int) (text : Text) :
    depthFrom depth text = depth + text.count '(' - text.count ')' := by
  induction text generalizing depth with
  | nil => simp
  | cons c rest ih =>
    rw [depthFrom_cons, ih, depthStep, List.count_cons, List.count_cons]
    by_cases ho : c = '('
    · subst ho
      simp
      omega
    · by_cases hc : c = ')'
      · subst hc
        simp
        omega
      · simp [ho, hc]

theorem depthFrom_zero_eq_zero_iff : depthFrom 0 text = 0 ↔ text.count '(' = text.count ')' := by
  rw [depthFrom_eq_count]
  omega

/-! ### One decomposition -/

theorem Decomposes.cuts (h : Decomposes separator text pieces) : Cuts separator 0 text pieces := by
  obtain ⟨hne, rfl, hc, hu⟩ := h
  induction pieces with
  | nil => exact absurd rfl hne
  | cons first later ih =>
    obtain ⟨hf, hl⟩ := List.forall_mem_cons.1 hu
    cases later with
    | nil => simpa [join] using Cuts.last hf
    | cons next more =>
      rw [List.dropLast_cons_of_ne_nil (by simp)] at hc
      obtain ⟨hz, hc⟩ := List.forall_mem_cons.1 hc
      rw [join_cons_cons]
      exact .cut hf (depthFrom_zero_eq_zero_iff.2 hz) (ih (by simp) hc hl)

theorem Cuts.decomposes (h : Cuts separator 0 text pieces) : Decomposes separator text pieces := by
  refine ⟨h.ne_nil, h.join_eq, ?_, ?_⟩
  · generalize hd : (0 : Int) = depth at h
    induction h with
    | last hu => simp
    | @cut depth first rest later hu hz hl ih =>
      subst hd
      rw [List.dropLast_cons_of_ne_nil hl.ne_nil]
      exact List.forall_mem_cons.2 ⟨depthFrom_zero_eq_zero_iff.1 hz, ih rfl⟩
  · generalize hd : (0 : Int) = depth at h
    induction h with
    | last hu =>
      subst hd
      exact List.forall_mem_singleton.2 hu
    | cut hu hz hl ih =>
      subst hd
      exact List.forall_mem_cons.2 ⟨hu, ih rfl⟩

/-! ### As many pieces as separators, and one more -/

theorem breakCount_cons (separator : Char) (depth : Int) (c : Char) (text : Text) :
    breakCount separator depth (c :: text) =
      breakCount separator (depthStep depth c) text + if c = separator ∧ depth = 0 then 1 else 0 := by
  have h0 : ((c :: text)[0]? == some separator && depthFrom depth ((c :: text).take 0) == 0) ↔
      c = separator ∧ depth = 0 := by simp
  rw [breakCount, List.length_cons, List.range_succ_eq_map, List.countP_cons, List.countP_map]
  simp only [h0]
  rfl

theorem length_consFirst (hne : pieces ≠ []) : (consFirst c pieces).length = pieces.length := by
  cases pieces with
  | nil => exact absurd rfl hne
  | cons first later => rfl

theorem length_segmentsFrom (ho : separator ≠ '(') (hc : separator ≠ ')') (depth : Int) (text : Text) :
    (segmentsFrom separator depth text).length = breakCount separator depth text + 1 := by
  induction text generalizing depth with
  | nil => rfl
  | cons c rest ih =>
    rw [segmentsFrom, breakCount_cons]
    by_cases hb : c = separator ∧ depth = 0
    · obtain ⟨rfl, rfl⟩ := hb
      rw [if_pos ((isBreak_iff ho hc).2 ⟨rfl, rfl⟩), List.length_cons, ih, depthStep_of_ne ho hc]
      simp
    · have hne : segmentsFrom separator (depthStep depth c) rest ≠ [] :=
        (cuts_segmentsFrom ho hc _ rest).ne_nil
      rw [if_neg (mt (isBreak_iff ho hc).1 hb), if_neg hb, length_consFirst hne, ih]

/-- A parenthesis changes the depth, so as a separator it never ends a piece. -/
theorem segmentsFrom_of_parenthesis (hs : separator = '(' ∨ separator = ')') (depth : Int)
    (text : Text) : segmentsFrom separator depth text = [text] := by
  induction text generalizing depth with
  | nil => rfl
  | cons c rest ih =>
    have hb : ¬isBreak separator depth c := by
      simp only [isBreak, Bool.and_eq_true, beq_iff_eq, bne_iff_ne]
      rintro ⟨⟨⟨rfl, ho⟩, hc⟩, -⟩
      exact hs.elim ho hc
    rw [segmentsFrom, if_neg hb, ih, consFirst]

/-- A text has one decomposition at the separators outside its parentheses, the one that the scan finds,
with one piece more than there are such separators. A parenthesis for a separator leaves the text in
one piece. -/
theorem segments_decompose (separator : Char) (text : Text) :
    (separator ≠ '(' → separator ≠ ')' →
      (∀ pieces, Decomposes separator text pieces ↔ pieces = segments separator text) ∧
        (segments separator text).length = breakCount separator 0 text + 1) ∧
    (separator = '(' ∨ separator = ')' → segments separator text = [text]) := by
  refine ⟨fun ho hc => ⟨fun pieces => ?_, length_segmentsFrom ho hc 0 text⟩,
    fun hs => segmentsFrom_of_parenthesis hs 0 text⟩
  have hcuts : Cuts separator 0 text pieces ↔ pieces = segments separator text := cuts_iff ho hc
  rw [← hcuts]
  exact ⟨Decomposes.cuts, Cuts.decomposes⟩

/-- The depth falls below zero, comes back to it, and is above it at the end. -/
theorem segments_decompose_of_unbalanced :
    ('→' ≠ '(' ∧ '→' ≠ ')') ∧
      (∀ pieces, Decomposes '→' ")→(→a→(→b" pieces ↔ pieces = [")→(", "a", "(→b"]) ∧
      breakCount '→' 0 ")→(→a→(→b" = 2 ∧ segments '(' ")(a" = [")(a"] := by
  have hs : segments '→' ")→(→a→(→b" = [")→(", "a", "(→b"] := by decide
  obtain ⟨hd, hl⟩ := (segments_decompose '→' ")→(→a→(→b").1 (by decide) (by decide)
  rw [hs] at hd hl
  exact ⟨by decide, hd, (Nat.succ.inj hl).symm, (segments_decompose '(' ")(a").2 (.inl rfl)⟩

end ColumnTypes.Text
