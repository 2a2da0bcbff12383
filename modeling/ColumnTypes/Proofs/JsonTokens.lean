import ColumnTypes.Json.Spelling
import ColumnTypes.Json.Token
import ColumnTypes.Proofs.Levels

/-!
The tokens of a spelling. Both spellings of a JSON value come apart into the same tokens: blanks between
tokens do not count, a string ends at its own closing quote, and a number ends where the character after
it is none of a number.
-/

namespace ColumnTypes.Json

open Text

variable {a b text digits blanks : Text} {c : Char}

namespace Token

variable {token : Token} {s t tokens : List Token}

/-! ### Strings -/

/-- The escape of a control character without a letter of its own. -/
theorem hexUnit?_hex4 {n : Nat} (hn : n < 0x20) :
    ∃ a b c d, hex4 n = [a, b, c, d] ∧ hexUnit? a b c d = some n := by
  have h : ∀ n < 0x20, hex4 n = ['0', '0', (n / 16).digitChar, (n % 16).digitChar] ∧
      hexUnit? '0' '0' (n / 16).digitChar (n % 16).digitChar = some n := by decide +kernel
  exact ⟨_, _, _, _, h n hn⟩

theorem string?_letter {letter : Char} (h : letterEscape? letter = some c) (rest : Text) :
    string? ('\\' :: letter :: rest) = (string? rest).map fun (value, rest) => (c :: value, rest) := by
  have hu : letter ≠ 'u' := by
    rintro rfl
    cases h
  simp [string?, hu, h]

theorem string?_escape (c : Char) (rest : Text) :
    string? (escape c ++ rest) = (string? rest).map fun (value, rest) => (c :: value, rest) := by
  unfold escape
  split_ifs with hq hb h8 hc hn hr ht hx
  · exact string?_letter (by rw [hq]; rfl) rest
  · exact string?_letter (by rw [hb]; rfl) rest
  · exact string?_letter (by rw [h8]; rfl) rest
  · exact string?_letter (by rw [hc]; rfl) rest
  · exact string?_letter (by rw [hn]; rfl) rest
  · exact string?_letter (by rw [hr]; rfl) rest
  · exact string?_letter (by rw [ht]; rfl) rest
  · obtain ⟨a, b, c', d, he, hu⟩ := hexUnit?_hex4 hx
    have hlow : c.toNat < 0xD800 := by omega
    simp [he, string?, hu, hlow, Char.ofNat_toNat]
  · have hge : ¬c.toNat < 0x20 := hx
    simp [string?, hb, hge]

theorem string?_quoted (text rest : Text) :
    string? (text.flatMap escape ++ '"' :: rest) = some (text, rest) := by
  induction text with
  | nil => rfl
  | cons c text ih => rw [List.flatMap_cons, List.append_assoc, string?_escape, ih]; rfl

/-! ### Numbers -/

theorem isWholePart_cons {rest : Text} (hc : c ≠ '0') (h : (c :: rest).all Char.isDigit) :
    isWholePart (c :: rest) := by
  unfold isWholePart
  split <;> simp_all

/-- The digits of a number begin with a zero only if there is no other. -/
theorem exists_leading_digit {n : Nat} (hn : 0 < n) :
    ∃ c rest, Text.ofNat n = c :: rest ∧ c ≠ '0' := by
  induction n using Nat.strong_induction_on with
  | _ n ih =>
    by_cases hl : n < 10
    · have hd : ∀ n < 10, 0 < n → n.digitChar ≠ '0' := by decide
      exact ⟨n.digitChar, [], Nat.toDigits_of_lt_base hl, hd n hl hn⟩
    · obtain ⟨c, rest, hr, hc⟩ := ih (n / 10) (by omega) (by omega)
      refine ⟨c, rest ++ [(n % 10).digitChar], ?_, hc⟩
      rw [Text.ofNat] at hr ⊢
      rw [Nat.toDigits_of_base_le (by decide) (by omega), hr]
      rfl

theorem all_isDigit_ofNat (n : Nat) : (Text.ofNat n).all Char.isDigit :=
  List.all_eq_true.2 (Numeral.ofNat n).digit

theorem isWholePart_ofNat (n : Nat) : isWholePart (Text.ofNat n) := by
  cases n with
  | zero => rfl
  | succ n =>
    obtain ⟨c, rest, he, hc⟩ := exists_leading_digit n.succ_pos
    have hd := all_isDigit_ofNat (n + 1)
    rw [he] at hd ⊢
    exact isWholePart_cons hc hd

theorem number?_ofInt (n : Int) : number? (Text.ofInt n) = some (integer n) := by
  cases n with
  | ofNat n =>
    have hw := isWholePart_ofNat n
    have hv := (Numeral.ofNat n).value
    have hm : ∀ rest, Text.ofNat n ≠ '-' :: rest := by
      intro rest he
      have hd := all_isDigit_ofNat n
      rw [he] at hd
      simp at hd
    unfold number?
    split
    · rename_i digits he
      exact absurd he (hm digits)
    · simp [Text.ofInt, hw, hv]
  | negSucc n =>
    obtain ⟨c, rest, he, hc⟩ := exists_leading_digit n.succ_pos
    have hw := isWholePart_ofNat (n + 1)
    have hv := (Numeral.ofNat (n + 1)).value
    have hz : Text.ofNat (n + 1) ≠ ['0'] := by
      rw [he]
      simp [hc]
    simp [number?, Text.ofInt, hw, hv, hz, Int.negSucc_eq]

theorem isNumeric_ofInt (n : Int) : ∀ c ∈ Text.ofInt n, isNumeric c := by
  have hd (n : Nat) : ∀ c ∈ Text.ofNat n, isNumeric c := by
    intro c hc
    simp [isNumeric, (Numeral.ofNat n).digit c hc]
  cases n with
  | ofNat n => exact hd n
  | negSucc n => exact List.forall_mem_cons.2 ⟨rfl, hd (n + 1)⟩

/-! ### One token after the other -/

/-- A text that does not go on with a number. -/
def Settled (text : Text) : Prop := ∀ c ∈ text.head?, isNumeric c = false

theorem isBlank_of_isNumeric (hc : isNumeric c) : isBlank c = false := by
  by_contra hb
  simp only [isBlank, Bool.not_eq_false, Bool.or_eq_true, decide_eq_true_eq] at hb
  rcases hb with ((rfl | rfl) | rfl) | rfl <;> cases hc

theorem settled_cons (hc : isNumeric c = false) (text : Text) : Settled (c :: text) := by
  simpa [Settled] using hc

theorem next?_of_isNumeric (hc : isNumeric c) (rest : Text) :
    next? (c :: rest) =
      (number? ((c :: rest).takeWhile isNumeric)).map (·, (c :: rest).dropWhile isNumeric) := by
  -- the first character tells every other token apart from a number
  unfold next?
  split
  case h_11 => rfl
  all_goals
    rename_i he
    obtain ⟨rfl, -⟩ := List.cons.inj he
    exact absurd hc (by decide)

theorem exists_cons_ofInt (n : Int) : ∃ c more, Text.ofInt n = c :: more := by
  refine List.exists_cons_of_ne_nil fun hn => ?_
  have hnum := number?_ofInt n
  rw [hn] at hnum
  cases hnum

theorem next?_ofInt (n : Int) {rest : Text} (hr : Settled rest) :
    next? (Text.ofInt n ++ rest) = some (integer n, rest) := by
  have hall := isNumeric_ofInt n
  have hnum := number?_ofInt n
  obtain ⟨c, more, he⟩ := exists_cons_ofInt n
  have htake : rest.takeWhile isNumeric = [] := by
    cases rest with
    | nil => rfl
    | cons c rest => simp [hr c rfl]
  have hdrop : rest.dropWhile isNumeric = rest := by
    cases rest with
    | nil => rfl
    | cons c rest => simp [hr c rfl]
  rw [he] at hall hnum ⊢
  rw [List.cons_append, next?_of_isNumeric (hall c List.mem_cons_self), ← List.cons_append,
    List.takeWhile_append_of_pos hall, List.dropWhile_append_of_pos hall, htake, hdrop,
    List.append_nil, hnum]
  rfl

theorem all?_eq (text : Text) :
    all? text =
      match text.dropWhile isBlank with
      | [] => some []
      | c :: more =>
        match next? (c :: more) with
        | none => none
        | some (token, rest) => (all? rest).map (token :: ·) := by
  rw [all?]
  split
  · rename_i hd
    rw [hd]
  · rename_i c more hd
    rw [hd]
    dsimp only
    split
    · rename_i hn
      rw [hn]
    · rename_i token rest hn
      rw [hn]

theorem all?_cons_blank (hc : isBlank c) (text : Text) : all? (c :: text) = all? text := by
  have hd : (c :: text).dropWhile isBlank = text.dropWhile isBlank := by simp [hc]
  rw [all?_eq, hd, ← all?_eq]

theorem all?_of_next? {rest : Text} (hc : isBlank c = false)
    (hn : next? (c :: text) = some (token, rest)) :
    all? (c :: text) = (all? rest).map (token :: ·) := by
  have hd : (c :: text).dropWhile isBlank = c :: text := by simp [hc]
  simp only [all?_eq (c :: text), hd, hn]

/-- A character that is a token by itself. -/
structure IsMark (c : Char) (token : Token) : Prop where
  visible : isBlank c = false
  settled : isNumeric c = false
  alone : ∀ rest, next? (c :: rest) = some (token, rest)

theorem isMark_comma : IsMark ',' comma := ⟨by decide, by decide, fun _ => rfl⟩

theorem isMark_colon : IsMark ':' colon := ⟨by decide, by decide, fun _ => rfl⟩

theorem isMark_leftBracket : IsMark '[' leftBracket := ⟨by decide, by decide, fun _ => rfl⟩

theorem isMark_rightBracket : IsMark ']' rightBracket := ⟨by decide, by decide, fun _ => rfl⟩

theorem isMark_leftBrace : IsMark '\x7b' leftBrace := ⟨by decide, by decide, fun _ => rfl⟩

theorem isMark_rightBrace : IsMark '\x7d' rightBrace := ⟨by decide, by decide, fun _ => rfl⟩

/-- Followed by anything but more of a number, `text` is scanned as `tokens`. -/
def Spells (text : Text) (tokens : List Token) : Prop :=
  ∀ rest, Settled rest → all? (text ++ rest) = (all? rest).map (tokens ++ ·)

namespace Spells

theorem all?_eq_some (h : Spells text tokens) : all? text = some tokens := by
  have he := h [] (by simp [Settled])
  have hn : all? [] = some [] := all?_eq []
  simpa [hn] using he

theorem append (ha : Spells a s) (hb : Spells b t) (hs : Settled b) : Spells (a ++ b) (s ++ t) := by
  intro rest hr
  have hbr : Settled (b ++ rest) := by
    cases b with
    | nil => exact hr
    | cons c b => exact hs
  rw [List.append_assoc, ha _ hbr, hb rest hr]
  cases all? rest <;> simp

theorem cons_blank (hc : isBlank c) (h : Spells text tokens) : Spells (c :: text) tokens := by
  intro rest hr
  rw [List.cons_append, all?_cons_blank hc, h rest hr]

theorem blanks_append (hb : ∀ c ∈ blanks, isBlank c) (h : Spells text tokens) :
    Spells (blanks ++ text) tokens := by
  induction blanks with
  | nil => exact h
  | cons c blanks ih =>
    obtain ⟨hc, hb⟩ := List.forall_mem_cons.1 hb
    exact (ih hb).cons_blank hc

theorem cons_mark (hm : IsMark c token) (h : Spells text tokens) :
    Spells (c :: text) (token :: tokens) := by
  intro rest hr
  rw [List.cons_append, all?_of_next? hm.visible (hm.alone _), h rest hr]
  cases all? rest <;> rfl

theorem nil : Spells [] [] := by
  intro rest hr
  cases h : all? rest <;> simp [h]

theorem of_next? (hc : isBlank c = false)
    (h : ∀ rest, Settled rest → next? (c :: text ++ rest) = some (token, rest)) :
    Spells (c :: text) [token] := by
  intro rest hr
  exact all?_of_next? hc (h rest hr)

theorem null : Spells "null" [Token.null] := of_next? (by decide) fun _ _ => rfl

theorem boolean (value : Bool) : Spells (word (.boolean value)) [Token.boolean value] := by
  cases value with
  | true => exact of_next? (by decide) fun _ _ => rfl
  | false => exact of_next? (by decide) fun _ _ => rfl

theorem quote (text : Text) : Spells (Json.quote text) [.string text] := by
  refine of_next? (by decide) fun rest _ => ?_
  have hs := string?_quoted text rest
  simp [next?, hs]

theorem ofInt (n : Int) : Spells (Text.ofInt n) [.integer n] := by
  obtain ⟨c, more, he⟩ := exists_cons_ofInt n
  have hb : isBlank c = false := isBlank_of_isNumeric (isNumeric_ofInt n c (by simp [he]))
  rw [he]
  exact of_next? hb fun rest hr => he ▸ next?_ofInt n hr

theorem join (hb : ∀ c ∈ blanks, isBlank c) {texts : List Text} {parts : List (List Token)}
    (h : List.Forall₂ Spells texts parts) :
    Spells (Text.join (',' :: blanks) texts) ([comma].intercalate parts) := by
  induction h with
  | nil => exact nil
  | @cons a s texts parts ha hl ih =>
    cases hl with
    | nil => simpa [Text.join] using ha
    | @cons b t texts parts hb' hl' =>
      rw [join_cons_cons, List.intercalate_cons_cons, List.append_assoc, List.cons_append]
      have hlater := (ih.blanks_append hb).cons_mark isMark_comma
      exact ha.append hlater (settled_cons isMark_comma.settled _)

theorem enclose {first last : Char} {start finish : Token} (hf : IsMark first start)
    (hl : IsMark last finish) (h : Spells text tokens) :
    Spells (first :: text ++ [last]) (start :: tokens ++ [finish]) :=
  (h.append (nil.cons_mark hl) (settled_cons hl.settled [])).cons_mark hf

theorem between_blanks {before after : Text} (hb : ∀ c ∈ before, isBlank c)
    (ha : ∀ c ∈ after, isBlank c) (h : Spells text tokens) : Spells (before ++ text ++ after) tokens := by
  have hs : Settled after := by
    intro c hc
    have hblank := ha c (List.mem_of_mem_head? hc)
    by_contra hn
    rw [isBlank_of_isNumeric (by simpa using hn)] at hblank
    cases hblank
  have hn : Spells after [] := by simpa using nil.blanks_append ha
  simpa using (h.blanks_append hb).append hn hs

theorem member (hb : ∀ c ∈ blanks, isBlank c) (key : Text) (h : Spells text tokens) :
    Spells (Json.quote key ++ (':' :: blanks) ++ text) (.string key :: colon :: tokens) := by
  have hrest := (h.blanks_append hb).cons_mark isMark_colon
  have hs : Settled (':' :: (blanks ++ text)) := settled_cons isMark_colon.settled _
  rw [List.append_assoc]
  exact (quote key).append hrest hs

end Spells

end Token

end ColumnTypes.Json
