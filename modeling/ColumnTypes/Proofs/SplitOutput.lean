import ColumnTypes.Proofs.Padding
import ColumnTypes.Report
import ColumnTypes.Text.Digits

/-!
The output of a split can be read again. Quoting writes no line feed and is undone by reading escapes, so
every line of an output is one entry, and the entries that are present make up the text that was split.
-/

namespace ColumnTypes

namespace Text

variable {c : Char} {digit value : Nat} {text rest : Text}

/-! ### Reading quoted text -/

/-- The character that a letter after a backslash stands for. -/
def letterEscape? : Char → Option Char
  | '0' => some '\x00'
  | 't' => some '\t'
  | 'n' => some '\n'
  | 'r' => some '\r'
  | '"' => some '"'
  | '\\' => some '\\'
  | _ => none

mutual

/-- The text whose quoted form goes on like this, up to the quote that ends it. -/
def unescape? : Text → Option Text
  | [] => none
  | '"' :: rest => if rest.isEmpty then some [] else none
  | '\\' :: 'u' :: '\x7b' :: rest => unescapeCode? 0 rest
  | '\\' :: rest =>
    match rest with
    | [] => none
    | letter :: rest => (letterEscape? letter).bind fun c => (c :: ·) <$> unescape? rest
  | c :: rest => (c :: ·) <$> unescape? rest

/-- Goes on within the escape of a code point, after hexadecimal digits of this value. -/
def unescapeCode? (value : Nat) : Text → Option Text
  | [] => none
  | '\x7d' :: rest => (Char.ofNat value :: ·) <$> unescape? rest
  | digit :: rest => (hexDigit? digit).bind fun d => unescapeCode? (16 * value + d) rest

end

theorem unescape?_of_ne (hq : c ≠ '"') (hb : c ≠ '\\') :
    unescape? (c :: rest) = (c :: ·) <$> unescape? rest := by
  rw [unescape?]
  all_goals simp_all

theorem hexDigit?_digitChar : ∀ digit < 16, hexDigit? digit.digitChar = some digit := by decide

theorem unescapeCode?_digitChar (hd : digit < 16) :
    unescapeCode? value (digit.digitChar :: rest) = unescapeCode? (16 * value + digit) rest := by
  have hx : hexDigit? digit.digitChar = some digit := hexDigit?_digitChar digit hd
  rw [unescapeCode?, hx, Option.bind_some]
  intro hc
  rw [hc] at hx
  cases hx

theorem unescapeCode?_toDigits (n : Nat) (rest : Text) :
    unescapeCode? 0 (Nat.toDigits 16 n ++ rest) = unescapeCode? n rest := by
  induction n using Nat.strongRecOn generalizing rest with
  | ind n ih =>
    rcases Nat.lt_or_ge n 16 with hn | hn
    · rw [Nat.toDigits_of_lt_base hn, List.singleton_append, unescapeCode?_digitChar hn, Nat.mul_zero,
        Nat.zero_add]
    · have hm : n % 16 < 16 := Nat.mod_lt _ (by decide)
      rw [Nat.toDigits_of_base_le (by decide) hn, List.append_assoc, List.singleton_append,
        ih (n / 16) (by omega), unescapeCode?_digitChar hm, Nat.div_add_mod]

theorem unescape?_quotedChar (c : Char) (rest : Text) :
    unescape? (quotedChar c ++ rest) = (c :: ·) <$> unescape? rest := by
  unfold quotedChar
  split_ifs with h0 ht hn hr hq hb hp
  · subst h0
    rfl
  · subst ht
    rfl
  · subst hn
    rfl
  · subst hr
    rfl
  · subst hq
    rfl
  · subst hb
    rfl
  · exact unescape?_of_ne hq hb
  · have hc : unescapeCode? c.toNat ('\x7d' :: rest) = (c :: ·) <$> unescape? rest := by
      rw [unescapeCode?, Char.ofNat_toNat]
    rw [← hc, ← unescapeCode?_toDigits, List.append_assoc, List.append_assoc]
    rfl

theorem unescape?_tail_quoted (text : Text) : unescape? (quoted text).tail = some text := by
  unfold quoted
  rw [List.cons_append, List.tail_cons]
  induction text with
  | nil => rfl
  | cons c rest ih =>
    rw [List.flatMap_cons, List.append_assoc, unescape?_quotedChar, ih]
    rfl

theorem newline_notMem_toDigits (n : Nat) : '\n' ∉ Nat.toDigits 16 n := by
  induction n using Nat.strongRecOn with
  | ind n ih =>
    have hd : ∀ digit < 16, '\n' ≠ digit.digitChar := by decide
    rcases Nat.lt_or_ge n 16 with hn | hn
    · rw [Nat.toDigits_of_lt_base hn, List.mem_singleton]
      exact hd n hn
    · rw [Nat.toDigits_of_base_le (by decide) hn, List.mem_append, List.mem_singleton]
      exact not_or.2 ⟨ih (n / 16) (by omega), hd _ (Nat.mod_lt _ (by decide))⟩

theorem newline_notMem_quotedChar (c : Char) : '\n' ∉ quotedChar c := by
  unfold quotedChar
  split_ifs with h0 ht hn hr hq hb hp
  all_goals simp [newline_notMem_toDigits, Ne.symm, *]

theorem newline_notMem_quoted (text : Text) : '\n' ∉ quoted text := by
  simp [quoted, newline_notMem_quotedChar]

end Text

namespace Report

variable {arity : Option Nat} {text : Text} {entries : List (Option Text)} {report : Report}

/-! ### Lines and entries -/

/-- What a split yields before it is written: the segments, or as many entries as the arity. -/
def splitEntries (arity : Option Nat) (text : Text) : Except Text.Surplus (List (Option Text)) :=
  match arity with
  | none => .ok ((Text.segments ',' text).map some)
  | some arity => Text.padded ',' arity text

theorem splitLines_eq (arity : Option Nat) (text : Text) :
    splitLines arity text = (·.map segmentLine) <$> splitEntries arity text := by
  cases arity with
  | none =>
    rw [splitLines, splitEntries, map_eq_ok_iff.2 ⟨_, rfl, rfl⟩, List.map_map]
    rfl
  | some arity =>
    rfl

theorem length_of_splitEntries (h : splitEntries arity text = .ok entries) :
    entries.length = arity.getD (Text.segments ',' text).length := by
  cases arity with
  | none =>
    cases h
    simp
  | some arity => exact Text.length_of_padded h

/-- The entries that are present make up the text. -/
theorem join_present_of_splitEntries (h : splitEntries arity text = .ok entries) :
    Text.join [','] entries.reduceOption = text := by
  cases arity with
  | none =>
    cases h
    rw [List.reduceOption, List.filterMap_map]
    simpa using (Text.cuts_segments (by decide) (by decide) text).join_eq
  | some arity => exact Text.join_present_of_padded h

theorem ne_nil_of_splitEntries (h : splitEntries arity text = .ok entries) : entries ≠ [] := by
  cases arity with
  | none =>
    cases h
    simpa using (Text.cuts_segments (by decide) (by decide) text).ne_nil
  | some arity =>
    have hl : entries.length = arity := Text.length_of_padded h
    have hk := (Text.padded_eq_ok_iff.1 h).1
    rw [← List.length_pos_iff]
    omega

/-- The entry that a line stands for. -/
def readEntry? (line : Text) : Option (Option Text) :=
  match line with
  | '"' :: rest => some <$> Text.unescape? rest
  | _ => if line = "<absent>" then some none else none

theorem readEntry?_segmentLine (entry : Option Text) : readEntry? (segmentLine entry) = some entry := by
  cases entry with
  | none => rfl
  | some segment =>
    calc
      readEntry? (segmentLine (some segment)) = some <$> Text.unescape? (Text.quoted segment).tail := rfl
      _ = some (some segment) := by rw [Text.unescape?_tail_quoted]; rfl

theorem newline_notMem_segmentLine (entry : Option Text) : '\n' ∉ segmentLine entry := by
  cases entry with
  | none => decide
  | some segment => exact Text.newline_notMem_quoted segment

/-- The text that was split, read off an output. -/
def readSplit? (output : Text) : Option Text := do
  let entries ← (output.splitOn '\n').mapM readEntry?
  return Text.join [','] entries.reduceOption

/-! ### Reports -/

theorem ofSplit_eq_ok_iff :
    ofSplit arity text = .ok report ↔
      ∃ entries, splitEntries arity text = .ok entries ∧
        report = ⟨Text.join ['\n'] (entries.map segmentLine),
          some ⟨"Split", Text.counted entries.length "segment"⟩⟩ := by
  unfold ofSplit
  rw [splitLines_eq]
  cases splitEntries arity text with
  | error surplus => simp
  | ok entries => simp [map_eq_ok_iff.2 ⟨entries, rfl, rfl⟩, eq_comm]

theorem splitOn_join_segmentLine (hne : entries ≠ []) :
    (Text.join ['\n'] (entries.map segmentLine)).splitOn '\n' = entries.map segmentLine :=
  Text.splitOn_eq_iff.2 ⟨by simpa using hne, rfl,
    List.forall_mem_map.2 fun entry _ => newline_notMem_segmentLine entry⟩

theorem readSplit?_of_ofSplit (h : ofSplit arity text = .ok report) :
    readSplit? report.output = some text := by
  obtain ⟨entries, he, rfl⟩ := ofSplit_eq_ok_iff.1 h
  have hr : (entries.map segmentLine).mapM readEntry? = some entries :=
    mapM_map_eq_some fun entry _ => readEntry?_segmentLine entry
  rw [readSplit?, splitOn_join_segmentLine (ne_nil_of_splitEntries he), hr]
  exact congrArg some (join_present_of_splitEntries he)

end Report

open Report

/-- A split that succeeds writes a line for every segment, an absent one included, and counts the lines
in its status. Its text is read off the output again, so no other text has the same output. -/
theorem split_output_faithful {arity : Option Nat} {text : Text} {report : Report}
    (h : ofSplit arity text = .ok report) :
    let n := arity.getD (Text.segments ',' text).length
    (∃ entries, splitEntries arity text = .ok entries ∧ entries.length = n ∧
      report.output.splitOn '\n' = entries.map segmentLine) ∧
    report.status = some ⟨"Split", Text.ofNat n ++ if n = 1 then " segment" else " segments"⟩ ∧
    readSplit? report.output = some text ∧
    ∀ arity' other report', ofSplit arity' other = .ok report' → report'.output = report.output →
      other = text := by
  intro n
  have hr : readSplit? report.output = some text := readSplit?_of_ofSplit h
  obtain ⟨entries, he, rfl⟩ := ofSplit_eq_ok_iff.1 h
  have hn : entries.length = n := length_of_splitEntries he
  refine ⟨⟨entries, he, hn, splitOn_join_segmentLine (ne_nil_of_splitEntries he)⟩, ?_, hr, ?_⟩
  · rw [hn, Text.counted]
    split_ifs with h1
    · rw [h1]
      rfl
    · rw [List.append_assoc, List.append_assoc]
      rfl
  · intro arity' other report' h' ho
    have hr' : readSplit? report'.output = some other := readSplit?_of_ofSplit h'
    rw [ho, hr] at hr'
    exact (Option.some.inj hr').symm

/-- Line feeds, quotes and combining marks in a segment are told apart from what the output adds. -/
theorem split_output_faithful_of_odd_segments :
    let text : Text := "a\n,\"(,)\u0301"
    let output : Text := "\"a\\n\"\n\"\\\"(\"\n\")\\u\x7b301\x7d\"\n<absent>"
    ofSplit (some 4) text = .ok ⟨output, some ⟨"Split", "4 segments"⟩⟩ ∧
      (∃ entries, splitEntries (some 4) text = .ok entries ∧ entries.length = 4 ∧
        output.splitOn '\n' = entries.map segmentLine) ∧
      readSplit? output = some text ∧
      ∀ arity other report, ofSplit arity other = .ok report → report.output = output →
        other = text := by
  intro text output
  have h : ofSplit (some 4) text = .ok ⟨output, some ⟨"Split", "4 segments"⟩⟩ :=
    toOption_eq_some_iff.1 (by decide +kernel)
  obtain ⟨he, -, hr, hi⟩ := split_output_faithful h
  exact ⟨h, he, hr, hi⟩

end ColumnTypes
