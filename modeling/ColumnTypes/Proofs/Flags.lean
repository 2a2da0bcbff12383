import ColumnTypes.CommandLine.Parser
import ColumnTypes.Proofs.Results

/-!
The flags for debugging and for colours change nothing else in what a command line asks for. A command
line without them is read to the same command and the same format.
-/

namespace ColumnTypes.CommandLine

/-- The words that are flags for the log and for colours. -/
def flagWords : List Text := ["--debug", "-d", "--no-ansi"]

/-- The words without flags. After a double dash there are none. -/
def withoutFlags : List Text → List Text
  | [] => []
  | word :: rest =>
    if word = ['-', '-'] then word :: rest
    else if word ∈ flagWords then withoutFlags rest
    else word :: withoutFlags rest

/-! ### Forms of words -/

/-- Whether a word is an option or some of them. -/
def Form.isOption : Form → Bool
  | .long _ _ | .letters _ => true
  | .doubleDash | .word => false

theorem eq_of_form_eq_long {word name : Text} (h : Form.of word = .long name none) :
    word = '-' :: '-' :: name := by
  rw [Form.of.eq_def] at h
  split at h
  · cases h
  · split at h
    · cases h
      rfl
    · cases h
  · cases h
  · cases h
  · cases h

theorem form_eq_doubleDash {word : Text} (h : Form.of word = .doubleDash) : word = ['-', '-'] := by
  rw [Form.of.eq_def] at h
  split at h
  · rfl
  · split at h <;> cases h
  · cases h
  · cases h
  · cases h

theorem eq_of_form_eq_letters {word letters : Text} (h : Form.of word = .letters letters) :
    word = '-' :: letters ∧ letters ≠ [] := by
  rw [Form.of.eq_def] at h
  split at h
  · cases h
  · split at h <;> cases h
  · cases h
  · cases h
    refine ⟨rfl, ?_⟩
    rintro rfl
    contradiction
  · cases h

namespace Place

variable {place : Place} {c : Char}

theorem eq_of_letter?_eq_debug (h : place.letter? c = some .debug) : c = 'd' := by
  rw [letter?] at h
  split_ifs at h with hd
  · exact hd
  · cases h
  · cases h

theorem letter?_ne_plain : place.letter? c ≠ some .plain := by
  rw [letter?]
  split_ifs <;> rintro ⟨⟩

theorem eq_of_switch?_eq_debug {name : Text} (h : place.switch? name = some .debug) : name = "debug" := by
  rw [switch?] at h
  split_ifs at h with hd
  · exact hd
  all_goals cases h

theorem eq_of_switch?_eq_plain {name : Text} (h : place.switch? name = some .plain) : name = "no-ansi" := by
  rw [switch?] at h
  split_ifs at h with _ hp
  · cases h
  · exact hp
  all_goals cases h

end Place

namespace Given

variable {given given' behind : Given} {place : Place}

/-- The options without the flags. -/
def bare (given : Given) : Given := { given with debug := false, plain := false }

/-! ### Steps on the options alone -/

theorem settle_of_pending (h : given.pending = none) : given.settle = .ok given := by
  rw [settle, h]

theorem set_bare (given : Given) (setting : Setting) (value : Text) :
    given.bare.set setting value = bare <$> given.set setting value := by
  obtain ⟨debug, plain, format, arity, pending⟩ := given
  cases setting with
  | format =>
    cases format with
    | some format => rfl
    | none =>
      simp only [set, bare]
      cases Format.ofName? value <;> rfl
  | arity =>
    cases arity with
    | some arity => rfl
    | none =>
      simp only [set, bare]
      cases arity? value <;> rfl

theorem settle_bare : given.bare.settle = bare <$> given.settle := by
  obtain ⟨debug, plain, format, arity, pending⟩ := given
  rcases pending with _ | ⟨setting, _ | value⟩
  · rfl
  · rfl
  · exact set_bare ⟨debug, plain, format, arity, none⟩ setting value

theorem pending_of_set {setting : Setting} {value : Text} (h : given.set setting value = .ok given') :
    given'.pending = given.pending := by
  cases setting with
  | format =>
    rw [set] at h
    split_ifs at h
    cases hv : Format.ofName? value <;> rw [hv] at h <;> cases h
    rfl
  | arity =>
    rw [set] at h
    split_ifs at h
    cases hv : arity? value <;> rw [hv] at h <;> cases h
    rfl

theorem pending_of_settle (h : given.settle = .ok given') : given'.pending = none := by
  obtain ⟨debug, plain, format, arity, pending⟩ := given
  rcases pending with _ | ⟨setting, _ | value⟩
  · cases h
    rfl
  · cases h
  · exact pending_of_set h

/-- Only the flags are switches that do not end the reading. -/
theorem turnOn_eq_ok {switch : Switch} (h : given.turnOn switch = .ok given') :
    ∃ settled, given.settle = .ok settled ∧ settled.bare = given'.bare ∧ given'.pending = none ∧
      (switch = .debug ∧ settled.debug = false ∧ given'.debug = true ∨ switch = .plain) := by
  obtain ⟨settled, hs, h⟩ := bind_eq_ok_iff.1 h
  have hp := pending_of_settle hs
  refine ⟨settled, hs, ?_⟩
  cases switch with
  | debug =>
    dsimp only at h
    split_ifs at h with hd
    cases h
    exact ⟨rfl, hp, .inl ⟨rfl, by simpa using hd, rfl⟩⟩
  | plain =>
    dsimp only at h
    split_ifs at h
    cases h
    exact ⟨rfl, hp, .inr rfl⟩
  | help => cases h
  | version => cases h

theorem takeLetters_cons_eq_ok {c : Char} {rest : Text}
    (h : given.takeLetters place (c :: rest) = .ok given') :
    ∃ next, c = 'd' ∧ given.turnOn .debug = .ok next ∧ next.takeLetters place rest = .ok given' := by
  rw [takeLetters] at h
  cases hc : place.letter? c with
  | none => rw [hc] at h; cases h
  | some switch =>
    rw [hc] at h
    obtain ⟨next, ho, hr⟩ := bind_eq_ok_iff.1 h
    obtain ⟨_, -, -, -, ⟨rfl, -⟩ | rfl⟩ := turnOn_eq_ok ho
    · exact ⟨next, Place.eq_of_letter?_eq_debug hc, ho, hr⟩
    · exact absurd hc Place.letter?_ne_plain

theorem takeLetters_eq_ok {letters : Text} (hl : letters ≠ [])
    (h : given.takeLetters place letters = .ok given') :
    letters = ['d'] ∧ given.turnOn .debug = .ok given' := by
  obtain ⟨c, rest, rfl⟩ := List.exists_cons_of_ne_nil hl
  obtain ⟨next, rfl, ho, hr⟩ := takeLetters_cons_eq_ok h
  cases rest with
  | nil =>
    cases hr
    exact ⟨rfl, ho⟩
  | cons c rest =>
    -- A second letter would turn debugging on again.
    obtain ⟨last, rfl, hl, -⟩ := takeLetters_cons_eq_ok hr
    obtain ⟨_, -, -, hp, ⟨-, -, hd⟩ | hd⟩ := turnOn_eq_ok ho
    · obtain ⟨settled, hs, -, -, ⟨-, hf, -⟩ | hf⟩ := turnOn_eq_ok hl
      · rw [settle_of_pending hp] at hs
        cases hs
        rw [hd] at hf
        cases hf
      · cases hf
    · cases hd

/-! ### Keeping up without the flags -/

/-- The options read without the flags are the same beside the flags, or still keep back a value that a
flag has settled. -/
inductive FollowedBy (given : Given) : Given → Prop
  | level : FollowedBy given given.bare
  | behind {behind : Given} (hp : given.pending = none) (hs : behind.settle = .ok given.bare) :
    FollowedBy given behind

namespace FollowedBy

theorem settle (h : given.FollowedBy behind) (hs : given.settle = .ok given') :
    behind.settle = .ok given'.bare := by
  cases h with
  | level => rw [settle_bare, hs]; rfl
  | behind hp hb =>
    rw [settle_of_pending hp] at hs
    cases hs
    exact hb

theorem awaitsValue (h : given.FollowedBy behind) : behind.awaitsValue = given.awaitsValue := by
  cases h with
  | level => rfl
  | behind hp hb =>
    obtain ⟨debug, plain, format, arity, pending⟩ := behind
    rcases pending with _ | ⟨setting, _ | value⟩
    · simp [Given.awaitsValue, hp]
    · cases hb
    · simp [Given.awaitsValue, hp]

theorem takeValue {value : Text} (h : given.FollowedBy behind) (hw : given.awaitsValue) :
    (given.takeValue value).FollowedBy (behind.takeValue value) := by
  cases h with
  | level => exact .level
  | behind hp => simp [Given.awaitsValue, hp] at hw

theorem turnOn {switch : Switch} (h : given.FollowedBy behind) (ho : given.turnOn switch = .ok given') :
    given'.FollowedBy behind := by
  obtain ⟨settled, hs, hb, hp, -⟩ := turnOn_eq_ok ho
  exact .behind hp (hb ▸ h.settle hs)

end FollowedBy

/-- Takes a word that is an option. -/
def takeOption (given : Given) (place : Place) : Form → Except UsageFault Given
  | .long name value => given.takeLong place name value
  | .letters letters => given.takeLetters place letters
  | _ => .ok given

theorem FollowedBy.flag {word : Text} (hw : word ∈ flagWords) (h : given.FollowedBy behind)
    (ht : given.takeOption place (Form.of word) = .ok given') : given'.FollowedBy behind := by
  simp only [flagWords, List.mem_cons, List.not_mem_nil, or_false] at hw
  rcases hw with rfl | rfl | rfl
  · exact h.turnOn (show given.turnOn .debug = .ok given' from ht)
  · exact h.turnOn (takeLetters_eq_ok (by simp) ht).2
  · exact h.turnOn (show given.turnOn .plain = .ok given' from ht)

theorem FollowedBy.takeLong {name : Text} {value : Option Text} (h : given.FollowedBy behind)
    (hw : value = none → place.switch? name ≠ some .debug ∧ place.switch? name ≠ some .plain)
    (ht : given.takeLong place name value = .ok given') :
    behind.takeLong place name value = .ok given'.bare := by
  rw [Given.takeLong.eq_def] at ht ⊢
  cases hs : place.switch? name with
  | some switch =>
    rw [hs] at ht
    cases value with
    | some value => cases ht
    | none =>
      obtain ⟨_, -, -, -, ⟨rfl, -⟩ | rfl⟩ := turnOn_eq_ok ht
      · exact absurd hs (hw rfl).1
      · exact absurd hs (hw rfl).2
  | none =>
    rw [hs] at ht
    cases hg : place.setting? name with
    | none => rw [hg] at ht; cases ht
    | some setting =>
      rw [hg] at ht
      cases value with
      | none =>
        obtain ⟨settled, hs, ht⟩ := bind_eq_ok_iff.1 ht
        cases ht
        exact bind_eq_ok_iff.2 ⟨_, h.settle hs, rfl⟩
      | some value =>
        obtain ⟨settled, hs, ht⟩ := bind_eq_ok_iff.1 ht
        exact bind_eq_ok_iff.2 ⟨_, h.settle hs, by rw [set_bare, ht]; rfl⟩

/-- An option that is not a flag is taken alike with the flags and without them. -/
theorem FollowedBy.option {word : Text} (hw : word ∉ flagWords) (h : given.FollowedBy behind)
    (ho : (Form.of word).isOption) (ht : given.takeOption place (Form.of word) = .ok given') :
    behind.takeOption place (Form.of word) = .ok given'.bare := by
  cases hf : Form.of word with
  | doubleDash => rw [hf] at ho; cases ho
  | word => rw [hf] at ho; cases ho
  | letters letters =>
    obtain ⟨rfl, hl⟩ := eq_of_form_eq_letters hf
    rw [hf] at ht
    rw [(takeLetters_eq_ok hl ht).1] at hw
    exact absurd (by decide) hw
  | long name value =>
    rw [hf] at ht
    refine h.takeLong (fun hv => ?_) ht
    subst hv
    rw [eq_of_form_eq_long hf] at hw
    constructor
    · intro hs
      rw [Place.eq_of_switch?_eq_debug hs] at hw
      exact absurd (by decide) hw
    · intro hs
      rw [Place.eq_of_switch?_eq_plain hs] at hw
      exact absurd (by decide) hw

end Given

/-! ### One word more -/

section

variable {place : Place} {word : Text} {rest words : List Text} {given behind : Given} {tail tail' late : Tail}

theorem withoutFlags_doubleDash : withoutFlags (['-', '-'] :: rest) = ['-', '-'] :: rest := if_pos rfl

theorem withoutFlags_flag (h : word ∈ flagWords) : withoutFlags (word :: rest) = withoutFlags rest := by
  rw [withoutFlags, if_neg (by rintro rfl; exact absurd h (by decide)), if_pos h]

theorem withoutFlags_other (hd : word ≠ ['-', '-']) (h : word ∉ flagWords) :
    withoutFlags (word :: rest) = word :: withoutFlags rest := by
  rw [withoutFlags, if_neg hd, if_neg h]

theorem isOption_of_mem_flagWords (h : word ∈ flagWords) : (Form.of word).isOption := by
  simp only [flagWords, List.mem_cons, List.not_mem_nil, or_false] at h
  rcases h with rfl | rfl | rfl <;> rfl

theorem readTail_option (h : (Form.of word).isOption) :
    readTail place false tail (word :: rest) =
      tail.given.takeOption place (Form.of word) >>= fun given =>
        readTail place false { tail with given } rest := by
  rw [readTail]
  cases hf : Form.of word with
  | doubleDash => rw [hf] at h; cases h
  | word => rw [hf] at h; cases h
  | letters letters => rfl
  | long name value => rfl

theorem readTail_word (h : ¬(Form.of word).isOption) (hd : word ≠ ['-', '-']) :
    readTail place false tail (word :: rest) =
      if tail.given.awaitsValue then
        readTail place false { tail with given := tail.given.takeValue word } rest
      else tail.takeArgument word >>= fun tail => readTail place false tail rest := by
  rw [readTail]
  cases hf : Form.of word with
  | doubleDash => exact absurd (form_eq_doubleDash hf) hd
  | word => rfl
  | letters letters => rw [hf] at h; exact absurd rfl h
  | long name value => rw [hf] at h; exact absurd rfl h

theorem readTop_option (h : (Form.of word).isOption) :
    readTop given (word :: rest) =
      given.takeOption .top (Form.of word) >>= fun given => readTop given rest := by
  rw [readTop]
  cases hf : Form.of word with
  | doubleDash => rw [hf] at h; cases h
  | word => rw [hf] at h; cases h
  | letters letters => rfl
  | long name value => rfl

theorem readTop_word (h : ¬(Form.of word).isOption) (hd : word ≠ ['-', '-']) :
    readTop given (word :: rest) =
      if given.awaitsValue then readTop (given.takeValue word) rest
      else
        match Command.Name.ofWord? word with
        | none => .error .unknownCommand
        | some name => do
          let (inner, command) ← readCommand name rest
          let outer ← given.settle
          return combine outer inner command := by
  rw [readTop]
  cases hf : Form.of word with
  | doubleDash => exact absurd (form_eq_doubleDash hf) hd
  | word => rfl
  | letters letters => rw [hf] at h; exact absurd rfl h
  | long name value => rw [hf] at h; exact absurd rfl h

/-! ### Reading without the flags -/

/-- The tail that is read without the flags. -/
structure Tail.FollowedBy (tail late : Tail) : Prop where
  given : tail.given.FollowedBy late.given
  argument : late.argument = tail.argument

theorem Tail.FollowedBy.takeArgument (h : tail.FollowedBy late) (ht : tail.takeArgument word = .ok tail') :
    ∃ late', late.takeArgument word = .ok late' ∧ tail'.FollowedBy late' := by
  rw [Tail.takeArgument] at ht
  cases ha : tail.argument with
  | some argument => rw [ha] at ht; cases ht
  | none =>
    rw [ha] at ht
    obtain ⟨given, hs, ht⟩ := bind_eq_ok_iff.1 ht
    cases ht
    refine ⟨⟨given.bare, some word⟩, ?_, .level, rfl⟩
    rw [Tail.takeArgument, h.argument, ha]
    exact bind_eq_ok_iff.2 ⟨_, h.given.settle hs, rfl⟩

theorem Tail.FollowedBy.finish {argument : Text} (h : tail.FollowedBy late)
    (ht : tail.finish = .ok (given, argument)) : late.finish = .ok (given.bare, argument) := by
  obtain ⟨settled, hs, ht⟩ := bind_eq_ok_iff.1 ht
  refine bind_eq_ok_iff.2 ⟨_, h.given.settle hs, ?_⟩
  rw [h.argument]
  cases ha : tail.argument with
  | none => rw [ha] at ht; cases ht
  | some argument => rw [ha] at ht; cases ht; rfl

theorem Tail.FollowedBy.readDashed (h : tail.FollowedBy late)
    (ht : readTail place true tail words = .ok tail') :
    ∃ late', readTail place true late words = .ok late' ∧ tail'.FollowedBy late' := by
  induction words generalizing tail late with
  | nil => cases ht; exact ⟨late, rfl, h⟩
  | cons word rest ih =>
    obtain ⟨next, hn, ht⟩ := bind_eq_ok_iff.1 (show tail.takeArgument word >>= _ = _ from ht)
    obtain ⟨late', hl, hf⟩ := h.takeArgument hn
    obtain ⟨last, hr, hf⟩ := ih hf ht
    exact ⟨last, bind_eq_ok_iff.2 ⟨late', hl, hr⟩, hf⟩

theorem Tail.FollowedBy.readTail (h : tail.FollowedBy late)
    (ht : readTail place false tail words = .ok tail') :
    ∃ late', CommandLine.readTail place false late (withoutFlags words) = .ok late' ∧
      tail'.FollowedBy late' := by
  induction words generalizing tail late with
  | nil => cases ht; exact ⟨late, rfl, h⟩
  | cons word rest ih =>
    -- a flag is a step of the first reading alone, any other word a step of both
    by_cases hd : word = ['-', '-']
    · subst hd
      rw [withoutFlags_doubleDash]
      exact h.readDashed ht
    by_cases hw : word ∈ flagWords
    · rw [readTail_option (isOption_of_mem_flagWords hw)] at ht
      obtain ⟨given, hg, ht⟩ := bind_eq_ok_iff.1 ht
      have hf : Tail.FollowedBy { tail with given } late := ⟨h.given.flag hw hg, h.argument⟩
      rw [withoutFlags_flag hw]
      exact ih hf ht
    rw [withoutFlags_other hd hw]
    by_cases ho : (Form.of word).isOption
    · rw [readTail_option ho] at ht ⊢
      obtain ⟨given, hg, ht⟩ := bind_eq_ok_iff.1 ht
      have hf : Tail.FollowedBy { tail with given } { late with given := given.bare } :=
        ⟨.level, h.argument⟩
      obtain ⟨late', hl, hf⟩ := ih hf ht
      exact ⟨late', bind_eq_ok_iff.2 ⟨_, h.given.option hw ho hg, hl⟩, hf⟩
    · rw [readTail_word ho hd] at ht ⊢
      rw [h.given.awaitsValue]
      split_ifs at ht ⊢ with hv
      · have hf : Tail.FollowedBy { tail with given := tail.given.takeValue word }
            { late with given := late.given.takeValue word } := ⟨h.given.takeValue hv, h.argument⟩
        exact ih hf ht
      · obtain ⟨next, hn, ht⟩ := bind_eq_ok_iff.1 ht
        obtain ⟨late', hl, hf⟩ := h.takeArgument hn
        obtain ⟨last, hr, hf⟩ := ih hf ht
        exact ⟨last, bind_eq_ok_iff.2 ⟨late', hl, hr⟩, hf⟩

theorem readCommand_withoutFlags {name : Command.Name} {command : Command}
    (h : readCommand name words = .ok (given, command)) :
    readCommand name (withoutFlags words) = .ok (given.bare, command) := by
  have hn : Tail.FollowedBy ⟨.nothing, none⟩ ⟨.nothing, none⟩ := ⟨.level, rfl⟩
  cases name with
  | help => cases h
  | type | schema | split =>
    obtain ⟨tail, ht, h⟩ := bind_eq_ok_iff.1 h
    obtain ⟨⟨inner, argument⟩, hf, h⟩ := bind_eq_ok_iff.1 h
    cases h
    obtain ⟨late, hl, hfl⟩ := hn.readTail ht
    exact bind_eq_ok_iff.2 ⟨late, hl, bind_eq_ok_iff.2 ⟨_, hfl.finish hf, rfl⟩⟩

end

theorem Given.FollowedBy.readTop {given behind : Given} {words : List Text} {arguments : Arguments}
    (h : given.FollowedBy behind) (ht : readTop given words = .ok arguments) :
    CommandLine.readTop behind (withoutFlags words) =
      .ok { arguments with debug := false, plain := false } := by
  induction words generalizing given behind with
  | nil => cases ht
  | cons word rest ih =>
    by_cases hd : word = ['-', '-']
    · subst hd
      cases ht
    by_cases hw : word ∈ flagWords
    · rw [readTop_option (isOption_of_mem_flagWords hw)] at ht
      obtain ⟨next, hg, ht⟩ := bind_eq_ok_iff.1 ht
      rw [withoutFlags_flag hw]
      exact ih (h.flag hw hg) ht
    rw [withoutFlags_other hd hw]
    by_cases ho : (Form.of word).isOption
    · rw [readTop_option ho] at ht ⊢
      obtain ⟨next, hg, ht⟩ := bind_eq_ok_iff.1 ht
      exact bind_eq_ok_iff.2 ⟨_, h.option hw ho hg, ih .level ht⟩
    · rw [readTop_word ho hd] at ht ⊢
      rw [h.awaitsValue]
      split_ifs at ht ⊢ with hv
      · exact ih (h.takeValue hv) ht
      · cases hn : Command.Name.ofWord? word with
        | none => rw [hn] at ht; cases ht
        | some name =>
          rw [hn] at ht
          obtain ⟨⟨inner, command⟩, hc, ht⟩ := bind_eq_ok_iff.1 ht
          obtain ⟨outer, hs, ht⟩ := bind_eq_ok_iff.1 ht
          cases ht
          exact bind_eq_ok_iff.2 ⟨_, readCommand_withoutFlags hc, bind_eq_ok_iff.2 ⟨_, h.settle hs, rfl⟩⟩

/-- Without its flags a command line is read to the same command and the same format. -/
theorem parse_withoutFlags {words : List Text} {arguments : Arguments} (h : parse words = .ok arguments) :
    parse (withoutFlags words) = .ok { arguments with debug := false, plain := false } :=
  Given.FollowedBy.readTop .level h

end ColumnTypes.CommandLine
