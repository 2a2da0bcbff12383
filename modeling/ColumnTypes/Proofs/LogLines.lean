import ColumnTypes.Proofs.JsonReading
import ColumnTypes.Proofs.OutlineReading
import ColumnTypes.Proofs.OutputStream
import ColumnTypes.Proofs.Recursion

/-!
No text that a command is given adds a line to the log. Every construct that a reading goes into stands, as
it is, in a text without blanks, whether or not the reading comes to its end. A spelling has no blanks but
spaces, and JSON escapes line feeds. So the log has one line for each event.
-/

namespace ColumnTypes

open Text

variable {a b text separator inner : Text} {parts : List Text} {type : ColumnType} {d : Dispatch}

/-! ### Line feeds in joined texts -/

theorem newline_notMem_join (hs : '\n' ∉ separator) (h : ∀ part ∈ parts, '\n' ∉ part) :
    '\n' ∉ join separator parts := by
  induction parts with
  | nil => simp [join]
  | cons first later ih =>
    obtain ⟨hf, hl⟩ := List.forall_mem_cons.1 h
    cases later with
    | nil => simpa [join] using hf
    | cons next more =>
      rw [join_cons_cons]
      exact List.not_mem_append hf (List.not_mem_append hs (ih hl))

theorem join_append_nil (lines : List Text) :
    join ['\n'] (lines ++ [[]]) = lines.flatMap (· ++ ['\n']) := by
  induction lines with
  | nil => rfl
  | cons line later ih =>
    have hj : join ['\n'] ([line] ++ (later ++ [[]])) =
        join ['\n'] [line] ++ (['\n'] ++ join ['\n'] (later ++ [[]])) :=
      join_append (List.cons_ne_nil _ _) (List.append_ne_nil_of_right_ne_nil _ (List.cons_ne_nil _ _))
    rw [List.singleton_append] at hj
    rw [List.cons_append, hj, ih]
    simp [join]

/-- Lines that each end with a line feed come apart into the lines and an empty rest. -/
theorem splitOn_lines {lines : List Text} (h : ∀ line ∈ lines, '\n' ∉ line) :
    (lines.flatMap (· ++ ['\n'])).splitOn '\n' = lines ++ [[]] := by
  refine splitOn_eq_iff.2 ⟨by simp, join_append_nil lines, List.forall_mem_append.2 ⟨h, ?_⟩⟩
  simp

/-! ### Constructs in a trail -/

theorem Trail.exists_of_mem_inOrder {trails : List Trail} (h : d ∈ (inOrder trails).dispatches) :
    ∃ trail ∈ trails, d ∈ trail.dispatches := by
  induction trails with
  | nil => cases h
  | cons trail rest ih =>
    obtain ⟨dispatches, complete⟩ := trail
    cases complete with
    | false => exact ⟨_, List.mem_cons_self, h⟩
    | true =>
      rcases List.mem_append.1 h with h | h
      · exact ⟨_, List.mem_cons_self, h⟩
      · obtain ⟨trail, ht, hd⟩ := ih h
        exact ⟨trail, List.mem_cons_of_mem _ ht, hd⟩

/-- The fragment that a construct was met as. -/
def Dispatch.fragment (d : Dispatch) : Text := d.opening ++ d.inner ++ ")"

theorem Keyword.infix_of_mem_parts {keyword : Keyword} {level : Level} {part : Text}
    (h : keyword.level inner = .ok level) (hp : part ∈ level.parts) : part <:+: inner := by
  rcases Keyword.parts_cases h with hn | hn | hc
  · simp [hn] at hp
  · obtain rfl : part = inner := by simpa [hn] using hp
    exact List.infix_rfl
  · rw [← hc.join_eq]
    exact infix_join hp

namespace ColumnType

/-- A construct is met as it stands in the text, also if a later part of the text fails. -/
theorem fragment_infix_of_mem_fragmentTrail
    (h : d ∈ (fragmentTrail constructs text).dispatches) : d.fragment <:+: text := by
  -- the text may be no type at all, so the induction is on the reading and not on what it gives
  induction text using parts_induction constructs with
  | step text ih =>
    rw [fragmentTrail_eq] at h
    split at h
    · cases h
    · cases h
    · rename_i c inner hh
      obtain ⟨hc, rfl⟩ := Head.read_eq_construct_iff.1 hh
      split at h
      · obtain rfl := List.mem_singleton.1 h
        exact List.infix_rfl
      · rename_i level hl
        rcases List.mem_cons.1 h with rfl | h
        · exact List.infix_rfl
        · obtain ⟨trail, ht, hd⟩ := Trail.exists_of_mem_inOrder h
          obtain ⟨part, hp, rfl⟩ := List.mem_map.1 ht
          have hr := (Level.read_construct c hc inner).trans hl
          have hi : part <:+: inner := Keyword.infix_of_mem_parts hl hp
          exact (ih level hr part hp hd).trans (hi.trans (List.infix_append _ _ _))

theorem blankless_of_mem_trail (h : d ∈ (trail text).dispatches) : Blankless d.fragment := by
  unfold trail at h
  dsimp only at h
  split at h
  · exact Blankless.of_infix (blankless_withoutBlanks text) (fragment_infix_of_mem_fragmentTrail h)
  · cases h

end ColumnType

theorem Column.blankless_of_mem_trail (h : d ∈ (Column.trail text).dispatches) :
    Blankless d.fragment := by
  unfold Column.trail at h
  split at h
  · cases h
  · exact ColumnType.blankless_of_mem_trail h

theorem Schema.blankless_of_mem_trail (h : d ∈ (Schema.trail text).dispatches) :
    Blankless d.fragment := by
  unfold Schema.trail at h
  split at h
  · cases h
  · obtain ⟨trail, ht, hd⟩ := Trail.exists_of_mem_inOrder h
    obtain ⟨segment, -, rfl⟩ := List.mem_map.1 ht
    exact Column.blankless_of_mem_trail hd

/-! ### Spellings -/

theorem newline_notMem_call {opening : Text} (ho : '\n' ∉ opening) (hi : '\n' ∉ inner) :
    '\n' ∉ opening ++ inner ++ ")" :=
  List.not_mem_append (List.not_mem_append ho hi) (by decide)

theorem newline_notMem_pair (ha : '\n' ∉ a) (hb : '\n' ∉ b) : '\n' ∉ a ++ ", " ++ b :=
  List.not_mem_append (List.not_mem_append ha (by decide)) hb

/-- The only blanks of a spelling are spaces. -/
theorem WellFormed.newline_notMem_spelling (h : WellFormed type) : '\n' ∉ type.spelling := by
  induction h with
  | primitive name => exact ColumnType.newline_notMem_of_blankless (blankless_name name)
  | fixedString length =>
    rw [spelling_fixedString]
    exact newline_notMem_call (by decide) (ColumnType.newline_notMem_ofNat _)
  | decimal precision scale =>
    rw [spelling_decimal]
    exact newline_notMem_call (by decide)
      (newline_notMem_pair (ColumnType.newline_notMem_ofNat _) (ColumnType.newline_notMem_ofNat _))
  | decimal256 precision scale =>
    rw [spelling_decimal256]
    exact newline_notMem_call (by decide)
      (newline_notMem_pair (ColumnType.newline_notMem_ofNat _) (ColumnType.newline_notMem_ofNat _))
  | @dateTime64 precision timezone _ hz =>
    cases timezone with
    | none =>
      rw [spelling_dateTime64]
      exact newline_notMem_call (by decide) (ColumnType.newline_notMem_ofNat _)
    | some zone =>
      have hn : '\n' ∉ zone := ColumnType.newline_notMem_of_blankless (hz zone rfl).2
      rw [spelling_dateTime64_some]
      exact newline_notMem_call (by decide) (newline_notMem_pair (ColumnType.newline_notMem_ofNat _) hn)
  | array _ ih =>
    rw [spelling_array]
    exact newline_notMem_call (by decide) ih
  | @tuple elements _ _ ih =>
    rw [spelling_tuple]
    exact newline_notMem_call (by decide) (newline_notMem_join (by decide) (List.forall_mem_map.2 ih))
  | map _ _ ihk ihv =>
    rw [spelling_map]
    exact newline_notMem_call (by decide) (newline_notMem_join (by decide) (by simpa using ⟨ihk, ihv⟩))
  | nullable _ ih =>
    rw [spelling_nullable]
    exact newline_notMem_call (by decide) ih

/-! ### JSON on one line -/

namespace Json

theorem newline_notMem_escape (c : Char) : '\n' ∉ escape c := by
  have hx : ∀ n < 0x20, '\n' ∉ hex4 n := by decide
  unfold escape
  split_ifs
  all_goals simp [Ne.symm, *]

theorem newline_notMem_quote (text : Text) : '\n' ∉ quote text := by
  simp [quote, newline_notMem_escape]

theorem newline_notMem_ofInt (n : Int) : '\n' ∉ Text.ofInt n := by
  cases n with
  | ofNat n => exact ColumnType.newline_notMem_ofNat n
  | negSucc n => simpa [Text.ofInt] using ColumnType.newline_notMem_ofNat (n + 1)

theorem WithoutReals.newline_notMem_compact {value : Json} (h : value.WithoutReals) :
    '\n' ∉ value.compact := by
  induction h with
  | null => decide
  | boolean value => cases value <;> decide
  | integer value => exact newline_notMem_ofInt value
  | string value => exact newline_notMem_quote value
  | @array items _ ih =>
    have hj : '\n' ∉ join "," (items.map compact) :=
      newline_notMem_join (by decide) (List.forall_mem_map.2 ih)
    simpa [compact, compactItems_eq_map] using hj
  | @object members _ ih =>
    have hm : ∀ member ∈ members, '\n' ∉ quote member.1 ++ ":" ++ member.2.compact := fun member hm =>
      List.not_mem_append (List.not_mem_append (newline_notMem_quote _) (by decide)) (ih member hm)
    have hj : '\n' ∉ join "," (members.map fun member => quote member.1 ++ ":" ++ member.2.compact) :=
      newline_notMem_join (by decide) (List.forall_mem_map.2 hm)
    simpa [compact, compactMembers_eq_map] using hj

end Json

/-! ### Events -/

namespace Log.Event

variable {event : Event} {time : Text}

/-- Nothing that an event tells has a line feed. -/
structure OneLine (event : Event) : Prop where
  target : '\n' ∉ event.target
  message : '\n' ∉ event.message
  details : ∀ detail ∈ event.details, '\n' ∉ detail.1 ∧ '\n' ∉ detail.2.plain

theorem OneLine.newline_notMem_plainText (h : event.OneLine) (ht : '\n' ∉ time) :
    '\n' ∉ event.plainText time := by
  have hs : ∀ severity : Severity, '\n' ∉ severity.name := by
    intro severity
    cases severity <;> decide
  have hd : ∀ detail ∈ event.details, '\n' ∉ plainDetail detail.1 detail.2 := by
    intro detail hm
    obtain ⟨hn, hp⟩ := h.details detail hm
    simp [plainDetail, hn, hp]
  unfold plainText
  apply List.not_mem_append
  · simp [ht, hs, h.target, h.message]
  · intro hm
    obtain ⟨detail, hdetail, hm⟩ := List.mem_flatMap.1 hm
    exact hd detail hdetail hm

/-- All members of an event are strings, so JSON takes any event on one line. -/
theorem withoutReals_plainJson (time : Text) (event : Event) : (event.plainJson time).WithoutReals := by
  refine .object fun member hm => ?_
  simp only [List.mem_cons, List.mem_map] at hm
  rcases hm with rfl | rfl | rfl | rfl | ⟨detail, -, rfl⟩
  all_goals exact .string _

theorem OneLine.newline_notMem_written (h : event.OneLine) (ht : '\n' ∉ time) (json : Bool) :
    '\n' ∉ event.written ⟨false, json⟩ time := by
  cases json with
  | false => exact h.newline_notMem_plainText ht
  | true => exact (withoutReals_plainJson time event).newline_notMem_compact

end Log.Event

namespace Run

theorem oneLine_announcement {name : Text} (hn : '\n' ∉ name) : (announcement name).OneLine where
  target := by simp [announcement]
  message := by simp [announcement, hn]
  details := by simp [announcement]

theorem oneLine_dispatched (h : Blankless d.fragment) : (dispatched d).OneLine where
  target := by simp [dispatched]
  message := by simp [dispatched]
  details := by
    have hd : '\n' ∉ d.opening ++ d.inner ++ ")" := ColumnType.newline_notMem_of_blankless h
    simp only [List.mem_append, not_or] at hd
    simp [dispatched, Log.Detail.plain, hd]

theorem oneLine_typeRead (h : WellFormed type) : (typeRead type).OneLine where
  target := by simp [typeRead]
  message := by simp [typeRead, h.newline_notMem_spelling]
  details := by simp [typeRead, Log.Detail.plain, ColumnType.newline_notMem_ofNat]

theorem oneLine_schemaRead (schema : Schema) : (schemaRead schema).OneLine where
  target := by simp [schemaRead]
  message := by simp [schemaRead, ColumnType.newline_notMem_ofNat]
  details := by simp [schemaRead]

/-- An announcement, the constructs of a trail, and what follows them. -/
theorem oneLine_of_trail {name : Text} {trail : Trail} {last : List Log.Event} (hn : '\n' ∉ name)
    (ht : ∀ d ∈ trail.dispatches, Blankless d.fragment) (hl : ∀ event ∈ last, event.OneLine) :
    ∀ event ∈ announcement name :: trail.dispatches.map dispatched ++ last, event.OneLine := by
  apply List.forall_mem_append.2 ⟨List.forall_mem_cons.2 ⟨oneLine_announcement hn, ?_⟩, hl⟩
  exact List.forall_mem_map.2 fun d hd => oneLine_dispatched (ht d hd)

/-- No event of a command has a line feed, whatever text the command is given. -/
theorem oneLine_events (command : Command) : ∀ event ∈ events command, event.OneLine := by
  unfold events
  split
  · apply oneLine_of_trail (by decide) fun d hd => ColumnType.blankless_of_mem_trail hd
    split
    · rename_i type hp
      exact List.forall_mem_singleton.2 (oneLine_typeRead (wellFormed_of_parse hp))
    · simp
  · apply oneLine_of_trail (by decide) fun d hd => Schema.blankless_of_mem_trail hd
    split
    · split_ifs
      · simp
      · exact List.forall_mem_singleton.2 (oneLine_schemaRead _)
    · simp
  · exact List.forall_mem_singleton.2 (oneLine_announcement (by decide))

/-- A command fails at the text that it is given and never at showing a result. -/
theorem action_of_report_eq_error {arguments : Arguments} {settings : Settings} {status : Status}
    (h : report arguments settings = .error status) :
    status.action = "Parse" ∨ status.action = "Split" := by
  unfold report at h
  cases hc : arguments.command with
  | type text =>
    simp only [hc, Report.ofType] at h
    split at h <;> cases h
    exact .inl rfl
  | schema columns =>
    simp only [hc, Report.ofSchema] at h
    split at h <;> cases h
    exact .inl rfl
  | split text arity =>
    simp only [hc, Report.ofSplit] at h
    split at h <;> cases h
    exact .inr rfl

end Run

/-- In the plain layout, as text and as JSON, an event is written on one line, whatever text the command
is given and whether or not it can be read. The log has these lines for the events that the filter
admits, each ended by a line feed, and only the status comes after them. No status is of a result that
cannot be shown, which is the one failure that the program would log after its status. -/
theorem one_line_for_each_event {invocation : Invocation} {arguments : Arguments} {settings : Settings}
    (hr : settings.richLog = false) (ht : '\n' ∉ invocation.time) :
    let line (event : Log.Event) := event.written (Run.style settings) invocation.time
    let admitted := (Run.events arguments.command).filter
      (Run.filter arguments settings invocation.environment).admits
    (∀ event ∈ Run.events arguments.command, '\n' ∉ line event) ∧
      (Run.logLines invocation arguments settings).splitOn '\n' = admitted.map line ++ [[]] ∧
      (Run.execute invocation arguments settings).errors =
        Run.logLines invocation arguments settings ++
          Run.statusLines (arguments.plain || settings.plain) (Run.report arguments settings) ∧
      ∀ status, Run.report arguments settings = .error status →
        status.action = "Parse" ∨ status.action = "Split" := by
  intro line admitted
  have hs : Run.style settings = ⟨false, settings.logFormat = .json⟩ := by rw [Run.style, hr]
  have hl : ∀ event ∈ Run.events arguments.command, '\n' ∉ line event := by
    intro event he
    have ho := Run.oneLine_events arguments.command event he
    simpa only [line, hs] using ho.newline_notMem_written ht _
  refine ⟨hl, ?_, by rw [Run.execute_eq], fun status h => Run.action_of_report_eq_error h⟩
  have he : Run.logLines invocation arguments settings = (admitted.map line).flatMap (· ++ ['\n']) := by
    rw [List.flatMap_map]
    rfl
  rw [he, splitOn_lines]
  exact List.forall_mem_map.2 fun event hm => hl event (List.mem_of_mem_filter hm)

/-- Line feeds in a name's blank, a timezone and a parameter list that is refused. -/
theorem one_line_for_each_event_of_refused_text :
    let text : Text := "a\nArray(DateTime64(3,\n'U\nTC')),\nb Map(Str\n[INFO] ing)"
    let invocation : Invocation :=
      ⟨["schema", text], none, "config.toml", [("RUST_LOG", "trace")], "2024-05-01T12:00:00Z"⟩
    let arguments : Arguments := ⟨false, none, false, .schema text⟩
    (Settings.default.richLog = false ∧ '\n' ∉ invocation.time ∧ (Schema.parse text).toOption = none) ∧
      (∀ event ∈ Run.events (.schema text),
        '\n' ∉ event.written (Run.style .default) invocation.time) ∧
      ((Run.logLines invocation arguments .default).splitOn '\n').length = 5 := by
  intro text invocation arguments
  have ht : '\n' ∉ invocation.time := by decide
  have hp : (Schema.parse text).toOption = none := by decide +kernel
  have hc : ((Run.events (.schema text)).filter
      (Run.filter arguments .default invocation.environment).admits).length = 4 := by decide +kernel
  obtain ⟨hl, hs, -⟩ := @one_line_for_each_event invocation arguments .default rfl ht
  refine ⟨⟨rfl, ht, hp⟩, hl, ?_⟩
  rw [hs, List.length_append, List.length_map]
  exact congrArg (· + 1) hc

end ColumnTypes
