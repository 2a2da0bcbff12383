import ColumnTypes.Proofs.Flags
import ColumnTypes.Proofs.Layering
import ColumnTypes.Run

/-!
What the log and the colours have no part in. Two runs whose command lines are the same without flags,
and whose files and environments say the same of the output format, write the same to the standard
output and end with the same code. Neither the reader of the files nor any order of names matters, as long
as no two names of a layer bear on the format.
-/

namespace ColumnTypes

/-! ### What bears on the output format -/

namespace Settings

variable {loader loader' : Loader} {file file' : Option Text} {environment environment' : Environment}
  {layer layer' : Layer} {item : Item} {settings settings' : Settings}

/-- A layer leaves the section of a setting a table, and one name at most bears on the setting. -/
structure Layer.Settles (layer : Layer) (item : Item) : Prop where
  keepsTable : layer.KeepsTable item.group.key
  one : (layer.bearingOn item.path).length ≤ 1

instance (layer : Layer) (item : Item) : Decidable (layer.Settles item) :=
  have : Decidable (layer.KeepsTable item.group.key) :=
    inferInstanceAs (Decidable (∀ entry ∈ layer, entry.2.KeepsTable item.group.key (pathOfName entry.1)))
  decidable_of_iff (layer.KeepsTable item.group.key ∧ (layer.bearingOn item.path).length ≤ 1)
    ⟨fun h => ⟨h.1, h.2⟩, fun h => ⟨h.keepsTable, h.one⟩⟩

/-- A setting is what the environment makes of any tree that has at its path what the file gives. -/
theorem Loader.decode_of_read {base : Tree} (h : loader.read file environment = .ok settings)
    (hl : loader.fileLayer file = .ok layer) (hf : layer.Settles item) (he : environment.layer.Settles item)
    (hb : base.find? item.path = layer.given? item.path) :
    item.decode (((environment.layer.bearingOn item.path).over base).bind (Tree.find? item.path)) =
      .ok (item.of settings) := by
  obtain ⟨tree, ht, hs⟩ := bind_eq_ok_iff.1 h
  have hd := decode_of_ofTree hs item
  rwa [item.find?_eq (tabular_tree ht hl hf.keepsTable he.keepsTable), find?_tree ht hl hf.one he.one hb] at hd

/-- Two runs have the same value of a setting if their files give the same for it and the same names of
their environments bear on it. -/
theorem Loader.of_eq_of_read (h : loader.read file environment = .ok settings)
    (h' : loader'.read file' environment' = .ok settings') (hl : loader.fileLayer file = .ok layer)
    (hl' : loader'.fileLayer file' = .ok layer') (hf : layer.Settles item) (hf' : layer'.Settles item)
    (he : environment.layer.Settles item) (he' : environment'.layer.Settles item)
    (hg : layer.given? item.path = layer'.given? item.path)
    (hb : environment.layer.bearingOn item.path = environment'.layer.bearingOn item.path) :
    item.of settings = item.of settings' := by
  obtain ⟨tree, ht, -⟩ := bind_eq_ok_iff.1 h
  obtain ⟨base, hbase⟩ := exists_base ht hl hf.one
  have hd := decode_of_read h hl hf he hbase
  have hd' := decode_of_read h' hl' hf' he' (hbase.trans hg)
  rw [← hb, hd] at hd'
  exact Except.ok.inj hd'

end Settings

/-! ### What a run writes -/

/-- What a command shows in the formats in effect: the view of the type or of the columns that are read, or
the segments, one a line. A command that fails shows nothing. -/
def Command.shown? (typeFormat : Format) (schemaFormat : Option Format) : Command → Option Text
  | .type text => (ColumnType.parse text).toOption.map (ColumnType.view typeFormat)
  | .schema columns => (Schema.parse columns).toOption.map (Schema.view schemaFormat)
  | .split text none => some (Text.join ['\n'] ((Text.segments ',' text).map Text.quoted))
  | .split text (some arity) =>
    (Text.padded ',' arity text).toOption.map fun parameters =>
      Text.join ['\n'] (parameters.map Report.segmentLine)

/-- A run that shows something ends it with a line feed, and its code is 0. One that shows nothing has an
empty output and the code 1. -/
def Outcome.Shows (outcome : Outcome) : Option Text → Prop
  | none => outcome.output = [] ∧ outcome.code = 1
  | some text => outcome.output = text ++ ['\n'] ∧ outcome.code = 0

namespace Run

def code : Except Status Report → UInt8
  | .error _ => 1
  | .ok _ => 0

def output : Except Status Report → Text
  | .error _ => []
  | .ok report => report.output ++ ['\n']

def statusLines (plain : Bool) : Except Status Report → Text
  | .error status => statusLine .red plain status
  | .ok ⟨_, some status⟩ => statusLine .green plain status
  | .ok ⟨_, none⟩ => []

section

variable {arguments arguments' : Arguments} {settings settings' : Settings}

theorem execute_eq (invocation : Invocation) (arguments : Arguments) (settings : Settings) :
    execute invocation arguments settings =
      ⟨code (report arguments settings), output (report arguments settings),
        logLines invocation arguments settings ++
          statusLines (arguments.plain || settings.plain) (report arguments settings)⟩ := by
  rw [execute]
  rcases report arguments settings with status | ⟨text, _ | status⟩
  · rfl
  · simp [code, output, statusLines]
  · rfl

theorem report_congr (hf : arguments.format = arguments'.format) (hc : arguments.command = arguments'.command)
    (hs : settings.format = settings'.format) :
    report arguments settings = report arguments' settings' := by
  simp only [report, typeFormat, schemaFormat, hf, hc, hs]

theorem map_output_report (arguments : Arguments) (settings : Settings) :
    (report arguments settings).toOption.map Report.output =
      arguments.command.shown? (typeFormat arguments settings) (schemaFormat arguments settings) := by
  unfold report
  cases arguments.command with
  | type text =>
    dsimp only [Report.ofType, Command.shown?]
    cases ColumnType.parse text <;> rfl
  | schema columns =>
    dsimp only [Report.ofSchema, Command.shown?]
    cases Schema.parse columns <;> rfl
  | split text arity =>
    cases arity with
    | none => rfl
    | some arity =>
      dsimp only [Report.ofSplit, Report.splitLines, Command.shown?]
      cases Text.padded ',' arity text <;> rfl

theorem shows_execute (invocation : Invocation) (arguments : Arguments) (settings : Settings) :
    (execute invocation arguments settings).Shows
      (arguments.command.shown? (typeFormat arguments settings) (schemaFormat arguments settings)) := by
  rw [execute_eq, ← map_output_report]
  cases report arguments settings <;> exact ⟨rfl, rfl⟩

end

end Run

/-! ### Two runs -/

open Settings (Item)

section

variable {loader loader' : Settings.Loader} {i j : Invocation} {layer layer' : Settings.Layer}
  {arguments arguments' : Arguments} {settings settings' : Settings}

/-- A run that comes to its command: its words are accepted and its settings load. In its file and in its
environment, one name at most bears on the output format. -/
structure Invocation.Loads (i : Invocation) (loader : Settings.Loader) (arguments : Arguments)
    (layer : Settings.Layer) (settings : Settings) : Prop where
  words : CommandLine.parse i.words = .ok arguments
  file : loader.fileLayer i.file = .ok layer
  settings : loader.read i.file i.environment = .ok settings
  fileSettles : layer.Settles .format
  environmentSettles : i.environment.layer.Settles .format

/-- Two invocations that differ in flags, in the log and in colours at most. They have the same words
besides flags, the same in their files for the output format, and the same variables that bear on it. -/
structure Invocation.SameAnswer (i j : Invocation) (layer layer' : Settings.Layer) : Prop where
  words : CommandLine.withoutFlags i.words = CommandLine.withoutFlags j.words
  file : layer.given? Item.format.path = layer'.given? Item.format.path
  environment : i.environment.layer.bearingOn Item.format.path =
    j.environment.layer.bearingOn Item.format.path

theorem runWith_of_read (ha : CommandLine.parse i.words = .ok arguments)
    (hs : loader.read i.file i.environment = .ok settings) :
    runWith loader i = Run.execute i arguments settings := by
  rw [runWith, ha]
  dsimp only
  rw [hs]

theorem Invocation.SameAnswer.report_eq (h : i.SameAnswer j layer layer')
    (hi : i.Loads loader arguments layer settings) (hj : j.Loads loader' arguments' layer' settings') :
    Run.report arguments settings = Run.report arguments' settings' := by
  have hw := CommandLine.parse_withoutFlags hi.words
  rw [h.words, CommandLine.parse_withoutFlags hj.words] at hw
  injection hw with hw
  injection hw with _ hformat _ hcommand
  have hset : Item.format.of settings = Item.format.of settings' :=
    Settings.Loader.of_eq_of_read hi.settings hj.settings hi.file hj.file hi.fileSettles hj.fileSettles
      hi.environmentSettles hj.environmentSettles h.file h.environment
  exact Run.report_congr hformat.symm hcommand.symm hset

/-- The log and the colours leave the standard output and the code alone, whatever reads the files and
whichever order the names are taken in. A run shows what its command shows, and nothing else. All log
lines, and the status after them, are on the standard error. -/
theorem output_apart_from_log (h : i.SameAnswer j layer layer')
    (hi : i.Loads loader arguments layer settings) (hj : j.Loads loader' arguments' layer' settings') :
    (runWith loader i).output = (runWith loader' j).output ∧
      (runWith loader i).code = (runWith loader' j).code ∧
      (runWith loader i).Shows
        (arguments.command.shown? (arguments.format.getD settings.format)
          (arguments.format.or (if settings.format = .canonical then none else some settings.format))) ∧
      (runWith loader i).errors = Run.logLines i arguments settings ++
        Run.statusLines (arguments.plain || settings.plain) (Run.report arguments settings) ∧
      (runWith loader' j).errors = Run.logLines j arguments' settings' ++
        Run.statusLines (arguments'.plain || settings'.plain) (Run.report arguments settings) := by
  have hr := h.report_eq hi hj
  rw [runWith_of_read hi.words hi.settings, runWith_of_read hj.words hj.settings]
  refine ⟨?_, ?_, Run.shows_execute i arguments settings, by rw [Run.execute_eq], ?_⟩
  · rw [Run.execute_eq, Run.execute_eq, hr]
  · rw [Run.execute_eq, Run.execute_eq, hr]
  · rw [Run.execute_eq, hr]

end

/-- A run that logs, and one that logs in another way, without colours, with a flag at another place, with
another file and with its names in another order: once with a text that is a type and once with one that is
not. -/
theorem output_apart_from_log_of_two_runs :
    let reversed : Settings.Loader := ⟨Settings.Toml.document?, List.reverse, List.reverse_perm⟩
    let file : Text := "[output]\nformat = \"tree\"\n"
    let file' : Text :=
      "output = \x7b no_ansi = false, format = \"tree\" \x7d\nlogger.level = \"Error\"\n"
    let environment : Settings.Environment := [("RUST_LOG", "trace"), ("CHTYPE_OUTPUT__NO_ANSI", "on")]
    let environment' : Settings.Environment :=
      [("Chtype_Logger__Format", "json"), ("CHTYPE_LOGGER__LEVEL", "info")]
    let i (text : Text) : Invocation :=
      ⟨["-d", "type", text], some file, "config.toml", environment, "12:00:00"⟩
    let j (text : Text) : Invocation :=
      ⟨["type", text, "--no-ansi"], some file', "config.toml", environment', "12:00:01"⟩
    ((runWith .inOrder (i "Array(Int8)")).output = "Array\n  Int8\n" ∧
      (runWith .inOrder (i "Array(Int8)")).code = 0 ∧
      (runWith reversed (j "Array(Int8)")).output = "Array\n  Int8\n" ∧
      (runWith reversed (j "Array(Int8)")).code = 0) ∧
    (runWith .inOrder (i "Array(Int")).output = [] ∧ (runWith .inOrder (i "Array(Int")).code = 1 ∧
      (runWith reversed (j "Array(Int")).output = [] ∧ (runWith reversed (j "Array(Int")).code = 1 := by
  intro reversed file file' environment environment' i j
  let layer : Settings.Layer :=
    [("output", .table [("format", .leaf (.string "tree") .file)])]
  let layer' : Settings.Layer :=
    [("output", .table [("no_ansi", .leaf (.boolean false) .file), ("format", .leaf (.string "tree") .file)]),
      ("logger", .table [("level", .leaf (.string "Error") .file)])]
  have hl : Settings.Loader.inOrder.fileLayer (some file) = .ok layer :=
    toOption_eq_some_iff.1 (by decide +kernel)
  have hl' : reversed.fileLayer (some file') = .ok layer' := toOption_eq_some_iff.1 (by decide +kernel)
  have hs : Settings.Loader.inOrder.read (some file) environment = .ok ⟨.warn, .text, false, .tree, true⟩ :=
    toOption_eq_some_iff.1 (by decide +kernel)
  have hs' : reversed.read (some file') environment' = .ok ⟨.info, .json, false, .tree, false⟩ :=
    toOption_eq_some_iff.1 (by decide +kernel)
  have hg : layer.given? Item.format.path = layer'.given? Item.format.path := by decide +kernel
  have he : environment.layer.Settles .format := by decide +kernel
  have he' : environment'.layer.Settles .format := by decide +kernel
  have hb : environment.layer.bearingOn Item.format.path = environment'.layer.bearingOn Item.format.path := by
    decide +kernel
  have shows (text : Text) {shown : Option Text}
      (hw : CommandLine.withoutFlags (i text).words = CommandLine.withoutFlags (j text).words)
      (ha : (CommandLine.parse (i text).words).toOption = some ⟨true, none, false, .type text⟩)
      (ha' : (CommandLine.parse (j text).words).toOption = some ⟨false, none, true, .type text⟩)
      (hv : Command.shown? .tree (some .tree) (.type text) = shown) :
      (runWith .inOrder (i text)).Shows shown ∧ (runWith reversed (j text)).Shows shown := by
    obtain ⟨ho, hc, hshows, -⟩ := output_apart_from_log ⟨hw, hg, hb⟩
      ⟨toOption_eq_some_iff.1 ha, hl, hs, by decide +kernel, he⟩
      ⟨toOption_eq_some_iff.1 ha', hl', hs', by decide +kernel, he'⟩
    have hshows : (runWith .inOrder (i text)).Shows shown := hv ▸ hshows
    refine ⟨hshows, ?_⟩
    cases shown <;> simpa only [Outcome.Shows, ho, hc] using hshows
  obtain ⟨⟨ho, hc⟩, ho', hc'⟩ := shows "Array(Int8)" (by decide +kernel) (by decide +kernel)
    (by decide +kernel) (show _ = some ("Array\n  Int8" : Text) by decide +kernel)
  obtain ⟨⟨hn, hz⟩, hn', hz'⟩ := shows "Array(Int" (by decide +kernel) (by decide +kernel)
    (by decide +kernel) (show _ = none by decide +kernel)
  exact ⟨⟨ho, hc, ho', hc'⟩, hn, hz, hn', hz'⟩

/-- Of two names that bear on the format the one that is taken last counts. And in a section that is a list,
a variable for the colours does away with the format. -/
theorem format_lost_to_order_and_to_colours :
    let reversed : Settings.Loader := ⟨Settings.Toml.document?, List.reverse, List.reverse_perm⟩
    let i : Invocation :=
      ⟨["type", "Array(Int8)"], none, "config.toml",
        [("CHTYPE_OUTPUT__FORMAT", "tree"), ("CHTYPE_OUTPUT__FORMAT__JSON", "1")], "12:00:00"⟩
    let j (environment : Settings.Environment) : Invocation :=
      ⟨["type", "Array(Int8)"], some "output = [\"json\"]\n", "config.toml", environment, "12:00:00"⟩
    let type : ColumnType := .array (.primitive .int8)
    (runWith .inOrder i = ⟨0, type.view .json ++ ['\n'], []⟩ ∧
      runWith reversed i = ⟨0, type.view .tree ++ ['\n'], []⟩ ∧ type.view .json ≠ type.view .tree) ∧
    run (j []) = ⟨0, type.view .json ++ ['\n'], []⟩ ∧
      run (j [("CHTYPE_OUTPUT__NO_ANSI", "true")]) = ⟨0, type.view .canonical ++ ['\n'], []⟩ ∧
      type.view .json ≠ type.view .canonical := by
  decide +kernel

end ColumnTypes
