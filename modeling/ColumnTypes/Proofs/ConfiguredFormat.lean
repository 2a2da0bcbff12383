import ColumnTypes.Proofs.OutputStream
import ColumnTypes.Proofs.SchemaSpelling

/-!
The format that columns are shown in where no option asks for one. A run knows which format is in effect
but not whether anyone gave it, and takes the canonical one for none. So every format that is configured
is the one used, apart from the canonical one, which brings the table.
-/

namespace ColumnTypes

open Text

/-! ### What is configured -/

namespace Settings

variable {loader : Loader} {file : Option Text} {environment : Environment} {settings : Settings}

/-- What is given for a setting once the environment lies over the file. -/
def Loader.gives (loader : Loader) (file : Option Text) (environment : Environment) (item : Item) :
    Option Tree :=
  (loader.tree file environment).toOption.bind item.find?

theorem Loader.decode_gives (h : loader.read file environment = .ok settings) (item : Item) :
    item.decode (loader.gives file environment item) = .ok (item.of settings) := by
  obtain ⟨tree, ht, hs⟩ := bind_eq_ok_iff.1 h
  rw [gives, ht]
  exact decode_of_ofTree hs item

theorem Loader.choose_format_of_gives {given : Tree} (h : loader.read file environment = .ok settings)
    (hg : loader.gives file environment .format = some given) :
    choose .format formatNames given = .ok settings.format := by
  have hd := decode_gives h .format
  rwa [hg] at hd

end Settings

/-! ### Tables and spellings -/

theorem Table.getLast?_draw (table : Table) : table.draw.getLast? = some '┘' := by
  have hr : (bottomRule.draw table.widths).getLast? = some '┘' := List.getLast?_concat
  rw [draw, join_append (by simp) (List.cons_ne_nil _ _), List.getLast?_append, List.getLast?_append]
  simp [join, hr]

theorem Table.draw_ne_spelling (table : Table) (schema : Schema) : table.draw ≠ schema.spelling := by
  intro h
  have hl := table.getLast?_draw
  rw [h] at hl
  obtain ⟨columns⟩ := schema
  cases columns with
  | nil => cases hl
  | cons first later =>
    obtain ⟨last, he, -, hs⟩ := Schema.endsVisibly_spelling first later
    obtain rfl : last = '┘' := Option.some.inj (he.symm.trans hl)
    exact absurd hs (by decide)

/-! ### What a run shows -/

section

variable {loader : Settings.Loader} {i : Invocation} {arguments : Arguments} {settings : Settings}
  {given : Settings.Tree} {format : Format} {columns : Text} {schema : Schema}

theorem Run.report_eq_of_parse (hc : arguments.command = .schema columns) (ho : arguments.format = none)
    (hp : Schema.parse columns = .ok schema) :
    Run.report arguments settings =
      .ok ⟨schema.view (if settings.format = .canonical then none else some settings.format),
        some ⟨"Parsed", counted schema.columns.length "field"⟩⟩ := by
  rw [Run.report, hc]
  dsimp only
  rw [Report.ofSchema, hp, Run.schemaFormat, ho]
  rfl

/-- Without an option for the format, columns are shown in the format that is configured exactly if this
is not the canonical one. If it is, they are shown as a table. -/
theorem configured_format_shown (ha : CommandLine.parse i.words = .ok arguments)
    (hc : arguments.command = .schema columns) (ho : arguments.format = none)
    (hs : loader.read i.file i.environment = .ok settings)
    (hg : loader.gives i.file i.environment .format = some given)
    (hf : Settings.choose .format Settings.formatNames given = .ok format)
    (hp : Schema.parse columns = .ok schema) :
    (runWith loader i).code = 0 ∧
      (runWith loader i).output = schema.view (if format = .canonical then none else some format) ++ ['\n'] ∧
      ((runWith loader i).output = schema.view (some format) ++ ['\n'] ↔ format ≠ .canonical) := by
  have he : settings.format = format :=
    Except.ok.inj ((Settings.Loader.choose_format_of_gives hs hg).symm.trans hf)
  rw [runWith_of_read ha hs, Run.execute_eq, Run.report_eq_of_parse hc ho hp, he]
  refine ⟨rfl, rfl, ?_⟩
  rw [Run.output, List.append_cancel_right_eq]
  constructor
  · rintro hv rfl
    exact Table.draw_ne_spelling _ _ hv
  · intro hn
    rw [if_neg hn]

end

/-- A variable that asks for trees overrides a file that asks for the canonical format. -/
theorem configured_format_shown_of_variable :
    let i : Invocation :=
      ⟨["--no-ansi", "schema", "a Int8, b Nullable(String)"], some "[output]\nformat = \"canonical\"\n",
        "config.toml", [("CHTYPE_OUTPUT__FORMAT", "tree")], "12:00:00"⟩
    let schema : Schema := ⟨[⟨"a", .primitive .int8⟩, ⟨"b", .nullable (.primitive .string)⟩]⟩
    (run i).code = 0 ∧ (run i).output = schema.view (some .tree) ++ ['\n'] := by
  intro i schema
  have ha : CommandLine.parse i.words = .ok ⟨false, none, true, .schema "a Int8, b Nullable(String)"⟩ :=
    toOption_eq_some_iff.1 (by decide +kernel)
  have hs : Settings.read i.file i.environment = .ok ⟨.warn, .text, false, .tree, false⟩ :=
    toOption_eq_some_iff.1 (by decide +kernel)
  obtain ⟨given, hg⟩ :
      ∃ given, Settings.Loader.inOrder.gives i.file i.environment .format = some given :=
    Option.isSome_iff_exists.1 (by decide +kernel)
  have hf : Settings.choose .format Settings.formatNames given = .ok Format.tree :=
    Settings.Loader.choose_format_of_gives hs hg
  have hp : Schema.parse "a Int8, b Nullable(String)" = .ok schema :=
    toOption_eq_some_iff.1 (by decide +kernel)
  obtain ⟨hz, ho, -⟩ := configured_format_shown ha rfl rfl hs hg hf hp
  exact ⟨hz, ho⟩

/-- A file that asks for the canonical format brings the table. -/
theorem canonical_format_not_shown :
    let i : Invocation :=
      ⟨["--no-ansi", "schema", "a Int8"], some "[output]\nformat = \"canonical\"\n", "config.toml", [],
        "12:00:00"⟩
    let schema : Schema := ⟨[⟨"a", .primitive .int8⟩]⟩
    (∃ given, Settings.Loader.inOrder.gives i.file i.environment .format = some given ∧
        Settings.choose .format Settings.formatNames given = .ok .canonical) ∧
      Schema.parse "a Int8" = .ok schema ∧
      (run i).output = schema.view none ++ ['\n'] ∧
      (run i).output ≠ schema.view (some .canonical) ++ ['\n'] := by
  intro i schema
  have ha : CommandLine.parse i.words = .ok ⟨false, none, true, .schema "a Int8"⟩ :=
    toOption_eq_some_iff.1 (by decide +kernel)
  have hs : Settings.read i.file i.environment = .ok .default :=
    toOption_eq_some_iff.1 (by decide +kernel)
  have hp : Schema.parse "a Int8" = .ok schema := toOption_eq_some_iff.1 (by decide +kernel)
  have ho : (run i).output = schema.view none ++ ['\n'] := by
    rw [run, runWith_of_read ha hs, Run.execute_eq, Run.report_eq_of_parse rfl rfl hp]
    rfl
  obtain ⟨given, hg⟩ :
      ∃ given, Settings.Loader.inOrder.gives i.file i.environment .format = some given :=
    Option.isSome_iff_exists.1 (by decide +kernel)
  refine ⟨⟨given, hg, Settings.Loader.choose_format_of_gives hs hg⟩, hp, ho, ?_⟩
  rw [ho]
  exact fun h => Table.draw_ne_spelling _ _ (List.append_cancel_right h)

end ColumnTypes
