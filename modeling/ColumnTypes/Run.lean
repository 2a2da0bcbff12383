import ColumnTypes.CommandLine.Parser
import ColumnTypes.Log.Filter
import ColumnTypes.Log.Line
import ColumnTypes.Report
import ColumnTypes.Settings.Basic
import ColumnTypes.StyledLine

/-!
A run of the program, as a function from what it is given to what it writes. The output of a command
goes to the standard output and nothing else does; log lines and the status go to the standard error,
in this order. Both streams take all that is written to them: the warning that is logged where the standard
error refuses the status has no part here.
-/

namespace ColumnTypes

/-- What a run is given: the words after the program's name, the text of the settings file if there is
one, its path, the environment, and the time as the log shows it. -/
structure Invocation where
  words : List Text
  file : Option Text
  path : Text
  environment : Settings.Environment
  time : Text
deriving Repr

structure Outcome where
  code : UInt8
  output : Text
  errors : Text
deriving DecidableEq, Repr

namespace Run

/-! ## Events -/

def announcement (command : Text) : Log.Event :=
  ⟨.info, "chtype::cli", "Running " ++ command ++ " command", []⟩

def dispatched (dispatch : Dispatch) : Log.Event :=
  ⟨.trace, "clickhouse_types::type_parser", "Dispatching type construct",
    [("construct", .text dispatch.opening), ("inner", .text dispatch.inner)]⟩

def typeRead (type : ColumnType) : Log.Event :=
  ⟨.debug, "chtype::cli::routines", "Parsed type " ++ type.spelling, [("depth", .number type.depth)]⟩

def schemaRead (schema : Schema) : Log.Event :=
  ⟨.debug, "clickhouse_types::schema",
    "Parsed schema with " ++ Text.ofNat schema.columns.length ++ " fields", []⟩

/-- The events of a command in order. A column list without any text leaves no event of its own, and there
is none for a result that cannot be shown, since every result can. -/
def events : Command → List Log.Event
  | .type text =>
    announcement "type" :: (ColumnType.trail text).dispatches.map dispatched ++
      match ColumnType.parse text with
      | .ok type => [typeRead type]
      | .error _ => []
  | .schema columns =>
    announcement "schema" :: (Schema.trail columns).dispatches.map dispatched ++
      match Schema.parse columns with
      | .ok schema => if schema.columns.isEmpty then [] else [schemaRead schema]
      | .error _ => []
  | .split _ _ => [announcement "split"]

/-! ## Settings in effect -/

def severity : LogLevel → Log.Severity
  | .debug => .debug
  | .info => .info
  | .warn => .warn
  | .error => .error

def filterVariable : Text := "RUST_LOG"

/-- The filter of the environment, or else the level of the settings; asking for debugging sets the
level only. -/
def filter (arguments : Arguments) (settings : Settings) (environment : Settings.Environment) :
    Log.Filter :=
  let level := if arguments.debug then .debug else settings.level
  ((environment.lookup filterVariable).bind Log.Filter.read?).getD (.all (some (severity level)))

def style (settings : Settings) : Log.Style := ⟨settings.richLog, settings.logFormat = .json⟩

def typeFormat (arguments : Arguments) (settings : Settings) : Format :=
  arguments.format.getD settings.format

/-- The format of a schema; the canonical one in the settings stands for the table. -/
def schemaFormat (arguments : Arguments) (settings : Settings) : Option Format :=
  arguments.format.or (if settings.format = .canonical then none else some settings.format)

def report (arguments : Arguments) (settings : Settings) : Except Status Report :=
  match arguments.command with
  | .type text => Report.ofType (typeFormat arguments settings) text
  | .schema columns => Report.ofSchema (schemaFormat arguments settings) columns
  | .split text arity => Report.ofSplit arity text

/-! ## What is written -/

def statusLine (colour : Colour) (plain : Bool) (status : Status) : Text :=
  StyledLine.written plain ⟨status.action, status.details, some colour, true⟩

def logLines (invocation : Invocation) (arguments : Arguments) (settings : Settings) : Text :=
  let filter := filter arguments settings invocation.environment
  ((events arguments.command).filter filter.admits).flatMap fun event =>
    event.written (style settings) invocation.time ++ ['\n']

def execute (invocation : Invocation) (arguments : Arguments) (settings : Settings) : Outcome :=
  let plain := arguments.plain || settings.plain
  let log := logLines invocation arguments settings
  match report arguments settings with
  | .error status => ⟨1, [], log ++ statusLine .red plain status⟩
  | .ok ⟨output, none⟩ => ⟨0, output ++ ['\n'], log⟩
  | .ok ⟨output, some status⟩ => ⟨0, output ++ ['\n'], log ++ statusLine .green plain status⟩

def version : Text := "chtype-cli 0.0.1\n"

/-- The answer to a command line that asks for no command. The texts of the help and of usage faults are
not part of it. -/
def refuse (fault : UsageFault) : Outcome :=
  match fault with
  | .versionWanted => ⟨0, version, []⟩
  | _ => ⟨if fault.isError then 2 else 0, [], []⟩

/-- A run that its settings stop. A position before its list aborts the program, and what the runtime says of
it is left out. -/
def stop (invocation : Invocation) (fault : Settings.Fault) : Outcome :=
  match fault with
  | .positionBeforeList => ⟨134, [], []⟩
  | _ =>
    ⟨1, [], statusLine .red false
      ⟨"Config", "Failed to read " ++ invocation.path ++ ": " ++ fault.message⟩⟩

end Run

/-- Runs the program. Settings that cannot be read end the run, with a status in colour. -/
def runWith (loader : Settings.Loader) (invocation : Invocation) : Outcome :=
  match CommandLine.parse invocation.words with
  | .error fault => Run.refuse fault
  | .ok arguments =>
    match loader.read invocation.file invocation.environment with
    | .error fault => Run.stop invocation fault
    | .ok settings => Run.execute invocation arguments settings

def run (invocation : Invocation) : Outcome := runWith .inOrder invocation

end ColumnTypes
