import ColumnTypes.Settings.Environment
import ColumnTypes.Settings.Toml
import ColumnTypes.Text.LowerCase
import ColumnTypes.Text.Quoted
import ColumnTypes.View

/-!
The settings of the program, and how they are put together: the environment over the file over the
defaults. What no setting is named for has no effect.
-/

namespace ColumnTypes

/-- The least severe events that are logged unless a filter says otherwise. -/
inductive LogLevel where
  | debug
  | info
  | warn
  | error
deriving DecidableEq, Repr

inductive LogFormat where
  | json
  | text
deriving DecidableEq, Repr

structure Settings where
  level : LogLevel
  logFormat : LogFormat
  richLog : Bool
  format : Format
  plain : Bool
deriving DecidableEq, Repr

namespace Settings

def default : Settings := ⟨.warn, .text, false, .canonical, false⟩

/-- Settings whose value is one of a few names. -/
inductive Choice where
  | level
  | logFormat
  | format
deriving DecidableEq, Repr

def Choice.name : Choice → Text
  | level => "LoggerLevel"
  | logFormat => "LogFormat"
  | format => "OutputFormat"

inductive Group where
  | logger
  | output
deriving DecidableEq, Repr

def Group.key : Group → Text
  | logger => "logger"
  | output => "output"

def Group.name : Group → Text
  | logger => "LoggerSettings"
  | output => "OutputSettings"

/-- Why settings cannot be read. A position before its list stops the program. -/
inductive Fault where
  | unreadableFile
  | positionBeforeList
  | unknownName (choice : Choice) (given : Text)
  | notAName (choice : Choice)
  | notAGroup (group : Group) (given : Tree)
  | notABoolean (location : Text) (given : Tree)
deriving Repr

def Scalar.description : Scalar → Text
  | boolean true => "boolean `true`"
  | boolean false => "boolean `false`"
  | integer n => "integer `" ++ Text.ofInt n ++ "`"
  | real x => "floating point `" ++ x.spelling ++ "`"
  | string text => "string " ++ Text.quoted text

/-- How a tree is called where it is out of place. -/
def Tree.description : Tree → Text
  | nothing => "unit value"
  | leaf value _ => value.description
  | list _ _ => "sequence"
  | table _ => "map"

def Tree.origin? : Tree → Option Origin
  | leaf _ origin => some origin
  | list _ origin => origin
  | _ => none

def Fault.message : Fault → Text
  | unreadableFile => "invalid TOML"
  | positionBeforeList => "position before the beginning of a list"
  | unknownName choice given =>
    "enum " ++ choice.name ++ " does not have variant constructor " ++ given
  | notAName choice =>
    "value of enum " ++ choice.name ++
      " should be represented by either string or table with exactly one key"
  | notAGroup group given => "invalid type: " ++ given.description ++ ", expected struct " ++ group.name
  | notABoolean location given =>
    "invalid type: " ++ given.description ++ ", expected a boolean for key `" ++ location ++ "`" ++
      match given.origin? with
      | none => []
      | some origin => " in " ++ origin.name

/-! ## Reading one setting -/

/-- The name that a choice is given by: a text, or the only key of a table. -/
def chosenName (choice : Choice) : Tree → Except Fault Text
  | .leaf (.string name) _ => .ok name
  | .table [(name, _)] => .ok name
  | _ => .error (.notAName choice)

def choose {α : Type} (choice : Choice) (names : List (Text × α)) (tree : Tree) : Except Fault α :=
  match chosenName choice tree with
  | .error fault => .error fault
  | .ok name =>
    match names.lookup name with
    | none => .error (.unknownName choice name)
    | some value => .ok value

def levelNames : List (Text × LogLevel) :=
  [("Debug", .debug), ("DEBUG", .debug), ("debug", .debug), ("Info", .info), ("INFO", .info),
    ("info", .info), ("Warn", .warn), ("WARN", .warn), ("warn", .warn), ("Error", .error),
    ("ERROR", .error), ("error", .error)]

def logFormatNames : List (Text × LogFormat) :=
  [("Json", .json), ("JSON", .json), ("json", .json), ("Text", .text), ("TEXT", .text), ("text", .text)]

def formatNames : List (Text × Format) := Format.all.map fun format => (format.name, format)

def trueWords : List Text := ["1", "true", "on", "yes"]

def falseWords : List Text := ["0", "false", "off", "no"]

/-- A truth value: a boolean, a number that is not zero, or one of the usual words in any case. -/
def readBoolean (location : Text) (tree : Tree) : Except Fault Bool :=
  match tree with
  | .leaf (.boolean b) _ => .ok b
  | .leaf (.integer n) _ => .ok (n ≠ 0)
  | .leaf (.real x) _ => .ok (!x.isZero)
  | .leaf (.string text) origin =>
    let word := Text.lowered text
    if trueWords.contains word then .ok true
    else if falseWords.contains word then .ok false
    else .error (.notABoolean location (.leaf (.string word) origin))
  | _ => .error (.notABoolean location tree)

/-! ## The five settings -/

inductive Item where
  | level
  | logFormat
  | richLog
  | format
  | plain
deriving DecidableEq, Repr

namespace Item

def group : Item → Group
  | level | logFormat | richLog => .logger
  | format | plain => .output

def key : Item → Text
  | level => "level"
  | logFormat | format => "format"
  | richLog => "use_tracing_format"
  | plain => "no_ansi"

/-- The place of a setting in a section that is given as a list. -/
def place : Item → Nat
  | level | format => 0
  | logFormat | plain => 1
  | richLog => 2

def Value : Item → Type
  | level => LogLevel
  | logFormat => LogFormat
  | richLog | plain => Bool
  | format => Format

def of (settings : Settings) : (item : Item) → item.Value
  | level => settings.level
  | logFormat => settings.logFormat
  | richLog => settings.richLog
  | format => settings.format
  | plain => settings.plain

def location (item : Item) : Tree → Text
  | .list _ _ => item.group.key ++ "[" ++ Text.ofNat item.place ++ "]"
  | _ => item.group.key ++ "." ++ item.key

/-- What a section holds for a setting. -/
def member? (item : Item) : Tree → Option Tree
  | .table entries => entries.lookup item.key
  | .list items _ => items[item.place]?
  | _ => none

def read (item : Item) (location : Text) : Tree → Except Fault item.Value :=
  match item with
  | level => choose .level levelNames
  | logFormat => choose .logFormat logFormatNames
  | richLog => readBoolean location
  | format => choose .format formatNames
  | plain => readBoolean location

/-- The value of a setting in a section, or its default. -/
def readFrom (item : Item) (group : Tree) : Except Fault item.Value :=
  match item.member? group with
  | none => .ok (item.of default)
  | some tree => item.read (item.location group) tree

end Item

/-- A section is a table, or a list of its settings in order. -/
def groupTree (group : Group) (tree : Tree) : Except Fault Tree :=
  match tree.get? group.key with
  | none => .ok .empty
  | some (.table entries) => .ok (.table entries)
  | some (.list items origin) => .ok (.list items origin)
  | some given => .error (.notAGroup group given)

def ofTree (tree : Tree) : Except Fault Settings := do
  let logger ← groupTree .logger tree
  let level ← Item.level.readFrom logger
  let logFormat ← Item.logFormat.readFrom logger
  let richLog ← Item.richLog.readFrom logger
  let output ← groupTree .output tree
  let format ← Item.format.readFrom output
  let plain ← Item.plain.readFrom output
  return { level, logFormat, richLog, format, plain }

/-! ## Loading -/

/-- What is left to other code when settings are loaded: which document a file holds, and in which order
the entries of a layer are taken. A layer is a hash map, so that any order may occur. -/
structure Loader where
  document? : Text → Option Document
  order : Layer → Layer
  order_perm (layer : Layer) : (order layer).Perm layer

namespace Loader

/-- TOML files, and layers in the order in which they are written. -/
def inOrder : Loader := ⟨Toml.document?, id, fun layer => .refl layer⟩

/-- What a file sets. Without a file there is nothing. -/
def fileLayer (loader : Loader) (file : Option Text) : Except Fault Layer :=
  match file with
  | none => .ok []
  | some text =>
    match loader.document? text with
    | none => .error .unreadableFile
    | some document => .ok document.layer

def tree (loader : Loader) (file : Option Text) (environment : Environment) : Except Fault Tree := do
  let layer ← loader.fileLayer file
  match (loader.order layer).over .empty >>= (loader.order environment.layer).over with
  | none => .error .positionBeforeList
  | some tree => .ok tree

def read (loader : Loader) (file : Option Text) (environment : Environment) : Except Fault Settings :=
  loader.tree file environment >>= ofTree

end Loader

def read (file : Option Text) (environment : Environment) : Except Fault Settings :=
  Loader.inOrder.read file environment

end Settings

end ColumnTypes
