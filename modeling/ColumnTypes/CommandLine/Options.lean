import ColumnTypes.CommandLine.Basic

/-!
The options of a command line. They may stand before the command and after it; each of the two places
counts on its own, and an option may occur once in each. A value may be attached to its option or
follow as the next argument; a value that follows is looked at only when the next option, the next
argument or the end settles it.
-/

namespace ColumnTypes.CommandLine

inductive Switch where
  | debug
  | plain
  | help
  | version
deriving DecidableEq, Repr

inductive Setting where
  | format
  | arity
deriving DecidableEq, Repr

/-- Where an option stands: before the command, or after it. -/
inductive Place where
  | top
  | command (name : Command.Name)
deriving DecidableEq, Repr

namespace Place

/-- The switch of a long name. The version is told before the command only. -/
def switch? (place : Place) (name : Text) : Option Switch :=
  if name = "debug" then some .debug
  else if name = "no-ansi" then some .plain
  else if name = "help" then some .help
  else if name = "version" && place = .top then some .version
  else none

def letter? (place : Place) (c : Char) : Option Switch :=
  if c = 'd' then some .debug
  else if c = 'h' then some .help
  else if c = 'V' && place = .top then some .version
  else none

/-- The setting of a long name. Only a split has an arity. -/
def setting? (place : Place) (name : Text) : Option Setting :=
  if name = "format" then some .format
  else if name = "arity" && place = .command .split then some .arity
  else none

end Place

inductive Form where
  | doubleDash
  | long (name : Text) (value : Option Text)
  | letters (letters : Text)
  | word
deriving Repr

/-- The form of an argument. A single dash is a word. -/
def Form.of : Text → Form
  | ['-', '-'] => doubleDash
  | '-' :: '-' :: rest =>
    match Text.splitFirst? '=' rest with
    | none => long rest none
    | some (name, value) => long name (some value)
  | ['-'] => word
  | '-' :: rest => letters rest
  | _ => word

/-- The options given at one place. A setting whose value follows it is kept back, with the value once
that is there. -/
structure Given where
  debug : Bool
  plain : Bool
  format : Option Format
  arity : Option Nat
  pending : Option (Setting × Option Text)
deriving Repr

namespace Given

def nothing : Given := ⟨false, false, none, none, none⟩

def awaitsValue (given : Given) : Bool :=
  match given.pending with
  | some (_, none) => true
  | _ => false

def isEmpty (given : Given) : Bool :=
  !given.debug && !given.plain && given.format.isNone && given.arity.isNone

/-- A count of segments: digits after an optional plus sign, below two to the 64. -/
def arity? (value : Text) : Option Nat :=
  let digits := (Text.dropStart? "+" value).getD value
  match Text.toNat? digits with
  | some n => if n < UInt64.size then some n else none
  | none => none

def set (given : Given) (setting : Setting) (value : Text) : Except UsageFault Given :=
  match setting with
  | .format =>
    if given.format.isSome then .error .repeatedOption
    else
      match Format.ofName? value with
      | none => .error .invalidValue
      | some format => .ok { given with format := some format }
  | .arity =>
    if given.arity.isSome then .error .repeatedOption
    else
      match arity? value with
      | none => .error .invalidNumber
      | some arity => .ok { given with arity := some arity }

def settle (given : Given) : Except UsageFault Given :=
  match given.pending with
  | none => .ok given
  | some (_, none) => .error .invalidValue
  | some (setting, some value) => { given with pending := none }.set setting value

def turnOn (given : Given) (switch : Switch) : Except UsageFault Given := do
  let given ← given.settle
  match switch with
  | .debug => if given.debug then .error .repeatedOption else .ok { given with debug := true }
  | .plain => if given.plain then .error .repeatedOption else .ok { given with plain := true }
  | .help => .error .helpWanted
  | .version => .error .versionWanted

def takeLong (given : Given) (place : Place) (name : Text) (value : Option Text) :
    Except UsageFault Given :=
  match place.switch? name, place.setting? name, value with
  | some switch, _, none => given.turnOn switch
  | some _, _, some _ => .error .surplusValue
  | none, some setting, none => do
    let given ← given.settle
    return { given with pending := some (setting, none) }
  | none, some setting, some value => do
    let given ← given.settle
    given.set setting value
  | none, none, _ => .error .unknownArgument

def takeLetters (given : Given) (place : Place) : Text → Except UsageFault Given
  | [] => .ok given
  | c :: rest =>
    match place.letter? c with
    | none => .error .unknownArgument
    | some switch => do
      let given ← given.turnOn switch
      given.takeLetters place rest

def takeValue (given : Given) (value : Text) : Given :=
  { given with pending := given.pending.map fun (setting, _) => (setting, some value) }

end Given

end ColumnTypes.CommandLine
