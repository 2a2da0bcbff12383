import ColumnTypes.View

/-!
What a command line asks for, and why one is refused. Asking for help or for the version counts as a
refusal too, since no command runs, but not as an error.
-/

namespace ColumnTypes

inductive Command where
  | type (text : Text)
  | schema (columns : Text)
  | split (text : Text) (arity : Option Nat)
deriving DecidableEq, Repr

/-- The options that go with every command, and the command. -/
structure Arguments where
  debug : Bool
  format : Option Format
  plain : Bool
  command : Command
deriving DecidableEq, Repr

inductive UsageFault where
  | helpWanted
  | versionWanted
  | nothingGiven
  | missingCommand
  | missingArgument
  | unknownCommand
  | unknownArgument
  | invalidValue
  | invalidNumber
  | repeatedOption
  | surplusValue
deriving DecidableEq, Repr

def UsageFault.isError : UsageFault → Bool
  | helpWanted | versionWanted => false
  | _ => true

namespace Command

inductive Name where
  | type
  | schema
  | split
  | help
deriving DecidableEq, Repr

def Name.word : Name → Text
  | type => "type"
  | schema => "schema"
  | split => "split"
  | help => "help"

def Name.ofWord? (word : Text) : Option Name := [type, schema, split, help].find? (·.word == word)

end Command

end ColumnTypes
