import ColumnTypes.Run
import Std.Time.Format

/-! The program. It gathers what a run is given, and writes what the run leaves behind. -/

namespace ColumnTypes

def processVariables : IO Settings.Environment := do
  let bytes ← IO.FS.readBinFile "/proc/self/environ"
  let text : Text := (String.fromUTF8? bytes).getD ""
  return (text.splitOn '\x00').filterMap (Text.splitFirst? '=')

def fileText? (path : String) : IO (Option Text) := do
  try
    let text ← IO.FS.readFile path
    return some text
  catch _ => return none

/-- The present time in UTC, to the second. -/
def presentTime : IO Text := do
  let now := Std.Time.DateTime.ofTimestamp (← Std.Time.Timestamp.now) Std.Time.TimeZone.ZoneRules.UTC
  return now.format "uuuu-MM-dd'T'HH:mm:ss'Z'"

def invocation (words : List String) : IO Invocation := do
  let home := (← IO.getEnv "HOME").getD ""
  let path := home ++ "/.chtype/config.toml"
  return {
    words := words.map String.toList
    file := ← fileText? path
    path := path
    environment := ← processVariables
    time := ← presentTime }

end ColumnTypes

def main (words : List String) : IO UInt32 := do
  let outcome := ColumnTypes.run (← ColumnTypes.invocation words)
  IO.print (String.ofList outcome.output)
  IO.eprint (String.ofList outcome.errors)
  return outcome.code.toUInt32
