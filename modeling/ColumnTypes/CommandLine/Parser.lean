import ColumnTypes.CommandLine.Options

/-!
Reading a command line, from left to right: options, the command, more options and the argument of the
command. After a double dash every argument stands for itself. What is wrong after the command is found
before a value that is still kept back in front of it.
-/

namespace ColumnTypes.CommandLine

structure Tail where
  given : Given
  argument : Option Text
deriving Repr

def Tail.takeArgument (tail : Tail) (word : Text) : Except UsageFault Tail :=
  match tail.argument with
  | some _ => .error .unknownArgument
  | none => do
    let given ← tail.given.settle
    return ⟨given, some word⟩

/-- The end of a command line: nothing is kept back, and the argument is there. -/
def Tail.finish (tail : Tail) : Except UsageFault (Given × Text) := do
  let given ← tail.given.settle
  match tail.argument with
  | none => .error .missingArgument
  | some argument => .ok (given, argument)

def readTail (place : Place) (dashed : Bool) (tail : Tail) : List Text → Except UsageFault Tail
  | [] => .ok tail
  | word :: rest =>
    match if dashed then .word else Form.of word with
    | .doubleDash => readTail place true tail rest
    | .long name value => do
      let given ← tail.given.takeLong place name value
      readTail place dashed { tail with given } rest
    | .letters letters => do
      let given ← tail.given.takeLetters place letters
      readTail place dashed { tail with given } rest
    | .word =>
      if !dashed && tail.given.awaitsValue then
        readTail place dashed { tail with given := tail.given.takeValue word } rest
      else do
        let tail ← tail.takeArgument word
        readTail place dashed tail rest

/-- Help on a command is asked for by its name; commands have no commands of their own. -/
def readHelp : List Text → UsageFault
  | [] => .helpWanted
  | [word] => if (Command.Name.ofWord? word).isSome then .helpWanted else .unknownCommand
  | _ => .unknownCommand

def readCommand (name : Command.Name) (words : List Text) : Except UsageFault (Given × Command) :=
  match name with
  | .help => .error (readHelp words)
  | name => do
    let tail ← readTail (.command name) false ⟨.nothing, none⟩ words
    let (given, argument) ← tail.finish
    match name with
    | .type => return (given, .type argument)
    | .schema => return (given, .schema argument)
    | _ => return (given, .split argument given.arity)

def finishWithoutCommand (given : Given) : UsageFault :=
  match given.settle with
  | .error fault => fault
  | .ok given => if given.isEmpty then .nothingGiven else .missingCommand

/-- The arguments after a double dash in front of the command, where no command can stand. -/
def readDashed (given : Given) : List Text → UsageFault
  | [] => finishWithoutCommand given
  | word :: _ => if (Command.Name.ofWord? word).isSome then .unknownArgument else .unknownCommand

/-- The arguments of both levels together; a format after the command wins. -/
def combine (outer inner : Given) (command : Command) : Arguments where
  debug := outer.debug || inner.debug
  format := inner.format.or outer.format
  plain := outer.plain || inner.plain
  command := command

def readTop (given : Given) : List Text → Except UsageFault Arguments
  | [] => .error (finishWithoutCommand given)
  | word :: rest =>
    match Form.of word with
    | .doubleDash => .error (readDashed given rest)
    | .long name value => do
      let given ← given.takeLong .top name value
      readTop given rest
    | .letters letters => do
      let given ← given.takeLetters .top letters
      readTop given rest
    | .word =>
      if given.awaitsValue then readTop (given.takeValue word) rest
      else
        match Command.Name.ofWord? word with
        | none => .error .unknownCommand
        | some name => do
          let (inner, command) ← readCommand name rest
          let outer ← given.settle
          return combine outer inner command

def parse (words : List Text) : Except UsageFault Arguments := readTop .nothing words

end ColumnTypes.CommandLine
