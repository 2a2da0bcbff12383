import ColumnTypes.Json.Spelling
import ColumnTypes.Log.Event
import ColumnTypes.Text.Quoted

/-!
How an event is written. There are two layouts, a plain and a rich one, each as text and as JSON. The
plain text shows details as they are; the rich text is coloured and quotes them.
-/

namespace ColumnTypes.Log

structure Style where
  rich : Bool
  json : Bool
deriving DecidableEq, Repr

namespace Event

def plainDetail (name : Text) (detail : Detail) : Text := " " ++ name ++ "=" ++ detail.plain

/-- Time, severity and target in brackets, the message, and the details as they are. -/
def plainText (time : Text) (event : Event) : Text :=
  "[" ++ time ++ " " ++ event.severity.name ++ " - " ++ event.target ++ "] " ++ event.message ++
    event.details.flatMap (fun (name, detail) => plainDetail name detail)

/-- A flat object whose members are all strings. -/
def plainJson (time : Text) (event : Event) : Json :=
  .object
    (("timestamp", .string time) :: ("severity", .string event.severity.name) ::
      ("target", .string event.target) :: ("message", .string event.message) ::
      event.details.map fun (name, detail) => (name, .string detail.plain))

def detailJson : Detail → Json
  | .number n => .integer n
  | .text t => .string t

/-- An object with the message among the details, whose numbers are numbers. -/
def richJson (time : Text) (event : Event) : Json :=
  let details := event.details.map fun (name, detail) => (name, detailJson detail)
  .object
    [("timestamp", .string time), ("level", .string event.severity.name),
      ("fields", .object (("message", .string event.message) :: details)),
      ("target", .string event.target)]

def styled (style : Nat) (text : Text) : Text := "\x1b[" ++ Text.ofNat style ++ "m" ++ text ++ "\x1b[0m"

def dimmed (text : Text) : Text := styled 2 text

def italic (text : Text) : Text := styled 3 text

def severityStyle : Severity → Nat
  | .trace => 35
  | .debug => 34
  | .info => 32
  | .warn => 33
  | .error => 31

def severityColumn (severity : Severity) : Text :=
  List.replicate (5 - severity.name.length) ' ' ++ severity.name

def richDetail (name : Text) (detail : Detail) : Text :=
  let value := match detail with
    | .number n => Text.ofNat n
    | .text t => Text.quoted t
  " " ++ italic name ++ dimmed "=" ++ value

/-- Time, severity and target under their styles, the message, and the details. -/
def richText (time : Text) (event : Event) : Text :=
  dimmed time ++ " " ++ styled (severityStyle event.severity) (severityColumn event.severity) ++ " " ++
    dimmed event.target ++ dimmed ":" ++ " " ++ event.message ++
    event.details.flatMap (fun (name, detail) => richDetail name detail)

/-- An event as it is logged, without the line feed after it. -/
def written (style : Style) (time : Text) (event : Event) : Text :=
  match style.rich, style.json with
  | false, false => event.plainText time
  | false, true => (event.plainJson time).compact
  | true, false => event.richText time
  | true, true => (event.richJson time).compact

end Event

end ColumnTypes.Log
