/-
Events that the program logs.

An event has a level, a topic, a message and fields with their values as text.
The topic is the part of the program that an event comes from; events meant for
the operator have one of their own.  `LogEvent.line` is the line that shows an
event.  Which events are shown is the matter of `LogFilter`.
-/
import ExecutionLink.Text.Blank
import ExecutionLink.Text.Quoted

namespace ExecutionLink

/-- How serious an event is. -/
inductive LogLevel where
  | debug
  | info
  | warn
  deriving Repr, DecidableEq

/-- The name of a level. -/
def LogLevel.name : LogLevel → String
  | .debug => "DEBUG"
  | .info => "INFO"
  | .warn => "WARN"

/-- What an event is about. -/
inductive LogTopic where
  | program
  | service
  | connection
  | builder
  | stub
  /-- Events that the operator has to know of. -/
  | operator
  deriving Repr, DecidableEq

/-- The name by which settings choose a topic. -/
def LogTopic.name : LogTopic → String
  | .program => "execution_layer_service"
  | .service => "execution_layer_service::features::lifecycle::service"
  | .connection => "execution_layer_client::provider"
  | .builder => "execution_layer_client::features::builder_api::service"
  | .stub => "execution_layer_service::features::execution_channel::stub"
  | .operator => "event"

/-- A field's value: text is written in quotes where it is shown as text, and
everything else as it is. -/
inductive LogValue where
  | text (s : String)
  | plain (s : String)
  deriving Repr, DecidableEq

/-- The value without quotes. -/
def LogValue.content : LogValue → String
  | .text s => s
  | .plain s => s

/-- Whether a terminal would obey a character instead of showing it. Line feeds
and the like only move on, so they are not among these. -/
def steersTerminal (c : Char) : Bool :=
  c = '\x1b' || c = '\x07' || c = '\x08' || c = '\x0c' || c = '\x7f'
    || (0x80 ≤ c.toNat && c.toNat ≤ 0x9f)

/-- A character that a terminal would obey is written by its code point. -/
def disarmed (c : Char) : List Char :=
  if !steersTerminal c then [c]
  else if c.toNat < 0x80 then
    let digits := Nat.toDigits 16 c.toNat
    ['\\', 'x'] ++ List.replicate (2 - digits.length) '0' ++ digits
  else Text.codePointEscape c

/-- The value as a line shows it. -/
def LogValue.render : LogValue → String
  | .text s => Text.quoteText s
  | .plain s => String.ofList (s.toList.flatMap disarmed)

/-- An event. -/
structure LogEvent where
  level : LogLevel
  topic : LogTopic
  message : String
  fields : List (String × LogValue) := []
  deriving Repr, DecidableEq

namespace LogEvent

/-- The name of the field that holds the message. -/
def messageField : String := "message"

/-- Whether an event has a field. -/
def hasField (e : LogEvent) (name : String) : Bool :=
  name = messageField || e.fields.any fun (field, _) => field = name

/-- The event in a line: its level, its message and its fields. -/
def line (e : LogEvent) : String :=
  let fields := e.fields.map fun (name, value) => s!"{name}={value.render}"
  " ".intercalate (e.level.name :: e.message :: fields)

end LogEvent

end ExecutionLink
