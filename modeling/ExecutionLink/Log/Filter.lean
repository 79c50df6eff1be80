/-
Which of the logged events are shown.

A filter is a list of directives.  A directive names a topic, or a field that
events must have, and the threshold for such events; the most specific directive
that concerns an event decides about it.

Settings write a directive as one of

    threshold    topic    topic=threshold    topic[span{field=value}]=threshold

where the topic, and everything in the brackets, may be left out.  A word that is
no threshold is a topic, and a topic without a threshold is shown in full.  Events
of this program are never inside a span, so a directive about a span or about the
value of a field concerns none of them.
-/
import ExecutionLink.Log
import ExecutionLink.Text.Alphanumeric
import ExecutionLink.Text.Natural

namespace ExecutionLink

/-! ### Thresholds -/

/-- How serious an event must be to be shown. -/
inductive LogThreshold where
  | off
  | error
  | warn
  | info
  | debug
  | trace
  deriving Repr, DecidableEq

namespace LogThreshold

/-- The thresholds by their names. -/
def named : List (String × LogThreshold) :=
  [("off", .off), ("error", .error), ("warn", .warn), ("info", .info), ("debug", .debug),
    ("trace", .trace)]

/-- The threshold that a word stands for: a name in any case of letters, or the
place of one in the list, counted from zero. -/
def ofWord? (word : String) : Option LogThreshold :=
  match Text.Natural.read word with
  | .ok place => named[place.toNat]?.map (·.2)
  | .error _ => (named.find? fun (name, _) => Text.sameIgnoringCase word name).map (·.2)

/-- Whether events of a level are shown. -/
def shows : LogThreshold → LogLevel → Bool
  | .off, _ | .error, _ => false
  | .warn, level => level = .warn
  | .info, level => level ≠ .debug
  | .debug, _ | .trace, _ => true

end LogThreshold

/-! ### Directives -/

/-- What a directive asks of a field: that there is one of this name and, if a
value is given, that it has this value. -/
structure LogFieldPattern where
  name : String
  value : Option String := none
  deriving Repr, DecidableEq

/-- A directive: what it concerns, and the threshold. -/
structure LogDirective where
  /-- What the names of the topics begin with. -/
  topic : Option String := none
  span : Option String := none
  field : Option LogFieldPattern := none
  threshold : LogThreshold := .trace
  deriving Repr, DecidableEq

namespace LogDirective

/-- Whether a directive is about what happens in spans only: it names a span, or
the value of a field. -/
def isForSpans (d : LogDirective) : Bool :=
  d.span.isSome || d.field.any (·.value.isSome)

/-- Whether a directive concerns an event. -/
def concerns (d : LogDirective) (e : LogEvent) : Bool :=
  !d.isForSpans && d.topic.all (·.toList.isPrefixOf e.topic.name.toList)
    && d.field.all (e.hasField ·.name)

/-- How much of the topic a directive names, a directive without a topic being
the least specific. -/
def topicRank (d : LogDirective) : Nat :=
  d.topic.elim 0 (·.length + 1)

/-- The field that a directive names, if any. -/
def fieldName (d : LogDirective) : String :=
  d.field.elim "" (·.name)

/-- Of two directives that concern the same event the more specific one: the one
that names more of the topic, then the one whose field is later in the alphabet.
The second one counts if they say the same. -/
def moreSpecific (d d' : LogDirective) : LogDirective :=
  if d.topicRank < d'.topicRank then d'
  else if d.topicRank = d'.topicRank ∧ d.fieldName ≤ d'.fieldName then d'
  else d

/-! ### Reading directives

Only what stands between the blanks around a directive tells where its parts
begin and end, but the parts are cut out of the whole text: blanks in front of a
directive shift all its parts, and the last part has the blanks behind. -/

/-- The characters of a directive, each beside the one that is cut out for it. -/
abbrev Aligned := List (Char × Char)

/-- The characters that are cut out. -/
def cut (cs : Aligned) : String := String.ofList (cs.map (·.2))

/-- Everything before the first of some marks, and the rest. -/
def upTo (marks : List Char) (cs : Aligned) : Aligned × Aligned :=
  cs.span fun (c, _) => c ∉ marks

/-- The threshold at the end of a directive. -/
def endThreshold? (text : String) : Option LogThreshold :=
  if text = "" then some .trace else LogThreshold.ofWord? text

/-- Reads what follows the bracket: nothing, or a threshold. -/
def readThreshold (d : LogDirective) (rest : Aligned) (behind : String) : Option LogDirective :=
  match rest with
  | [] => some d
  | ('=', _) :: rest => do return { d with threshold := ← endThreshold? (cut rest ++ behind) }
  | _ :: _ => none

/-- The pattern that a text stands for: a name, and what stands after the first
equals sign and before the next one. -/
def fieldPattern (text : String) : LogFieldPattern :=
  match text.splitOn "=" with
  | name :: value :: _ => ⟨name, some value⟩
  | _ => ⟨text, none⟩

/-- Reads what the brackets hold and what follows them. -/
def readBrackets (topic : Option String) (rest : Aligned) (behind : String) :
    Option LogDirective :=
  match upTo [']', '{'] rest with
  | (span, (']', _) :: rest) => readThreshold { topic, span := some (cut span) } rest behind
  | (span, (_, _) :: rest) =>
    match upTo ['}'] rest with
    | (field, _ :: (']', _) :: rest) =>
      if field = [] then none
      else
        let span := if span = [] then none else some (cut span)
        readThreshold { topic, span, field := some (fieldPattern (cut field)) } rest behind
    | _ => none
  | (_, []) => none

/-- A word that stands alone: a threshold, or else a topic. -/
def ofWord (word : String) : LogDirective :=
  match LogThreshold.ofWord? word with
  | some threshold => { threshold }
  | none => { topic := some word }

/-- Whether a word can begin with a character. -/
def beginsWord (c : Char) : Bool :=
  c = '-' || c = ':' || c = '_' || Text.isAlphanumeric c

/-- The directive that a text stands for. -/
def ofText? (text : String) : Option LogDirective :=
  let inner := Text.trimmed text.toList
  let cs : Aligned := inner.zip text.toList
  let behind := String.ofList (text.toList.drop inner.length)
  match cs with
  | [] => none
  | ('[', _) :: rest => readBrackets none rest behind
  | (c, _) :: _ =>
    if !beginsWord c then none
    else
      match upTo ['=', '['] cs with
      | (word, []) => some (ofWord (cut word ++ behind))
      | (word, rest@(('=', _) :: _)) =>
        readThreshold { topic := some (cut word) } rest behind
      | (word, _ :: rest) => readBrackets (some (cut word)) rest behind

end LogDirective

/-! ### Filters -/

/-- A filter: directives, the later ones replacing earlier ones that concern the
same events. -/
structure LogFilter where
  directives : List LogDirective
  deriving Repr, DecidableEq

namespace LogFilter

/-- The filter without a directive of its own shows errors only, and this program
logs none. -/
def errorsOnly : LogFilter := ⟨[{ threshold := .error }]⟩

/-- The filter that shows what is at least informative. -/
def informative : LogFilter := ⟨[{ threshold := .info }]⟩

/-- The filter of the directives in a setting, between commas. There is none if
one of them cannot be read. -/
def ofText? (setting : String) : Option LogFilter :=
  match (setting.splitOn ",").filter (· ≠ "") with
  | [] => some errorsOnly
  | texts => (texts.mapM LogDirective.ofText?).map (⟨·⟩)

/-- The filter that a setting asks for. A setting that is missing or cannot be
read shows what is at least informative. -/
def ofSetting (setting : Option String) : LogFilter :=
  (setting.bind ofText?).getD informative

/-- The directive that decides about an event. -/
def decisive? (f : LogFilter) (e : LogEvent) : Option LogDirective :=
  match f.directives.filter (·.concerns e) with
  | [] => none
  | d :: ds => some (ds.foldl LogDirective.moreSpecific d)

/-- Whether an event is shown: one that no directive concerns is not. -/
def shows (f : LogFilter) (e : LogEvent) : Bool :=
  (f.decisive? e).any (·.threshold.shows e.level)

/-- The lines of the events that are shown. -/
def lines (f : LogFilter) (events : List LogEvent) : List String :=
  (events.filter f.shows).map (·.line)

end LogFilter

end ExecutionLink
