/-
What can be wrong with a JSON text that should hold a certain kind of value.

Each constructor is one cause and `Fault.message` gives its wording.  A text
that is no JSON at all, or stops being JSON before anything else is found wrong,
has the single fault `malformed`.
-/
import ExecutionLink.Bytes.Fixed
import ExecutionLink.Json.Number
import ExecutionLink.Text.Natural

namespace ExecutionLink.Json

/-- What was found where something else was expected. -/
inductive Found where
  | null
  | bool (b : Bool)
  | number (n : Number)
  | string (s : String)
  | sequence
  | map
  deriving Repr, DecidableEq

/-- How a found value is named. -/
def Found.describe : Found → String
  | .null => "null"
  | .bool b => s!"boolean `{b}`"
  | .number (.real minus x) => s!"floating point `{(Number.real minus x).render}`"
  | .number n => s!"integer `{n.render}`"
  | .string s => s!"string {Text.quoteText s}"
  | .sequence => "sequence"
  | .map => "map"

/-- Why a text does not hold the wanted value. -/
inductive Fault where
  /-- The text is not JSON from here on. -/
  | malformed
  /-- A value of another kind stands here. -/
  | invalidType (found : Found) (expected : String)
  /-- A number of the right kind but outside the range. -/
  | invalidValue (found : Found) (expected : String)
  /-- An array ends before all fields of a record are given. -/
  | invalidLength (length : Nat) (record : String) (fields : Nat)
  /-- An array goes on behind the last field of a record. -/
  | surplusItems (length : Nat)
  | missingField (name : String)
  | duplicateField (name : String)
  /-- Neither a string nor an unsigned 64-bit integer. -/
  | notQuotedInteger
  /-- A string that should hold digits does not. -/
  | digits (fault : Text.Natural.Fault)
  /-- A string that should hold bytes does not. -/
  | bytes (fault : FixedBytes.ParseFault)
  deriving Repr, DecidableEq

/-- The fault as a reader of a text meets it, who expects an array to end behind
the last field and does not see how long it is. -/
def Fault.inText : Fault → Fault
  | .surplusItems _ => .malformed
  | fault => fault

/-- The wording of a fault. -/
def Fault.message : Fault → String
  | .malformed => "JSON syntax"
  | .invalidType found expected => s!"invalid type: {found.describe}, expected {expected}"
  | .invalidValue found expected => s!"invalid value: {found.describe}, expected {expected}"
  | .invalidLength length record fields =>
    let noun := if fields = 1 then "element" else "elements"
    s!"invalid length {length}, expected struct {record} with {fields} {noun}"
  | .surplusItems length => s!"invalid length {length}, expected fewer elements in array"
  | .missingField name => s!"missing field `{name}`"
  | .duplicateField name => s!"duplicate field `{name}`"
  | .notQuotedInteger => "data did not match any variant of untagged enum QuotedOrNumber"
  | .digits fault => fault.message
  | .bytes fault => s!"Serialization error: {fault.message}"

end ExecutionLink.Json
