/-
Formats: how values of a type are written as JSON and read back.

A format holds both directions, so a record is described once.  `Fields` lists
the fields of a record in their declared order; `Format.record` writes them as
an object in that order and reads an object with the fields in any order, or an
array with the values in the declared order.

Reading looks at a tree from left to right and reports the first thing that is
wrong: a field given twice is reported at its second key, keys that are not
declared are skipped together with any complete value, and missing fields are
reported at the end, the first declared one first.

The number `room` says how many more containers may be opened inside each
other.  Skipped values are not counted.
-/
import ExecutionLink.Json.Fault
import ExecutionLink.Json.Value

namespace ExecutionLink.Json

/-- How values of a type are written and read. -/
structure Format (α : Type) where
  encode : α → Value
  decode : Nat → Tree → Except Fault α

/-- The number of containers that may be open at a time in a document. -/
def documentRoom : Nat := 127

/-- What is wrong when a tree is not of the expected kind. A literal without a
meaning is no JSON. -/
def mismatch (expected : String) : Tree → Fault
  | .broken => .malformed
  | .null => .invalidType .null expected
  | .bool b => .invalidType (.bool b) expected
  | .number n =>
    match Number.ofLiteral? n with
    | some n => .invalidType (.number n) expected
    | none => .malformed
  | .string s =>
    match text? s with
    | some s => .invalidType (.string s) expected
    | none => .malformed
  | .array .. => .invalidType .sequence expected
  | .object .. => .invalidType .map expected

/-- The text that a tree stands for. -/
def decodeText : Tree → Except Fault String
  | .string s =>
    match text? s with
    | some s => .ok s
    | none => .error .malformed
  | t => .error (mismatch "a string" t)

/-- The number that a tree stands for. -/
def decodeNumber (expected : String) : Tree → Except Fault Number
  | .number n =>
    match Number.ofLiteral? n with
    | some n => .ok n
    | none => .error .malformed
  | t => .error (mismatch expected t)

namespace Format

/-- Texts. -/
def text : Format String where
  encode := .string
  decode _ t := decodeText t

/-- Byte strings, written as hexadecimal text. -/
def bytes (n : Nat) : Format (FixedBytes n) where
  encode b := .string b.hex
  decode _ t := do
    let s ← decodeText t
    (FixedBytes.parse n s).mapError .bytes

/-- Unsigned 64-bit numbers, written as a string of digits; a bare integer is
read, too. -/
def quotedInteger : Format UInt64 where
  encode n := .string (Text.Natural.render n)
  decode room t :=
    match t.value? room with
    | none => .error .malformed
    | some (.string s) => (Text.Natural.read s).mapError .digits
    | some (.number (.natural n)) => .ok n
    | some _ => .error .notQuotedInteger

/-- An integer as a value; below zero it is written with its magnitude. -/
def integerValue (n : Int) : Value :=
  .number (if n < 0 then .negative n.natAbs else .natural (UInt64.ofNat n.natAbs))

/-- Signed 64-bit integers. -/
def integer64 : Format Int where
  encode := integerValue
  decode _ t := do
    match ← decodeNumber "i64" t with
    | .natural n =>
      if n.toNat < Nat.pow 2 63 then return n.toNat
      else throw (.invalidValue (.number (.natural n)) "i64")
    | .negative m => return -m
    | n => throw (.invalidType (.number n) "i64")

/-- Unsigned 16-bit integers. -/
def natural16 : Format Nat where
  encode n := .natural (UInt64.ofNat n)
  decode _ t := do
    match ← decodeNumber "u16" t with
    | .natural n =>
      if n.toNat < 65536 then return n.toNat
      else throw (.invalidValue (.number (.natural n)) "u16")
    | .negative m => throw (.invalidValue (.number (.negative m)) "u16")
    | n => throw (.invalidType (.number n) "u16")

/-- Values of any shape. -/
def any : Format Value where
  encode v := v
  decode room t :=
    match t.value? room with
    | some v => .ok v
    | none => .error .malformed

/-- A value or null. -/
def optional {α : Type} (f : Format α) : Format (Option α) where
  encode
    | some a => f.encode a
    | none => .null
  decode room t :=
    match t with
    | .null => .ok none
    | t => (f.decode room t).map some

/-- Lists, as arrays. -/
def list {α : Type} (f : Format α) : Format (List α) where
  encode as := .array (as.map f.encode)
  decode
    | room + 1, .array items closed => do
      let as ← items.mapM (f.decode room)
      if closed then return as else throw .malformed
    | 0, .array .. => .error .malformed
    | _, t => .error (mismatch "a sequence" t)

end Format

/-! ### Records -/

/-- The fields of a record in their declared order, each with its format. A
field may have a value for objects without its key (`absent`) and one for arrays
that end before it (`beyond`). -/
inductive Fields : Type → Type 1 where
  | nil : Fields Unit
  | cons {α β : Type} (name : String) (format : Format α) (absent beyond : Option α)
      (rest : Fields β) : Fields (α × β)

namespace Fields

/-- A field that must be given. -/
def required {α β : Type} (name : String) (format : Format α) (rest : Fields β) :
    Fields (α × β) :=
  .cons name format none none rest

/-- A field that objects may leave out. -/
def optional {α β : Type} (name : String) (format : Format α) (rest : Fields β) :
    Fields (Option α × β) :=
  .cons name format.optional (some none) none rest

/-- A field that objects may leave out and before which arrays may end. -/
def omissible {α β : Type} (name : String) (format : Format α) (rest : Fields β) :
    Fields (Option α × β) :=
  .cons name format.optional (some none) (some none) rest

/-- How many fields there are. -/
def count {α : Type} : Fields α → Nat
  | .nil => 0
  | .cons _ _ _ _ rest => rest.count + 1

/-- The members of the written object. -/
def encode {α : Type} : Fields α → α → List (String × Value)
  | .nil, () => []
  | .cons name format _ _ rest, (a, as) => (name, format.encode a) :: rest.encode as

/-- For each field the value read so far, if it has been read. -/
def Slots : {α : Type} → Fields α → Type
  | _, .nil => Unit
  | _, .cons (α := α) _ _ _ _ rest => Option α × rest.Slots

/-- No field has been read. -/
def unread : {α : Type} → (fields : Fields α) → fields.Slots
  | _, .nil => ()
  | _, .cons _ _ _ _ rest => (none, rest.unread)

/-- Reads the value of the field `key`; nothing if no field has this name. -/
def fill (room : Nat) (key : String) (t : Tree) :
    {α : Type} → (fields : Fields α) → fields.Slots → Option (Except Fault fields.Slots)
  | _, .nil, _ => none
  | _, .cons (α := α) name format _ _ rest, slots =>
    let (slot, others) : Option α × rest.Slots := slots
    if key = name then
      match slot with
      | some _ => some (.error (.duplicateField name))
      | none => some ((format.decode room t).map fun a => (some a, others))
    else (rest.fill room key t others).map fun r => r.map fun others => (slot, others)

/-- Reads the members of an object, in the order they are written. -/
def fillAll {α : Type} (room : Nat) (fields : Fields α) :
    List (StringLiteral × Tree) → fields.Slots → Except Fault fields.Slots
  | [], slots => .ok slots
  | (key, t) :: members, slots =>
    match text? key with
    | none => .error .malformed
    | some key =>
      match fields.fill room key t slots with
      | some (.ok slots) => fillAll room fields members slots
      | some (.error fault) => .error fault
      | none => if t.isComplete then fillAll room fields members slots else .error .malformed

/-- The values of all fields once the object has been read. -/
def finish : {α : Type} → (fields : Fields α) → fields.Slots → Except Fault α
  | _, .nil, _ => .ok ()
  | _, .cons (α := α) name _ absent _ rest, slots =>
    let (slot, others) : Option α × rest.Slots := slots
    match slot.or absent with
    | none => .error (.missingField name)
    | some a => (rest.finish others).map fun as => (a, as)

/-- Reads the items of an array as the fields in their order. `short` is the
fault when the array is closed before a field that must be given, and `long` the
one when it goes on behind the last field. -/
def decodeItems (room : Nat) (short long : Fault) (closed : Bool) :
    {α : Type} → Fields α → List Tree → Except Fault α
  | _, .nil, [] => if closed then .ok () else .error .malformed
  | _, .nil, _ :: _ => .error long
  | _, .cons _ _ _ beyond rest, [] =>
    if closed then
      match beyond with
      | none => .error short
      | some a => (rest.decodeItems room short long closed []).map fun as => (a, as)
    else .error .malformed
  | _, .cons _ format _ _ rest, t :: ts => do
    let a ← format.decode room t
    let as ← rest.decodeItems room short long closed ts
    return (a, as)

/-- Reads a record called `name`. -/
def decode {α : Type} (name : String) (fields : Fields α) : Nat → Tree → Except Fault α
  | room + 1, .array items closed =>
    fields.decodeItems room (.invalidLength items.length name fields.count)
      (.surplusItems items.length) closed items
  | room + 1, .object members closed => do
    let slots ← fields.fillAll room members fields.unread
    if closed then fields.finish slots else throw .malformed
  | 0, .array .. | 0, .object .. => .error .malformed
  | _, t => .error (mismatch s!"struct {name}" t)

end Fields

namespace Format

/-- Records of the given fields; `toFields` and `ofFields` go between the record
and the tuple of its fields. -/
def record {α β : Type} (name : String) (fields : Fields β) (toFields : α → β)
    (ofFields : β → α) : Format α where
  encode a := .object (fields.encode (toFields a))
  decode room t := (fields.decode name room t).map ofFields

/-- The written text of a value. -/
def write {α : Type} (f : Format α) (a : α) : String :=
  (f.encode a).render

/-- Reads a value from a document; behind the value nothing may follow. -/
def readDocument {α : Type} (f : Format α) (d : Document) : Except Fault α := do
  let a ← (f.decode documentRoom d.tree).mapError Fault.inText
  if d.complete then return a else throw .malformed

/-- Reads a text. -/
def read {α : Type} (f : Format α) (s : String) : Except Fault α :=
  f.readDocument (Document.ofText s)

/-- Reads a value that is known as a whole. -/
def readValue {α : Type} (f : Format α) (v : Value) : Except Fault α :=
  f.decode documentRoom (Document.ofText v.render).tree

end Format

end ExecutionLink.Json
