/-
JSON values and their compact written form.

`Value.render` writes a value without any white space, members in the order in
which the object has them.  `Tree.value?` is the reading of a tree into a value
of any shape: it fails if something in the tree is broken, a string has an
unpaired surrogate, a number is too large, or more containers are open inside
each other than `room` allows.  Objects read this way are in the order of their
keys, and of members with the same key the last one counts.
-/
import ExecutionLink.Json.Tree
import ExecutionLink.Json.Number

namespace ExecutionLink.Json

/-- A JSON value. -/
inductive Value where
  | null
  | bool (b : Bool)
  | number (n : Number)
  | string (s : String)
  | array (items : List Value)
  | object (members : List (String × Value))
  deriving Repr

namespace Value

/-- A number that is an unsigned 64-bit integer. -/
def natural (n : UInt64) : Value :=
  .number (.natural n)

/-- The value of a member; null if there is no such member. -/
def member (v : Value) (name : String) : Value :=
  match v with
  | .object members => (members.lookup name).getD .null
  | _ => .null

/-! ### Writing -/

/-- The hexadecimal digits of a number below 65536, four of them. -/
def unitDigits (n : Nat) : List Char :=
  [Hex.digit (n / 4096), Hex.digit (n / 256 % 16), Hex.digit (n / 16 % 16), Hex.digit (n % 16)]

/-- The form of one character inside a string: only quotes, backslashes and
control characters are escaped. -/
def escape (c : Char) : List Char :=
  if c = '"' then ['\\', '"']
  else if c = '\\' then ['\\', '\\']
  else if c = '\x08' then ['\\', 'b']
  else if c = '\x0c' then ['\\', 'f']
  else if c = '\n' then ['\\', 'n']
  else if c = '\r' then ['\\', 'r']
  else if c = '\t' then ['\\', 't']
  else if c.toNat < 0x20 then '\\' :: 'u' :: unitDigits c.toNat
  else [c]

/-- A string between its quotes. -/
def stringChars (s : String) : List Char :=
  '"' :: s.toList.flatMap escape ++ ['"']

mutual

/-- The compact written form. -/
def chars : Value → List Char
  | .null => ['n', 'u', 'l', 'l']
  | .bool true => ['t', 'r', 'u', 'e']
  | .bool false => ['f', 'a', 'l', 's', 'e']
  | .number n => n.chars
  | .string s => stringChars s
  | .array items => '[' :: itemsChars items ++ [']']
  | .object members => '{' :: membersChars members ++ ['}']

/-- The items of an array, separated by commas. -/
def itemsChars : List Value → List Char
  | [] => []
  | [v] => v.chars
  | v :: w :: vs => v.chars ++ ',' :: itemsChars (w :: vs)

/-- The members of an object, separated by commas. -/
def membersChars : List (String × Value) → List Char
  | [] => []
  | [(k, v)] => stringChars k ++ ':' :: v.chars
  | (k, v) :: m :: ms => stringChars k ++ ':' :: v.chars ++ ',' :: membersChars (m :: ms)

end

/-- The compact written form. -/
def render (v : Value) : String :=
  String.ofList v.chars

/-! ### Order of members -/

/-- Puts a member into a list that is sorted by key, in place of one with the
same key. -/
def insertMember (key : String) (v : Value) : List (String × Value) → List (String × Value)
  | [] => [(key, v)]
  | (k, w) :: ms =>
    if key < k then (key, v) :: (k, w) :: ms
    else if key = k then (key, v) :: ms
    else (k, w) :: insertMember key v ms

/-- The members in the order of their keys; the last of equal keys stays. -/
def sortMembers (ms : List (String × Value)) : List (String × Value) :=
  ms.foldl (fun sorted (k, v) => insertMember k v sorted) []

mutual

/-- The value with the members of all objects in the order of their keys. -/
def sorted : Value → Value
  | .array items => .array (sortedItems items)
  | .object members => .object (sortMembers (sortedMembers members))
  | v => v

/-- Sorts each item. -/
def sortedItems : List Value → List Value
  | [] => []
  | v :: vs => v.sorted :: sortedItems vs

/-- Sorts the value of each member. -/
def sortedMembers : List (String × Value) → List (String × Value)
  | [] => []
  | (k, v) :: ms => (k, v.sorted) :: sortedMembers ms

end

end Value

/-! ### Reading -/

namespace Tree

mutual

/-- The value of a tree, if at most `room` containers are open at a time. -/
def value? (room : Nat) : Tree → Option Value
  | .broken => none
  | .null => some .null
  | .bool b => some (.bool b)
  | .number n => (Number.ofLiteral? n).map .number
  | .string s => (text? s).map .string
  | .array items closed =>
    match room with
    | 0 => none
    | room + 1 => if closed then (values? room items).map .array else none
  | .object members closed =>
    match room with
    | 0 => none
    | room + 1 =>
      if closed then (memberValues? room members).map fun ms => .object (Value.sortMembers ms)
      else none

/-- The values of the items of an array. -/
def values? (room : Nat) : List Tree → Option (List Value)
  | [] => some []
  | t :: ts => do
    let v ← t.value? room
    let vs ← values? room ts
    return v :: vs

/-- The members of an object, in the order they are written. -/
def memberValues? (room : Nat) : List (StringLiteral × Tree) → Option (List (String × Value))
  | [] => some []
  | (k, t) :: ms => do
    let k ← text? k
    let v ← t.value? room
    let vs ← memberValues? room ms
    return (k, v) :: vs

end

end Tree

end ExecutionLink.Json
