/-
A JSON text as far as it can be read.

`Document.ofTokens` turns tokens into a tree with one step per token, keeping
the containers that are still open on a stack.  It never fails: where the text
stops making sense, the value that should have come there is `broken` and every
container that was open stays unclosed.  A reader that looks at the tree from
left to right therefore meets what is wrong with the text exactly where a
reader of the text would, after everything that comes before it.

`Tree.isComplete` says that nothing is broken or unclosed.
-/
import ExecutionLink.Json.Token

namespace ExecutionLink.Json

/-- A value as written, perhaps cut short. Arrays and objects say whether they
were closed. -/
inductive Tree where
  | broken
  | null
  | bool (b : Bool)
  | number (n : NumberLiteral)
  | string (s : StringLiteral)
  | array (items : List Tree) (closed : Bool)
  | object (members : List (StringLiteral × Tree)) (closed : Bool)
  deriving Repr

/-- A container that is still open, with what it holds so far, latest first; an
object also has the key whose value comes next. -/
inductive Frame where
  | array (done : List Tree)
  | object (done : List (StringLiteral × Tree)) (key : StringLiteral)

/-- A value with the rest of the text: `complete` says that nothing follows. -/
structure Document where
  tree : Tree
  complete : Bool

namespace Frame

/-- The open container with one more value, and then closed or not. -/
def close (frame : Frame) (t : Tree) (closed : Bool) : Tree :=
  match frame with
  | .array done => .array (t :: done).reverse closed
  | .object done key => .object ((key, t) :: done).reverse closed

end Frame

namespace Document

/-- The document when the text breaks off: all open containers stay unclosed. -/
def abandon : List Frame → Tree → Document
  | [], t => ⟨t, false⟩
  | frame :: stack, t => abandon stack (frame.close t false)

mutual

/-- Reads tokens where a value must come. -/
def readValue : List Token → List Frame → Document
  | .null :: ts, stack => readAfter ts stack .null
  | .bool b :: ts, stack => readAfter ts stack (.bool b)
  | .number n :: ts, stack => readAfter ts stack (.number n)
  | .string s :: ts, stack => readAfter ts stack (.string s)
  | .openArray :: .closeArray :: ts, stack => readAfter ts stack (.array [] true)
  | .openArray :: ts, stack => readValue ts (.array [] :: stack)
  | .openObject :: .closeObject :: ts, stack => readAfter ts stack (.object [] true)
  | .openObject :: .string key :: .colon :: ts, stack => readValue ts (.object [] key :: stack)
  | .openObject :: .string key :: _, stack => abandon (.object [] key :: stack) .broken
  | .openObject :: _, stack => abandon stack (.object [] false)
  | _, stack => abandon stack .broken

/-- Reads tokens after a value has been read. -/
def readAfter : List Token → List Frame → Tree → Document
  | ts, [], t => ⟨t, ts.isEmpty⟩
  | .comma :: ts, .array done :: stack, t => readValue ts (.array (t :: done) :: stack)
  | .closeArray :: ts, .array done :: stack, t =>
    readAfter ts stack (.array (t :: done).reverse true)
  | .comma :: .string key' :: .colon :: ts, .object done key :: stack, t =>
    readValue ts (.object ((key, t) :: done) key' :: stack)
  | .comma :: .string key' :: _, .object done key :: stack, t =>
    abandon (.object ((key, t) :: done) key' :: stack) .broken
  | .closeObject :: ts, .object done key :: stack, t =>
    readAfter ts stack (.object ((key, t) :: done).reverse true)
  | _, frame :: stack, t => abandon stack (frame.close t false)

end

/-- The document that a list of tokens is. -/
def ofTokens (ts : List Token) : Document :=
  readValue ts []

/-- The document that a text is. -/
def ofText (s : String) : Document :=
  ofTokens (Token.ofText s.toList)

end Document

namespace Tree

mutual

/-- Whether the value was read to its end. -/
def isComplete : Tree → Bool
  | .broken => false
  | .null | .bool _ | .number _ | .string _ => true
  | .array items closed => allComplete items && closed
  | .object members closed => allMembersComplete members && closed

/-- Whether all items were read to their ends. -/
def allComplete : List Tree → Bool
  | [] => true
  | t :: ts => t.isComplete && allComplete ts

/-- Whether the values of all members were read to their ends. -/
def allMembersComplete : List (StringLiteral × Tree) → Bool
  | [] => true
  | (_, t) :: ms => t.isComplete && allMembersComplete ms

end

end Tree

end ExecutionLink.Json
