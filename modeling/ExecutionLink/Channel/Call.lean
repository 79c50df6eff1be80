/-
Everything that is asked of the execution layer.

A channel answers questions about the engine and calls to the builder alike.
-/
import ExecutionLink.Builder

namespace ExecutionLink

/-- A call on a channel. -/
inductive ChannelCall where
  /-- Whether the engine is still syncing. -/
  | engineSyncing
  | builder (call : BuilderCall)

/-- What a successful call gives. -/
abbrev ChannelCall.Payload : ChannelCall → Type
  | .engineSyncing => Bool
  | .builder call => call.Payload

/-- A party that answers the calls on a channel. -/
abbrev ChannelClient (σ : Type) := Delegate σ ChannelCall fun c => CallResult c.Payload

/-- A party that answers the calls to a builder. -/
abbrev BuilderClient (σ : Type) := Delegate σ BuilderCall fun c => CallResult c.Payload

/-- A party that answers the question about the engine. -/
abbrev EngineClient (σ : Type) := Delegate σ Unit fun _ => CallResult Bool

end ExecutionLink
