/-
The channel to a real engine and, if there is one, a real builder.

It adds nothing to the calls of its two clients.  Without a builder every call
to one is refused, and nobody is asked.
-/
import ExecutionLink.Channel.Call

namespace ExecutionLink.Live

variable {σ : Type}

/-- The builder of a channel that has none. -/
def noBuilder : BuilderClient σ :=
  .immediate fun _ s => (.error .builderNotConfigured, s)

/-- What is kept of a call until it is answered. -/
abbrev Pending (engine : EngineClient σ) (builder : BuilderClient σ) : ChannelCall → Type
  | .engineSyncing => engine.Pending ()
  | .builder c => builder.Pending c

/-- The channel to an engine and a builder. -/
def client (engine : EngineClient σ) (builder : BuilderClient σ) : ChannelClient σ where
  Pending := Pending engine builder
  start
    | .engineSyncing, s => engine.start () s
    | .builder c, s => builder.start c s
  resume
    | .engineSyncing, pending, s => engine.resume () pending s
    | .builder c, pending, s => builder.resume c pending s
  giveUp
    | .engineSyncing, pending, s => engine.giveUp () pending s
    | .builder c, pending, s => builder.giveUp c pending s

end ExecutionLink.Live
