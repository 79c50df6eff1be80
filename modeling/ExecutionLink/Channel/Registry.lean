/-
The place where a channel is published, once, for everybody who asked for it.

Who subscribes gets a receiver.  A receiver waits until it is sent the channel
or until the registry is closed; who subscribes after the publication is sent
the channel at once.  Publishing takes two steps, `setPublished` and `deliver`,
between which others may subscribe or look at the published channel; `publish`
is the two in a row.  A receiver may be dropped by its holder at any time, and
what is sent to it afterwards is lost.
-/
import ExecutionLink.Error

namespace ExecutionLink

/-- What a receiver has been told. -/
inductive Receiver.Slot (κ : Type) where
  | waiting
  | sent (channel : κ)
  /-- The channel was sent and has been taken out. -/
  | taken
  | closed
  deriving Repr, DecidableEq

/-- A subscriber's end. -/
structure Receiver (κ : Type) where
  slot : Receiver.Slot κ
  /-- Whether the subscriber still holds it. -/
  held : Bool := true
  deriving Repr, DecidableEq

namespace Receiver

variable {κ : Type}

/-- Sends the channel, unless nobody holds the receiver any more. -/
def send (channel : κ) (r : Receiver κ) : Receiver κ :=
  if r.held then { r with slot := .sent channel } else r

/-- Tells a receiver that nothing will be sent. -/
def close (r : Receiver κ) : Receiver κ :=
  if r.slot matches .waiting then { r with slot := .closed } else r

end Receiver

/-- What a subscriber sees who looks at a receiver. -/
inductive Glance (κ : Type) where
  | pending
  | ready (channel : κ)
  /-- Nothing will come, or what came has been taken out before. -/
  | closed
  deriving Repr, DecidableEq

/-- A registry; receivers are known by the order in which they were handed out,
and `pending` lists those that wait, the dropped ones among them. -/
structure ChannelRegistry (κ : Type) where
  published : Option κ := none
  pending : List Nat := []
  receivers : List (Receiver κ) := []
  deriving Repr, DecidableEq

namespace ChannelRegistry

variable {κ : Type}

/-- The registry before anything happened. -/
def empty : ChannelRegistry κ := {}

/-- The receiver with a given number. -/
def receiver? (r : ChannelRegistry κ) (i : Nat) : Option (Receiver κ) := r.receivers[i]?

/-- Whether a receiver is still held. -/
def isHeld (r : ChannelRegistry κ) (i : Nat) : Bool :=
  (r.receiver? i).elim false (·.held)

/-- Hands out a receiver, and says its number. -/
def subscribe (r : ChannelRegistry κ) : Nat × ChannelRegistry κ :=
  let i := r.receivers.length
  match r.published with
  | some channel => (i, { r with receivers := r.receivers ++ [{ slot := .sent channel }] })
  | none =>
    (i, { r with
      pending := r.pending ++ [i]
      receivers := r.receivers ++ [{ slot := .waiting }] })

/-- The first step of publishing: there can be only one channel. -/
def setPublished (r : ChannelRegistry κ) (channel : κ) :
    Except ServiceError (ChannelRegistry κ) :=
  match r.published with
  | some _ => .error (.invalidState "execution layer channel already published")
  | none => .ok { r with published := some channel }

/-- The second step of publishing: sends the channel to everybody who waits, and
says how many of them still held their receivers. -/
def deliver (r : ChannelRegistry κ) (channel : κ) : Nat × ChannelRegistry κ :=
  (r.pending.countP r.isHeld,
    { r with
      pending := []
      receivers := r.pending.foldl (fun rs i => rs.modify i (·.send channel)) r.receivers })

/-- Publishes a channel, and says how many subscribers it was sent to. -/
def publish (r : ChannelRegistry κ) (channel : κ) :
    Except ServiceError (Nat × ChannelRegistry κ) :=
  (r.setPublished channel).map (·.deliver channel)

/-- Releases everybody who waits, and says how many receivers were pending. -/
def close (r : ChannelRegistry κ) : Nat × ChannelRegistry κ :=
  (r.pending.length,
    { r with
      pending := []
      receivers := r.pending.foldl (fun rs i => rs.modify i (·.close)) r.receivers })

/-- A holder looks at a receiver and takes out the channel if it is there. -/
def poll (r : ChannelRegistry κ) (i : Nat) : Glance κ × ChannelRegistry κ :=
  match r.receiver? i with
  | some ⟨.waiting, _⟩ => (.pending, r)
  | some ⟨.sent channel, _⟩ =>
    (.ready channel, { r with receivers := r.receivers.modify i ({ · with slot := .taken }) })
  | _ => (.closed, r)

/-- A holder lets go of a receiver. -/
def drop (r : ChannelRegistry κ) (i : Nat) : ChannelRegistry κ :=
  { r with receivers := r.receivers.modify i ({ · with held := false }) }

end ChannelRegistry

end ExecutionLink
