/-
Clients whose calls are counted.

A metered client passes its calls on unchanged and gives their results back
unchanged.  When a call is answered it counts one sample, under the call's
method and outcome and with the time since the call was started; a call that is
given up is not counted.
-/
import ExecutionLink.Clock
import ExecutionLink.Delegate
import ExecutionLink.Metrics.CounterMatrix

namespace ExecutionLink

/-- How calls are counted: what their methods and outcomes are, what the clock
shows in a state, and how a sample is recorded there. -/
structure Metering (σ ι : Type) (ρ : ι → Type) where
  method : ι → String
  outcome : {c : ι} → ρ c → Outcome
  clock : σ → Clock
  record : Sample → σ → σ

namespace Metering

variable {σ ι : Type} {ρ : ι → Type}

/-- The sample of a call that was started at `start` and is answered now. -/
def sample (m : Metering σ ι ρ) {c : ι} (start : UInt64) (result : ρ c) (s : σ) : Sample :=
  ⟨⟨m.method c, m.outcome result⟩, Clock.elapsed start (m.clock s).millis⟩

end Metering

/-- The client whose calls go through `d` and are counted. -/
def Delegate.metered {σ ι : Type} {ρ : ι → Type} (d : Delegate σ ι ρ) (m : Metering σ ι ρ) :
    Delegate σ ι ρ where
  Pending c := UInt64 × d.Pending c
  start c s :=
    let start := (m.clock s).millis
    let (pending, s) := d.start c s
    ((start, pending), s)
  resume c call s :=
    match d.resume c call.2 s with
    | (.answered r, s) => (.answered r, m.record (m.sample call.1 r s) s)
    | (.pending pending, s) => (.pending (call.1, pending), s)
  giveUp c call s := d.giveUp c call.2 s

end ExecutionLink
