/-
Parties that answer calls, not necessarily at once.

A call is started, resumed until it is answered, or given up; meanwhile other
calls may be started and resumed, and everybody acts on one common state.  A
delegate says what each of these steps does.  Clients are built from other
delegates: `Delegate.via` asks another delegate and reads its answer.
-/

namespace ExecutionLink

/-- What a resumed call comes to. -/
inductive Progress (π ρ : Type) where
  | answered (result : ρ)
  | pending (call : π)
  deriving Repr, DecidableEq

/-- A party that answers calls `c : ι` with results of type `ρ c`, acting on
states of type `σ`. -/
structure Delegate (σ ι : Type) (ρ : ι → Type) where
  /-- What is kept of a call until it is answered. -/
  Pending : ι → Type
  start : (c : ι) → σ → Pending c × σ
  resume : (c : ι) → Pending c → σ → Progress (Pending c) (ρ c) × σ
  giveUp : (c : ι) → Pending c → σ → σ

namespace Delegate

variable {σ ι κ : Type} {ρ : ι → Type} {τ : κ → Type}

/-- Starts a call and resumes it once. -/
def call (d : Delegate σ ι ρ) (c : ι) (s : σ) : Progress (d.Pending c) (ρ c) × σ :=
  let (pending, s) := d.start c s
  d.resume c pending s

/-- A delegate that answers as soon as it is resumed. -/
def immediate (answer : (c : ι) → σ → ρ c × σ) : Delegate σ ι ρ where
  Pending _ := Unit
  start _ s := ((), s)
  resume c _ s := let (r, s) := answer c s; (.answered r, s)
  giveUp _ _ s := s

/-- A delegate that passes requests on to another and reads the answers. -/
def via (d : Delegate σ κ τ) (request : ι → κ) (read : (c : ι) → τ (request c) → ρ c) :
    Delegate σ ι ρ where
  Pending c := d.Pending (request c)
  start c s := d.start (request c) s
  resume c pending s :=
    match d.resume (request c) pending s with
    | (.answered r, s) => (.answered (read c r), s)
    | (.pending pending, s) => (.pending pending, s)
  giveUp c pending s := d.giveUp (request c) pending s

/-- A delegate that acts on a part of a larger state. -/
def onPart {υ : Type} (d : Delegate σ ι ρ) (part : υ → σ) (replace : σ → υ → υ) :
    Delegate υ ι ρ where
  Pending := d.Pending
  start c u := let (pending, s) := d.start c (part u); (pending, replace s u)
  resume c pending u := let (progress, s) := d.resume c pending (part u); (progress, replace s u)
  giveUp c pending u := replace (d.giveUp c pending (part u)) u

/-- A delegate that changes the state by `announce` when a call is started. -/
def announced (d : Delegate σ ι ρ) (announce : ι → σ → σ) : Delegate σ ι ρ :=
  { d with start := fun c s => d.start c (announce c s) }

end Delegate

end ExecutionLink
