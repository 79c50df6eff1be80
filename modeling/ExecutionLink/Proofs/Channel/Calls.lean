/-
What a call on a channel does to the site and to its peers.

How the peers behave is left open: they act on a state of their own and on the
clock, and are sent requests by `reached`, which notes them down.  Neither the
metrics nor what was noted down is theirs to touch (`CallState.untouched`), so all
that becomes of it is the channel's own doing:

* `Channel.start_client` — a call that begins counts nothing and sends its request,
  if it has one.
* `Channel.resume_client` — a call to a live builder is counted when it is answered,
  and no other call ever is.
* `Channel.giveUp_client` — a call that is given up is not counted.
* `Channel.call_noBuilder`, `Channel.answers_of_resume` — a live channel without a
  builder refuses calls to one.
-/
import ExecutionLink.Channel.Basic
import ExecutionLink.Proofs.Metrics.Transparency

namespace ExecutionLink

variable {ν : Type}

/-- The peers as a channel reaches them. The requests that are sent to them are
noted down in the state. -/
def reached (peers : Http.Transport (ν × Clock)) :
    Http.Transport (CallState (List Http.Sent × ν)) :=
  (peers.onPart (fun s => (s.network.2, s.site.clock)) fun (network, clock) s =>
    { s with network := (s.network.1, network), site.clock := clock }).announced fun r s =>
      { s with network := (s.network.1 ++ [r], s.network.2) }

/-- What the peers leave alone: the metrics and what was noted down. -/
def CallState.untouched (s : CallState (List Http.Sent × ν)) : MetricsRegistry × List Http.Sent :=
  (s.site.metrics, s.network.1)

theorem untouched_resume_reached (peers : Http.Transport (ν × Clock)) (r : Http.Sent)
    (pending : (reached peers).Pending r) (s : CallState (List Http.Sent × ν)) :
    ((reached peers).resume r pending s).2.untouched = s.untouched := rfl

theorem untouched_resume_builder (peers : Http.Transport (ν × Clock)) (url : Url) (c : BuilderCall)
    (pending : (BuilderCall.client (reached peers) url).Pending c)
    (s : CallState (List Http.Sent × ν)) :
    ((BuilderCall.client (reached peers) url).resume c pending s).2.untouched = s.untouched := by
  have hreached := untouched_resume_reached peers (c.sent url) pending s
  unfold BuilderCall.client Delegate.via
  dsimp only
  generalize (reached peers).resume (c.sent url) pending s = resumed at hreached ⊢
  obtain ⟨received | pending', s'⟩ := resumed <;> exact hreached

theorem untouched_resume_engine (peers : Http.Transport (ν × Clock)) (url : Url)
    (call : (Engine.client CallState.takeNumber (reached peers) url).Pending ())
    (s : CallState (List Http.Sent × ν)) :
    ((Engine.client CallState.takeNumber (reached peers) url).resume () call s).2.untouched =
      s.untouched := by
  have hreached := untouched_resume_reached peers (Engine.sent url call.1) call.2 s
  unfold Engine.client
  dsimp only
  generalize (reached peers).resume (Engine.sent url call.1) call.2 s = resumed at hreached ⊢
  obtain ⟨received | pending', s'⟩ := resumed <;> exact hreached

namespace Channel

/-- The requests of a call. -/
def requests (channel : Channel) (c : ChannelCall) (numbering : Engine.Numbering) :
    List Http.Sent :=
  match channel, c with
  | .live engine _, .engineSyncing => [Engine.sent engine numbering.next]
  | .live _ (some builder), .builder c => [c.sent builder]
  | _, _ => []

/-- The series under which the result of a call is to be counted. -/
def series? (channel : Channel) (c : ChannelCall) (result : CallResult c.Payload) :
    Option Series :=
  match c, channel with
  | .builder c, .live _ (some _) => some ⟨c.label, Outcome.ofCall result⟩
  | _, _ => none

theorem start_client (peers : Http.Transport (ν × Clock)) (channel : Channel) (c : ChannelCall)
    (s : CallState (List Http.Sent × ν)) :
    ((channel.client (reached peers)).start c s).2.untouched =
      (s.site.metrics, s.network.1 ++ channel.requests c s.numbering) := by
  cases channel with
  | stub => exact Prod.ext rfl (List.append_nil _).symm
  | live engine builder =>
    cases c with
    | engineSyncing => rfl
    | builder c =>
      cases builder with
      | none => exact Prod.ext rfl (List.append_nil _).symm
      | some url => rfl

theorem giveUp_client (peers : Http.Transport (ν × Clock)) (channel : Channel) (c : ChannelCall)
    (pending : (channel.client (reached peers)).Pending c) (s : CallState (List Http.Sent × ν)) :
    ((channel.client (reached peers)).giveUp c pending s).untouched = s.untouched := by
  cases channel with
  | stub => rfl
  | live engine builder =>
    cases c with
    | engineSyncing => rfl
    | builder c => cases builder <;> rfl

/-- What is counted when a call is resumed: an answer of a builder, and nothing as
long as there is none. -/
def counted {π : Type} (channel : Channel) (c : ChannelCall) :
    Progress π (CallResult c.Payload) → List Series
  | .answered result => (channel.series? c result).toList
  | .pending _ => []

/-- A call is counted when it is answered, and only if it is one to a builder. -/
theorem resume_client (peers : Http.Transport (ν × Clock)) (channel : Channel) (c : ChannelCall)
    (pending : (channel.client (reached peers)).Pending c) (s : CallState (List Http.Sent × ν)) :
    let resumed := (channel.client (reached peers)).resume c pending s
    ∃ xs : List Sample,
      resumed.2.untouched = (xs.foldl MetricsRegistry.record s.site.metrics, s.network.1) ∧
      xs.map Sample.series = channel.counted c resumed.1 := by
  cases channel with
  | stub => cases c <;> exact ⟨[], rfl, rfl⟩
  | live engine builder =>
    cases c with
    | engineSyncing =>
      intro resumed
      refine ⟨[], untouched_resume_engine peers engine pending s, ?_⟩
      cases resumed.1 <;> rfl
    | builder c =>
      cases builder with
      | none => exact ⟨[], rfl, rfl⟩
      | some url =>
        intro resumed
        obtain ⟨start, pending⟩ := pending
        have hbuilder := untouched_resume_builder peers url c pending s
        have hresumed : resumed = ((BuilderCall.client (reached peers) url).metered
          CallState.builderMetering).resume c (start, pending) s := rfl
        rw [Delegate.resume_metered] at hresumed
        rw [hresumed]
        generalize (BuilderCall.client (reached peers) url).resume c pending s = answer
          at hbuilder ⊢
        obtain ⟨result | pending', s'⟩ := answer
        · obtain ⟨hmetrics, hnoted⟩ := Prod.mk.inj hbuilder
          refine ⟨[_], Prod.ext (congrArg (MetricsRegistry.record · _) hmetrics) hnoted, ?_⟩
          show [Series.mk c.method (Outcome.ofCall result)] = [⟨c.label, Outcome.ofCall result⟩]
          rw [c.method_eq_label]
        · exact ⟨[], hbuilder, rfl⟩

/-- Without a builder a call to one is refused at once. Nothing happens to anybody. -/
theorem call_noBuilder (peers : Http.Transport (ν × Clock)) (engine : Url) (c : BuilderCall)
    (s : CallState (List Http.Sent × ν)) :
    ((live engine none).client (reached peers)).call (.builder c) s =
      (.answered (.error .builderNotConfigured), s) := by
  have hlog : s.site.tell [] = s.site := by rw [Site.tell, List.append_nil]
  show (Progress.answered _, { s with site := s.site.tell [] }) = _
  rw [hlog]
  rfl

/-- The result is one that the channel can give. -/
def Answers (channel : Channel) (c : ChannelCall) (result : CallResult c.Payload) : Prop :=
  match c, channel with
  | .builder _, .live _ none => result = .error .builderNotConfigured
  | _, _ => True

theorem answers_of_resume {peers : Http.Transport (ν × Clock)} {channel : Channel}
    {c : ChannelCall} {pending : (channel.client (reached peers)).Pending c}
    {s s' : CallState (List Http.Sent × ν)} {result : CallResult c.Payload}
    (h : (channel.client (reached peers)).resume c pending s = (.answered result, s')) :
    channel.Answers c result := by
  cases channel with
  | stub => cases c <;> trivial
  | live engine builder =>
    cases c with
    | engineSyncing => trivial
    | builder c =>
      cases builder with
      | some url => trivial
      | none =>
        cases h
        rfl

end Channel

end ExecutionLink
