/-
Who is left waiting by a service that has been stopped.

Stopping releases everybody who waits, but it does not keep others from
subscribing afterwards.  If a start came before the stop, they are sent the
channel at once.  If none did, none can come any more, and they wait until the
service is stopped once again, which may never happen.

* `StoppedSince` — what the registry looks like since the last stop.
* `released_of_stopped_iff` — nobody is left waiting exactly if a start has
  succeeded or nobody has subscribed since the last stop.
* `not_released_of_stopped` — so it is not true that a stopped service leaves
  nobody waiting.
-/
import ExecutionLink.Proofs.Service.Lifecycle

namespace ExecutionLink.Service

variable {config : Configuration} {site site' : Site} {s : Service}

/-- Nobody is left waiting: each receiver that is held is settled, and none is
pending. -/
def Released (s : Service) : Prop :=
  (∀ i x, s.channels.receiver? i = some x → x.held → x.Settled) ∧ s.channels.pending = []

/-- Whether a call is a subscription. -/
def Call.isSubscribe : Call → Bool
  | .subscribe => true
  | _ => false

theorem Call.countP_isSubscribe_eq_zero {calls : List Call} :
    calls.countP isSubscribe = 0 ↔ .subscribe ∉ calls := by
  rw [List.countP_eq_zero]
  constructor
  · intro h hmem
    exact h _ hmem rfl
  · intro h a ha
    cases a with
    | subscribe => exact absurd ha h
    | _ => exact Bool.false_ne_true

namespace Session

variable {x : Session} {n k : Nat}

/-- The service has been stopped when there were `n` receivers, and `k` more
have been handed out since. -/
structure StoppedSince (n k : Nat) (x : Session) : Prop where
  state : x.service.state = .stopped
  length : x.service.channels.receivers.length = n + k
  pending : x.service.channels.pending =
    if x.service.channel.isSome then [] else List.range' n k

theorem stoppedSince_stop (x : Session) :
    (x.call .stop).StoppedSince x.service.channels.receivers.length 0 where
  state := rfl
  length := ChannelRegistry.length_close x.service.channels
  pending := by
    rw [List.range'_zero, ite_self]
    rfl

namespace StoppedSince

/-- A new receiver is pending if nothing is published. -/
theorem subscribe (h : x.StoppedSince n k) : (x.call .subscribe).StoppedSince n (k + 1) where
  state := h.state
  length := by
    rw [← Nat.add_assoc, ← h.length]
    exact ChannelRegistry.length_subscribe x.service.channels
  pending := by
    have hchannel : (x.call .subscribe).service.channel = x.service.channel :=
      ChannelRegistry.published_subscribe _
    rw [hchannel]
    refine (ChannelRegistry.pending_subscribe x.service.channels).trans ?_
    rw [h.pending, h.length]
    show (if x.service.channel.isSome then _ else _) = _
    by_cases hsome : x.service.channel.isSome
    · simp [hsome]
    · simp [hsome, List.range'_concat]

/-- Any other call but a stop leaves the pending list as it is. -/
theorem call (h : x.StoppedSince n k) {a : Call} (ha : a ≠ .stop) :
    (x.call a).StoppedSince n (k + [a].countP Call.isSubscribe) := by
  cases a with
  | start =>
    have hlate : x.service.state ≠ .created := by
      rw [h.state]
      nofun
    unfold Session.call answer
    rw [start_late hlate]
    exact ⟨h.state, h.length, h.pending⟩
  | stop => exact absurd rfl ha
  | subscribe => exact h.subscribe
  | look i =>
    refine ⟨h.state, (ChannelRegistry.length_poll _ i).trans h.length, ?_⟩
    refine (ChannelRegistry.pending_poll _ i).trans (h.pending.trans ?_)
    show _ = if (x.service.channels.poll i).2.published.isSome then _ else _
    rw [ChannelRegistry.published_poll]
    rfl
  | drop i => exact ⟨h.state, (ChannelRegistry.length_drop _ i).trans h.length, h.pending⟩
  | _ => exact ⟨h.state, h.length, h.pending⟩

theorem after (h : x.StoppedSince n k) {calls : List Call} (hstop : .stop ∉ calls) :
    (x.after calls).StoppedSince n (k + calls.countP Call.isSubscribe) := by
  induction calls generalizing x k with
  | nil => exact h
  | cons a calls ih =>
    have ha : a ≠ .stop := fun he => hstop (he ▸ List.mem_cons_self)
    have := ih (h.call ha) fun hmem => hstop (List.mem_cons_of_mem a hmem)
    rwa [Nat.add_assoc, ← List.countP_append] at this

/-- Who is left waiting: those who came after the last stop, if nothing is
published. -/
theorem released_iff (h : x.StoppedSince n k) (hx : x.Sound config site) :
    x.service.Released ↔ x.service.channel.isSome ∨ k = 0 := by
  constructor
  · rintro ⟨-, hpending⟩
    rw [h.pending] at hpending
    by_cases hsome : x.service.channel.isSome
    · exact .inl hsome
    · simpa [hsome] using hpending
  · intro hor
    have hpending : x.service.channels.pending = [] := by
      rw [h.pending]
      rcases hor with hsome | rfl
      · exact if_pos hsome
      · rw [List.range'_zero, ite_self]
    refine ⟨fun i y hy hheld => ?_, hpending⟩
    rw [hx.atRest.consistent.settled_iff hy hheld, hpending]
    exact List.not_mem_nil

theorem settled_iff (h : x.StoppedSince n k) (hx : x.Sound config site) {i : Nat}
    {y : Receiver Channel} (hy : x.service.channels.receiver? i = some y) (hheld : y.held) :
    y.Settled ↔ x.service.channel.isSome ∨ i < n := by
  have hi : i < n + k := by
    rw [← h.length, ← ChannelRegistry.isSome_receiver?, hy]
    rfl
  rw [hx.atRest.consistent.settled_iff hy hheld, h.pending]
  by_cases hsome : x.service.channel.isSome
  · simp [hsome]
  · simp [hsome, List.mem_range'_1]
    omega

end StoppedSince

/-- Only a stop leads to the last state. -/
theorem state_after_ne_stopped (hx : x.service.state ≠ .stopped) {calls : List Call}
    (hstop : .stop ∉ calls) : (x.after calls).service.state ≠ .stopped := by
  induction calls generalizing x with
  | nil => exact hx
  | cons a calls ih =>
    refine ih ?_ fun hmem => hstop (List.mem_cons_of_mem a hmem)
    cases a with
    | start =>
      unfold call answer
      rcases hstart : x.service.start x.site with ⟨result, s, site⟩
      cases result with
      | error e =>
        obtain ⟨rfl, -⟩ := start_eq_error hstart
        exact hx
      | ok v =>
        obtain ⟨-, c, numbering, site₁, -, hdeliver⟩ := start_eq_ok hstart
        obtain ⟨rfl, rfl⟩ := Prod.mk.inj hdeliver
        nofun
    | stop => exact absurd List.mem_cons_self hstop
    | _ => exact hx

end Session

/-- A list with an element has a last place where it occurs. -/
theorem exists_last_occurrence {α : Type} {a : α} {as : List α} (h : a ∈ as) :
    ∃ before later, as = before ++ a :: later ∧ a ∉ later := by
  obtain ⟨later, before, heq, hnot⟩ := List.eq_append_cons_of_mem (List.mem_reverse.mpr h)
  refine ⟨before.reverse, later.reverse, ?_, by rwa [List.mem_reverse]⟩
  rw [← List.reverse_reverse as, heq]
  simp

/-! ### The main result -/

/-- A stopped service has been stopped for the last time at some point.  Nobody
is left waiting exactly if a start has succeeded or nobody has subscribed since;
otherwise who subscribed before is settled and who subscribed since waits. -/
theorem released_of_stopped_iff (hnew : new site config = (.ok s, site')) (calls : List Call)
    (hstopped : ((Session.opened s site').after calls).service.state = .stopped) :
    let x := (Session.opened s site').after calls
    ∃ before later, calls = before ++ .stop :: later ∧ .stop ∉ later ∧
      (x.service.Released ↔ x.started ∨ .subscribe ∉ later) ∧
      ∀ i y, x.service.channels.receiver? i = some y → y.held →
        (y.Settled ↔ x.started ∨
          i < ((Session.opened s site').after before).service.channels.receivers.length) := by
  intro x
  have hx : x.Sound config site := (Session.Sound.opened hnew).after calls
  -- Only a stop makes the state the last one, so there is a last stop.
  have hmem : .stop ∈ calls := by
    by_contra hnot
    refine Session.state_after_ne_stopped (x := Session.opened s site') ?_ hnot hstopped
    show s.state ≠ .stopped
    rw [(new_eq_ok hnew).1]
    nofun
  obtain ⟨before, later, rfl, hlater⟩ := exists_last_occurrence hmem
  have hsplit : x = (((Session.opened s site').after before).call .stop).after later := by
    simp only [x, Session.after, List.foldl_append, List.foldl_cons]
  have hsince := (Session.stoppedSince_stop ((Session.opened s site').after before)).after hlater
  rw [← hsplit, Nat.zero_add] at hsince
  refine ⟨before, later, rfl, hlater, ?_, fun i y hy hheld => ?_⟩
  · rw [hsince.released_iff hx, hx.started_iff, Call.countP_isSubscribe_eq_zero]
  · rw [hsince.settled_iff hx hy hheld, hx.started_iff]

/-- After a start, a stop leaves nobody waiting who comes later. -/
theorem released_of_stopped_iff_stub :
    ∃ s site', new { dataDirectory := "./data", clock := ⟨0⟩ } .stub = (.ok s, site') ∧
      let x := (Session.opened s site').after [.subscribe, .start, .stop, .subscribe]
      x.service.state = .stopped ∧ x.service.Released := by
  have hnew : new { dataDirectory := "./data", clock := ⟨0⟩ } .stub = (.ok _, _) := rfl
  refine ⟨_, _, hnew, rfl, ?_⟩
  obtain ⟨before, later, -, -, hreleased, -⟩ :=
    released_of_stopped_iff hnew [.subscribe, .start, .stop, .subscribe] rfl
  exact hreleased.mpr (.inl rfl)

/-- Whoever subscribes after a stop without a start waits for a channel that
will never come. -/
theorem not_released_of_stopped :
    ¬∀ (site site' : Site) (config : Configuration) (s : Service) (calls : List Call),
      new site config = (.ok s, site') →
      ((Session.opened s site').after calls).service.state = .stopped →
      ((Session.opened s site').after calls).service.Released := by
  intro h
  have hnew : new { dataDirectory := "./data", clock := ⟨0⟩ } .stub = (.ok _, _) := rfl
  have hpending := (h _ _ _ _ [.stop, .subscribe] hnew rfl).2
  exact List.cons_ne_nil 0 [] hpending

end ExecutionLink.Service
