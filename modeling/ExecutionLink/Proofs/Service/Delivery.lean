/-
Every subscriber is served, and nobody twice.

A `Course` is a service together with a record of what has happened to it.  Its
steps may be taken in any order and by anybody.  A start takes two steps, which
may be far apart; whoever begins one holds the lock of the state until it is
finished, so that another start or a stop has to wait: its step passes without
effect and may come again.  Subscribing, looking at the channel and what
holders do with their receivers needs no such lock.

The record is kept receiver by receiver, and `Recorded` says that the registry
is what the record makes of it.  With `Service.AtRest` for a service that is
not being started and `Course.Sound` for the two steps of a start it follows
that

* `served_exactly_once` — once a start has succeeded, whoever holds a receiver
  has been sent one value, the channel that was published, and nobody was ever
  turned away; as long as no start has succeeded or is under way, nobody has
  been sent anything.
-/
import ExecutionLink.Proofs.Service.Starting

namespace ExecutionLink.Service

/-! ### Steps and what comes of them -/

/-- A step of a caller, of a holder of a receiver, or of others on the site. -/
inductive Step where
  /-- A start makes the channel and publishes it. -/
  | beginStart
  /-- A start sends the channel that it has published. -/
  | finishStart
  | stop
  | subscribe
  | readChannel
  | look (receiver : Nat)
  | drop (receiver : Nat)
  /-- The clock goes on, or other services use the metrics. -/
  | elsewhere (clock : Clock) (metrics : MetricsRegistry)

/-- What comes of the steps. -/
inductive Happening where
  | published (channel : Channel)
  | startReturned (result : Except ServiceError Unit)
  | stopReturned
  | handedOut (receiver : Nat)
  | sent (receiver : Nat) (channel : Channel)
  | closed (receiver : Nat)
  | dropped (receiver : Nat)
  | channelRead (channel : Option Channel)

/-- The channels that were published. -/
def publications (h : List Happening) : List Channel :=
  h.filterMap fun
    | .published c => some c
    | _ => none

/-- The values that were sent to a receiver. -/
def sentTo (h : List Happening) (i : Nat) : List Channel :=
  h.filterMap fun
    | .sent j c => if j = i then some c else none
    | _ => none

/-- A service with what has happened to it so far. -/
structure Course where
  service : Service
  site : Site
  /-- The channel of a start that has published it and has yet to send it. -/
  starting : Option Channel := none
  history : List Happening := []

namespace Course

/-- The course of a service that has just been made. -/
def opened (s : Service) (site : Site) : Course := { service := s, site }

/-- Makes and publishes the channel, unless a start is under way already. -/
def beginStart (w : Course) : Course :=
  if w.starting.isSome then w
  else
    match w.service.openAndPublish w.site with
    | (.error e, service, site) =>
      { w with service, site, history := w.history ++ [.startReturned (.error e)] }
    | (.ok c, service, site) =>
      { service, site, starting := some c, history := w.history ++ [.published c] }

/-- Sends the channel of the start that is under way. -/
def finishStart (w : Course) : Course :=
  match w.starting with
  | none => w
  | some c =>
    let (service, site) := w.service.deliver w.site c
    let served := w.service.channels.pending.filter w.service.channels.isHeld
    { service, site, starting := none,
      history := w.history ++ served.map (.sent · c) ++ [.startReturned (.ok ())] }

/-- Stops the service, unless a start is under way. -/
def stop (w : Course) : Course :=
  if w.starting.isSome then w
  else
    let (_, service, site) := w.service.stop w.site
    { w with service, site
             history := w.history ++ w.service.channels.pending.map .closed ++ [.stopReturned] }

/-- Hands out a receiver, which may be served at once. -/
def subscribe (w : Course) : Course :=
  let (i, service) := w.service.subscribe
  { w with service
           history := w.history ++ [.handedOut i] ++ w.service.channel.toList.map (.sent i) }

/-- Reads the published channel. -/
def readChannel (w : Course) : Course :=
  { w with history := w.history ++ [.channelRead w.service.channel] }

/-- A holder looks at a receiver. -/
def look (w : Course) (i : Nat) : Course :=
  { w with service.channels := (w.service.channels.poll i).2 }

/-- A holder lets go of a receiver. -/
def drop (w : Course) (i : Nat) : Course :=
  if i < w.service.channels.receivers.length then
    { w with service.channels := w.service.channels.drop i
             history := w.history ++ [.dropped i] }
  else w

/-- Takes a step. -/
def step (w : Course) : Step → Course
  | .beginStart => w.beginStart
  | .finishStart => w.finishStart
  | .stop => w.stop
  | .subscribe => w.subscribe
  | .readChannel => w.readChannel
  | .look i => w.look i
  | .drop i => w.drop i
  | .elsewhere clock metrics => { w with site := { w.site with clock, metrics } }

/-- Takes steps in the given order. -/
def run (w : Course) (steps : List Step) : Course := steps.foldl step w

/-- The two steps of a start in a row are a start. -/
theorem exists_start_eq {w : Course} (hidle : w.starting = none) :
    let w' := w.beginStart.finishStart
    ∃ result, w.service.start w.site = (result, w'.service, w'.site) ∧
      w'.starting = none ∧ w'.history.getLast? = some (.startReturned result) := by
  have hbegin : w.starting.isSome = false := by rw [hidle, Option.isSome_none]
  unfold beginStart start
  rw [hbegin]
  rcases w.service.openAndPublish w.site with ⟨result, service, site⟩
  cases result with
  | error e => exact ⟨.error e, by simp [finishStart, hidle]⟩
  | ok c => exact ⟨.ok (), rfl, rfl, List.getLast?_concat⟩

end Course

/-! ### The record -/

@[simp] theorem sentTo_append (h k : List Happening) (i : Nat) :
    sentTo (h ++ k) i = sentTo h i ++ sentTo k i :=
  List.filterMap_append

@[simp] theorem publications_append (h k : List Happening) :
    publications (h ++ k) = publications h ++ publications k :=
  List.filterMap_append

/-- Sending a channel to several receivers sends it once to each of them. -/
theorem sentTo_map_sent {is : List Nat} (hnodup : is.Nodup) (c : Channel) (i : Nat) :
    sentTo (is.map (.sent · c)) i = if i ∈ is then [c] else [] := by
  induction is with
  | nil => rfl
  | cons j is ih =>
    obtain ⟨hj, hnodup⟩ := List.nodup_cons.mp hnodup
    have hcons : sentTo ((j :: is).map (.sent · c)) i =
        (if j = i then [c] else []) ++ sentTo (is.map (.sent · c)) i := by
      by_cases hji : j = i <;> simp [sentTo, hji]
    rw [hcons, ih hnodup]
    by_cases hji : j = i
    · subst hji
      simp [hj]
    · have hij : i ≠ j := fun h => hji h.symm
      simp [hji, hij]

/-- What a receiver was sent, going by its slot. -/
def told (published : Option Channel) (x : Receiver Channel) : List Channel :=
  match x.slot with
  | .sent c => [c]
  | .taken => published.toList
  | .waiting | .closed => []

/-- The record `h` is right about the receivers of a registry. -/
structure Recorded (h : List Happening) (r : ChannelRegistry Channel) : Prop where
  handedOut : ∀ i, .handedOut i ∈ h ↔ (r.receiver? i).isSome
  dropped : ∀ i, .dropped i ∈ h ↔ ∃ x, r.receiver? i = some x ∧ x.held = false
  closed : ∀ i, .closed i ∈ h ↔ ∃ x, r.receiver? i = some x ∧ x.slot = .closed
  sent : ∀ i, sentTo h i = (r.receiver? i).elim [] (told r.published)

/-- The receiver that something happens to, if it is one. -/
def Happening.receiver? : Happening → Option Nat
  | .handedOut i | .sent i _ | .closed i | .dropped i => some i
  | .published _ | .startReturned _ | .stopReturned | .channelRead _ => none

theorem told_eq_nil {x : Receiver Channel} {q : Prop} (p : Option Channel) (h : x.Fits none q) :
    told p x = [] := by
  obtain ⟨slot, held⟩ := x
  cases slot <;> simp_all [Receiver.Fits, told]

namespace Recorded

variable {h : List Happening} {r : ChannelRegistry Channel}

theorem empty : Recorded [] .empty := by
  constructor <;> intro i <;> simp [ChannelRegistry.empty, ChannelRegistry.receiver?, sentTo]

/-- What happens to no receiver is of no matter. -/
theorem append_other (hr : Recorded h r) {e : Happening} (he : e.receiver? = none) :
    Recorded (h ++ [e]) r where
  handedOut i := by
    rw [← hr.handedOut i]
    cases e <;> simp_all [Happening.receiver?]
  dropped i := by
    rw [← hr.dropped i]
    cases e <;> simp_all [Happening.receiver?]
  closed i := by
    rw [← hr.closed i]
    cases e <;> simp_all [Happening.receiver?]
  sent i := by
    rw [← hr.sent i, sentTo_append]
    cases e <;> simp_all [Happening.receiver?, sentTo]

theorem subscribe (hr : Recorded h r) :
    Recorded (h ++ [.handedOut r.receivers.length] ++
      r.published.toList.map (.sent r.receivers.length)) r.subscribe.2 where
  handedOut i := by
    rw [ChannelRegistry.receiver?_subscribe]
    by_cases hi : i = r.receivers.length <;> simp [hr.handedOut, hi]
  dropped i := by
    rw [ChannelRegistry.receiver?_subscribe]
    by_cases hi : i = r.receivers.length <;> simp [hr.dropped, hi]
  closed i := by
    rw [ChannelRegistry.receiver?_subscribe]
    by_cases hi : i = r.receivers.length
    · cases hp : r.published <;> simp [hr.closed, hi]
    · simp [hr.closed, hi]
  sent i := by
    rw [ChannelRegistry.receiver?_subscribe, ChannelRegistry.published_subscribe]
    simp only [sentTo_append, hr.sent i]
    by_cases hi : i = r.receivers.length
    · subst hi
      cases hp : r.published <;> simp [sentTo, told]
    · have hi' : r.receivers.length ≠ i := fun h => hi h.symm
      cases hp : r.published <;> simp [hi, hi', sentTo]

/-- An operation that changes receivers one by one is recorded by `k` if `k` is
right about each of them. -/
theorem of_map (hr : Recorded h r) {r' : ChannelRegistry Channel} {k : List Happening}
    {f : Nat → Receiver Channel → Receiver Channel}
    (hmap : ∀ i, r'.receiver? i = (r.receiver? i).map (f i))
    (hold : ∀ e ∈ k, ∀ i, e.receiver? = some i → (r.receiver? i).isSome)
    (hout : ∀ i, .handedOut i ∉ k)
    (hdropped : ∀ i x, r.receiver? i = some x →
      ((f i x).held = false ↔ x.held = false ∨ .dropped i ∈ k))
    (hclosed : ∀ i x, r.receiver? i = some x →
      ((f i x).slot = .closed ↔ x.slot = .closed ∨ .closed i ∈ k))
    (hsent : ∀ i x, r.receiver? i = some x →
      told r'.published (f i x) = told r.published x ++ sentTo k i) :
    Recorded (h ++ k) r' where
  handedOut i := by
    rw [hmap, Option.isSome_map, ← hr.handedOut i]
    simp [hout]
  dropped i := by
    rw [List.mem_append, hr.dropped i, hmap]
    cases hx : r.receiver? i with
    | none => simpa using fun hk => by simpa [hx] using hold _ hk i rfl
    | some x => simp [hdropped i x hx]
  closed i := by
    rw [List.mem_append, hr.closed i, hmap]
    cases hx : r.receiver? i with
    | none => simpa using fun hk => by simpa [hx] using hold _ hk i rfl
    | some x => simp [hclosed i x hx]
  sent i := by
    rw [sentTo_append, hr.sent i, hmap]
    cases hx : r.receiver? i with
    | none =>
      -- `k` says nothing about a receiver that was never handed out.
      show [] ++ sentTo k i = []
      rw [List.nil_append, sentTo, List.filterMap_eq_nil_iff]
      intro e he
      cases e with
      | sent j c =>
        have hij : j ≠ i := by
          rintro rfl
          simpa [hx] using hold _ he j rfl
        simp [hij]
      | _ => rfl
    | some x => exact (hsent i x hx).symm

theorem setPublished (hr : Recorded h r) (hc : r.Consistent) (hp : r.published = none)
    (c : Channel) : Recorded h { r with published := some c } := by
  have hsame (i : Nat) : ChannelRegistry.receiver? { r with published := some c } i =
      (r.receiver? i).map id := by
    rw [Option.map_id_fun, id_eq]
    rfl
  have := hr.of_map (k := []) hsame (by simp) (by simp) (by simp) (by simp) ?_
  · simpa using this
  · intro i x hx
    have hfits := hc.fits i x hx
    rw [hp] at hfits
    simp [told_eq_nil _ hfits, sentTo]

theorem deliver (hr : Recorded h r) (hc : r.Consistent) (c : Channel) :
    Recorded (h ++ (r.pending.filter r.isHeld).map (.sent · c)) (r.deliver c).2 := by
  have hsentTo := sentTo_map_sent (hc.nodup.filter r.isHeld) c
  refine hr.of_map (ChannelRegistry.receiver?_deliver r c) ?_ ?_ ?_ ?_ ?_
  · intro e he i hi
    obtain ⟨j, hj, rfl⟩ := List.mem_map.mp he
    cases hi
    exact hc.exist _ (List.mem_of_mem_filter hj)
  · simp
  · intro i x hx
    by_cases hi : i ∈ r.pending <;> simp [hi]
  · intro i x hx
    by_cases hi : i ∈ r.pending
    · obtain ⟨slot, held⟩ := x
      obtain rfl : slot = .waiting := hc.waiting_of_pending hx hi
      cases held <;> simp [hi, Receiver.send]
    · simp [hi]
  · intro i x hx
    have hheld : r.isHeld i = x.held := by simp [ChannelRegistry.isHeld, hx]
    simp only [ChannelRegistry.published_deliver, hsentTo, List.mem_filter, hheld]
    by_cases hi : i ∈ r.pending
    · -- A dropped receiver stays pending until now, but nothing is sent to it.
      obtain ⟨slot, held⟩ := x
      obtain rfl : slot = .waiting := hc.waiting_of_pending hx hi
      cases held <;> simp [hi, Receiver.send, told]
    · simp [hi]

theorem close (hr : Recorded h r) (hc : r.Consistent) :
    Recorded (h ++ r.pending.map .closed) r.close.2 := by
  have hsentTo (i : Nat) : sentTo (r.pending.map .closed) i = [] := by
    simp [sentTo, List.filterMap_map]
  refine hr.of_map (ChannelRegistry.receiver?_close r) ?_ ?_ ?_ ?_ ?_
  · intro e he i hi
    obtain ⟨j, hj, rfl⟩ := List.mem_map.mp he
    cases hi
    exact hc.exist _ hj
  · simp
  · intro i x hx
    by_cases hi : i ∈ r.pending <;> simp [hi]
  · intro i x hx
    by_cases hi : i ∈ r.pending
    · obtain ⟨slot, held⟩ := x
      obtain rfl : slot = .waiting := hc.waiting_of_pending hx hi
      simp [hi, Receiver.close]
    · simp [hi]
  · intro i x hx
    rw [hsentTo, List.append_nil, ChannelRegistry.published_close]
    by_cases hi : i ∈ r.pending
    · obtain ⟨slot, held⟩ := x
      obtain rfl : slot = .waiting := hc.waiting_of_pending hx hi
      simp [hi, Receiver.close, told]
    · simp [hi]

theorem look (hr : Recorded h r) (hc : r.Consistent) (j : Nat) : Recorded h (r.poll j).2 := by
  have := hr.of_map (k := []) (ChannelRegistry.receiver?_poll r j) (by simp) (by simp) ?_ ?_ ?_
  · simpa using this
  · intro i x hx
    by_cases hij : j = i <;> simp [hij]
  · intro i x hx
    obtain ⟨slot, held⟩ := x
    by_cases hij : j = i <;> cases slot <;> simp [hij, Receiver.lookedAt]
  · intro i x hx
    have hfits := hc.fits i x hx
    obtain ⟨slot, held⟩ := x
    by_cases hij : j = i <;> cases slot <;>
      simp_all [Receiver.Fits, Receiver.lookedAt, told, sentTo]

theorem drop (hr : Recorded h r) {j : Nat} (hj : j < r.receivers.length) :
    Recorded (h ++ [.dropped j]) (r.drop j) := by
  refine hr.of_map (ChannelRegistry.receiver?_drop r j) ?_ ?_ ?_ ?_ ?_
  · intro e he i hi
    rw [List.mem_singleton] at he
    subst he
    cases hi
    exact ChannelRegistry.isSome_receiver?.mpr hj
  · simp
  · intro i x hx
    by_cases hij : j = i
    · simp [hij]
    · have hij' : i ≠ j := fun h => hij h.symm
      simp [hij, hij']
  · intro i x hx
    by_cases hij : j = i <;> simp [hij]
  · intro i x hx
    by_cases hij : j = i <;> simp [hij, told, sentTo]

end Recorded

/-! ### The invariant of a course -/

namespace Course

/-- What is true at any point of a course. -/
structure Sound (w : Course) : Prop where
  atRest : w.starting = none → w.service.AtRest
  /-- In the middle of a start the channel is published and nobody is sent it yet. -/
  midway : ∀ c, w.starting = some c → w.service.channels.Consistent ∧
    w.service.state = .created ∧ w.service.channels.published = some c
  recorded : Recorded w.history w.service.channels
  published : publications w.history = w.service.channels.published.toList
  succeeded : .startReturned (.ok ()) ∈ w.history ↔
    w.starting = none ∧ w.service.channels.published.isSome
  read : ∀ c, .channelRead (some c) ∈ w.history → w.service.channels.published = some c
  unclosed : w.service.state = .created ∨ w.service.channels.published.isSome →
    ∀ i, .closed i ∉ w.history

namespace Sound

variable {w : Course}

theorem consistent (h : w.Sound) : w.service.channels.Consistent := by
  cases hs : w.starting with
  | none => exact (h.atRest hs).consistent
  | some c => exact (h.midway c hs).1

theorem opened {config : Configuration} {site site' : Site} {s : Service}
    (hnew : new site config = (.ok s, site')) : (Course.opened s site').Sound := by
  obtain ⟨-, hchannels, -, -⟩ := new_eq_ok hnew
  refine ⟨fun _ => atRest_of_new hnew, ?_, ?_, ?_, ?_, ?_, ?_⟩
  · intro c hstarting
    cases hstarting
  · simpa [Course.opened, hchannels] using Recorded.empty
  · simp [Course.opened, hchannels, publications, ChannelRegistry.empty]
  · simp [Course.opened, hchannels, ChannelRegistry.empty]
  · intro c hread
    exact absurd hread List.not_mem_nil
  · intro _ i hclosed
    exact absurd hclosed List.not_mem_nil

theorem beginStart (h : w.Sound) : w.beginStart.Sound := by
  unfold Course.beginStart
  by_cases hs : w.starting.isSome
  · rw [if_pos hs]
    exact h
  · rw [if_neg hs]
    have hnone : w.starting = none := by simpa using hs
    rcases ho : w.service.openAndPublish w.site with ⟨result, service, site⟩
    cases result with
    | error e =>
      obtain rfl := openAndPublish_eq_error ho
      refine ⟨h.atRest, h.midway, h.recorded.append_other rfl, ?_, ?_, ?_, ?_⟩
      · simpa [publications] using h.published
      · simpa using h.succeeded
      · simpa using h.read
      · simpa using h.unclosed
    | ok c =>
      -- Nothing was published so far, hence nothing in the record can disagree with `c`.
      obtain ⟨hcreated, hp, numbering, rfl, -⟩ := openAndPublish_eq_ok ho
      have hset : w.service.channels.setPublished c = .ok _ :=
        ChannelRegistry.setPublished_eq_ok.mpr ⟨hp, rfl⟩
      refine ⟨?_, ?_, ?_, ?_, ?_, ?_, ?_⟩
      · intro hidle
        cases hidle
      · rintro d ⟨⟩
        exact ⟨h.consistent.setPublished hset, hcreated, rfl⟩
      · exact (h.recorded.setPublished h.consistent hp c).append_other rfl
      · simp only [publications_append, h.published, hp]
        rfl
      · have hnot := h.succeeded
        simp_all
      · intro d hd
        have hnot := h.read d
        simp_all
      · intro _ i hi
        exact h.unclosed (.inl hcreated) i (by simpa using hi)

theorem finishStart (h : w.Sound) : w.finishStart.Sound := by
  unfold Course.finishStart
  cases hs : w.starting with
  | none => exact h
  | some c =>
    obtain ⟨hconsistent, hcreated, hp⟩ := h.midway c hs
    have hsends : publications ((w.service.channels.pending.filter
        w.service.channels.isHeld).map (.sent · c)) = [] := by
      simp [publications, List.filterMap_map]
    refine ⟨fun _ => atRest_deliver w.site hconsistent hp, ?_, ?_, ?_, ?_, ?_, ?_⟩
    · intro d hstarting
      cases hstarting
    · exact (h.recorded.deliver hconsistent c).append_other rfl
    · simp only [publications_append, hsends, h.published]
      simp [publications, Service.deliver]
    · simp [Service.deliver, hp]
    · intro d hd
      exact h.read d (by simpa using hd)
    · intro _ i hi
      exact h.unclosed (.inl hcreated) i (by simpa using hi)

theorem stop (h : w.Sound) : w.stop.Sound := by
  unfold Course.stop
  by_cases hs : w.starting.isSome
  · rw [if_pos hs]
    exact h
  · rw [if_neg hs]
    have hnone : w.starting = none := by simpa using hs
    have hrest := h.atRest hnone
    have hcloses : publications (w.service.channels.pending.map .closed) = [] := by
      simp [publications, List.filterMap_map]
    refine ⟨fun _ => hrest.stop w.site, ?_, ?_, ?_, ?_, ?_, ?_⟩
    · simp [hnone]
    · exact (h.recorded.close h.consistent).append_other rfl
    · simp only [publications_append, hcloses, h.published]
      simp [publications, Service.stop]
    · simpa [Service.stop] using h.succeeded
    · simpa [Service.stop] using h.read
    · -- Once a channel is published nobody is pending, so a stop closes nobody.
      intro hor i hi
      have hsome : w.service.channels.published.isSome := by simpa [Service.stop] using hor
      rw [hrest.delivered hsome] at hi
      exact h.unclosed (.inr hsome) i (by simpa using hi)

theorem subscribe (h : w.Sound) : w.subscribe.Sound := by
  have hsends : publications (w.service.channel.toList.map
      (.sent w.service.channels.receivers.length)) = [] := by
    simp [publications, List.filterMap_map]
  refine ⟨fun hs => (h.atRest hs).subscribe, ?_, ?_, ?_, ?_, ?_, ?_⟩
  · -- Subscribing does not wait for a start that is under way.
    intro c hs
    obtain ⟨hconsistent, hcreated, hp⟩ := h.midway c hs
    exact ⟨hconsistent.subscribe, hcreated, (ChannelRegistry.published_subscribe _).trans hp⟩
  · simpa [Course.subscribe, Service.subscribe, channel] using h.recorded.subscribe
  · simp only [Course.subscribe, Service.subscribe, publications_append,
      ChannelRegistry.subscribe_fst, hsends, h.published, ChannelRegistry.published_subscribe]
    simp [publications]
  · simpa [Course.subscribe, Service.subscribe] using h.succeeded
  · simpa [Course.subscribe, Service.subscribe] using h.read
  · simpa [Course.subscribe, Service.subscribe] using h.unclosed

theorem readChannel (h : w.Sound) : w.readChannel.Sound := by
  refine ⟨h.atRest, h.midway, h.recorded.append_other rfl, ?_, ?_, ?_, ?_⟩
  · simpa [Course.readChannel, publications] using h.published
  · simpa [Course.readChannel] using h.succeeded
  · intro c hc
    rcases List.mem_append.mp hc with hc | hc
    · exact h.read c hc
    · rw [List.mem_singleton, Happening.channelRead.injEq] at hc
      exact hc.symm
  · simpa [Course.readChannel] using h.unclosed

/-- What the holder of a receiver does to it keeps a course sound if it keeps
the registry consistent and the record right. -/
theorem replace (h : w.Sound) {channels : ChannelRegistry Channel} {k : List Happening}
    (hc : channels.Consistent) (hpublished : channels.published = w.service.channels.published)
    (hpending : channels.pending = w.service.channels.pending)
    (hrecorded : Recorded (w.history ++ k) channels) (hk : ∀ e ∈ k, ∃ i, e = .dropped i) :
    Sound { w with service.channels := channels, history := w.history ++ k } where
  atRest hs := (h.atRest hs).replace hc hpublished hpending
  midway c hs := ⟨hc, (h.midway c hs).2.1, hpublished.trans (h.midway c hs).2.2⟩
  recorded := hrecorded
  published := by
    have hnone : publications k = [] := by
      rw [publications, List.filterMap_eq_nil_iff]
      intro e he
      obtain ⟨i, rfl⟩ := hk e he
      rfl
    rw [publications_append, hnone, List.append_nil, h.published, hpublished]
  succeeded := by
    have hnot : .startReturned (.ok ()) ∉ k := fun hm => by simpa using hk _ hm
    simpa [hnot, hpublished] using h.succeeded
  read c hc := by
    have hnot : .channelRead (some c) ∉ k := fun hm => by simpa using hk _ hm
    exact hpublished.trans (h.read c (by simpa [hnot] using hc))
  unclosed hor i hi := by
    have hnot : .closed i ∉ k := fun hm => by simpa using hk _ hm
    exact h.unclosed (by simpa [hpublished] using hor) i (by simpa [hnot] using hi)

theorem look (h : w.Sound) (i : Nat) : (w.look i).Sound := by
  have := h.replace (k := []) (h.consistent.poll i) (by simp) (by simp)
    (by simpa using h.recorded.look h.consistent i) (by simp)
  simpa [Course.look] using this

theorem drop (h : w.Sound) (i : Nat) : (w.drop i).Sound := by
  unfold Course.drop
  by_cases hi : i < w.service.channels.receivers.length
  · rw [if_pos hi]
    exact h.replace (h.consistent.drop i) rfl rfl (h.recorded.drop hi) (by simp)
  · rw [if_neg hi]
    exact h

theorem step (h : w.Sound) (a : Step) : (w.step a).Sound := by
  cases a with
  | beginStart => exact h.beginStart
  | finishStart => exact h.finishStart
  | stop => exact h.stop
  | subscribe => exact h.subscribe
  | readChannel => exact h.readChannel
  | look i => exact h.look i
  | drop i => exact h.drop i
  | elsewhere clock metrics =>
    exact ⟨h.atRest, h.midway, h.recorded, h.published, h.succeeded, h.read, h.unclosed⟩

theorem run (h : w.Sound) (steps : List Step) : (w.run steps).Sound := by
  induction steps generalizing w with
  | nil => exact h
  | cons a steps ih => exact ih (h.step a)

/-- Nobody is sent more than one value. -/
theorem length_sentTo_le_one (h : w.Sound) (i : Nat) : (sentTo w.history i).length ≤ 1 := by
  rw [h.recorded.sent i]
  cases w.service.channels.receiver? i with
  | none => exact Nat.zero_le 1
  | some x =>
    obtain ⟨slot, held⟩ := x
    cases slot with
    | taken => cases hp : w.service.channels.published <;> simp [told]
    | _ => simp [told]

/-- After a start a receiver that is held has been sent the channel. -/
theorem sent_of_channel (h : w.Sound) {c : Channel} (hidle : w.starting = none)
    (hc : w.service.channel = some c) {i : Nat} (hout : .handedOut i ∈ w.history)
    (hdrop : .dropped i ∉ w.history) :
    ∃ x, w.service.channels.receiver? i = some x ∧ (x.slot = .sent c ∨ x.slot = .taken) := by
  obtain ⟨x, hx⟩ := Option.isSome_iff_exists.mp ((h.recorded.handedOut i).mp hout)
  have hp : w.service.channels.published = some c := hc
  have hpending := (h.atRest hidle).delivered (Option.isSome_of_eq_some hp)
  have hfits := h.consistent.fits i x hx
  have hheld : x.held ≠ false := fun hf => hdrop ((h.recorded.dropped i).mpr ⟨x, hx, hf⟩)
  have hopen : x.slot ≠ .closed := fun hs =>
    h.unclosed (.inr (Option.isSome_of_eq_some hp)) i ((h.recorded.closed i).mpr ⟨x, hx, hs⟩)
  -- Waiting is left out by `hfits`: the receiver is held and nobody is pending.
  refine ⟨x, hx, ?_⟩
  rw [hp, hpending] at hfits
  obtain ⟨slot, held⟩ := x
  cases slot <;> simp_all [Receiver.Fits]

/-- Without a published channel nobody has been sent anything. -/
theorem unsent_of_channel (h : w.Sound) (hc : w.service.channel = none) {i : Nat}
    {x : Receiver Channel} (hx : w.service.channels.receiver? i = some x) :
    x.slot = .waiting ∨ x.slot = .closed := by
  have hp : w.service.channels.published = none := hc
  have hfits := h.consistent.fits i x hx
  rw [hp] at hfits
  obtain ⟨slot, held⟩ := x
  cases slot <;> simp_all [Receiver.Fits]

end Sound

end Course

/-! ### The main result -/

/-- In every course of a new service nobody is sent two values.  Once a start
has succeeded, there is one channel; who holds a receiver, whenever it was
handed out, has been sent that channel, and nobody is closed.  As long as no
start has succeeded or is under way, there is no channel and nobody has been
sent anything. -/
theorem served_exactly_once {config : Configuration} {site site' : Site} {s : Service}
    (hnew : new site config = (.ok s, site')) (steps : List Step) :
    let w := (Course.opened s site').run steps
    (∀ i, (sentTo w.history i).length ≤ 1) ∧
    (.startReturned (.ok ()) ∈ w.history → ∃ c, w.service.channel = some c ∧
      publications w.history = [c] ∧
      (∀ d, .channelRead (some d) ∈ w.history → d = c) ∧
      (∀ i, .handedOut i ∈ w.history → .dropped i ∉ w.history →
        sentTo w.history i = [c] ∧ ∃ x, w.service.channels.receiver? i = some x ∧
          (x.slot = .sent c ∨ x.slot = .taken)) ∧
      ∀ i, .closed i ∉ w.history) ∧
    (.startReturned (.ok ()) ∉ w.history → w.starting = none →
      w.service.channel = none ∧
      (∀ c, .channelRead (some c) ∉ w.history) ∧
      ∀ i, sentTo w.history i = [] ∧ ∀ x, w.service.channels.receiver? i = some x →
        x.slot = .waiting ∨ x.slot = .closed) := by
  intro w
  have h : w.Sound := (Course.Sound.opened hnew).run steps
  refine ⟨h.length_sentTo_le_one, ?_, ?_⟩
  · -- A start that has returned has left its channel published.
    intro hstart
    obtain ⟨hidle, hsome⟩ := h.succeeded.mp hstart
    obtain ⟨c, hc⟩ := Option.isSome_iff_exists.mp hsome
    refine ⟨c, hc, ?_, ?_, ?_, h.unclosed (.inr hsome)⟩
    · rw [h.published, hc]
      rfl
    · intro d hd
      exact Option.some.inj ((h.read d hd).symm.trans hc)
    · intro i hout hdrop
      obtain ⟨x, hx, hslot⟩ := h.sent_of_channel hidle hc hout hdrop
      refine ⟨?_, x, hx, hslot⟩
      rw [h.recorded.sent i, hx, hc]
      show told (some c) x = [c]
      rcases hslot with hslot | hslot <;> simp [told, hslot]
  · -- A published channel would be that of a start, either under way or finished.
    intro hstart hidle
    have hnone : w.service.channel = none := by
      by_contra hsome
      exact hstart (h.succeeded.mpr ⟨hidle, Option.isSome_iff_ne_none.mpr hsome⟩)
    have hunsent {i : Nat} {x : Receiver Channel} := h.unsent_of_channel hnone (i := i) (x := x)
    refine ⟨hnone, ?_, fun i => ⟨?_, fun x hx => hunsent hx⟩⟩
    · intro c hc
      cases hnone.symm.trans (h.read c hc)
    · rw [h.recorded.sent i]
      cases hx : w.service.channels.receiver? i with
      | none => rfl
      | some x => rcases hunsent hx with hslot | hslot <;> simp [told, hslot]

/-- A course in which receivers are handed out before, during and after a start
and after a stop. -/
theorem served_exactly_once_stub :
    ∃ s site', new { dataDirectory := "./data", clock := ⟨0⟩ } .stub = (.ok s, site') ∧
      let w := (Course.opened s site').run [.subscribe, .beginStart, .subscribe, .readChannel,
        .finishStart, .subscribe, .stop, .subscribe]
      .startReturned (.ok ()) ∈ w.history ∧
        ∃ c, w.service.channel = some c ∧ ∀ i < 4, sentTo w.history i = [c] := by
  have hnew : new { dataDirectory := "./data", clock := ⟨0⟩ } .stub = (.ok _, _) := rfl
  refine ⟨_, _, hnew, ?_⟩
  intro w
  have hhistory : w.history = [.handedOut 0, .published .stub, .handedOut 1, .sent 1 .stub,
      .channelRead (some .stub), .sent 0 .stub, .startReturned (.ok ()), .handedOut 2,
      .sent 2 .stub, .stopReturned, .handedOut 3, .sent 3 .stub] := rfl
  have hstart : .startReturned (.ok ()) ∈ w.history := by simp [hhistory]
  obtain ⟨c, hc, -, -, hsent, -⟩ := (served_exactly_once hnew _).2.1 hstart
  refine ⟨hstart, c, hc, fun i hi => (hsent i ?_ ?_).1⟩
  · rw [hhistory]
    simp
    omega
  · rw [hhistory]
    simp

end ExecutionLink.Service
