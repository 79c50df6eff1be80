/-
How the clients of engines number their requests.

Any number of clients act on one site and one network, and they may well ask the same
engine.  Their calls are begun, resumed and given up in any order, while the clock and
the network are changed in between.  How the peers behave is left open: they act on a
state of their own, may answer whenever they are looked at, and with whatever they
like.

* `Asks` — what a question with a number is: one `post` to the URL, with a body that is
  read as a call of the procedure under that number.
* `Caller.Sound` — what is true of a client after it has begun so many calls.
* `Caller.Sound.begin`, `Caller.Sound.set` — a call that begins uses up a number, and
  nothing that becomes of it gives the number back; `Callers.sound_step` and
  `Callers.sound_run` carry this to all clients and through a run.
* `requests_numbered` — the calls of each client are numbered from 1 on in the order in which
  they begin, whatever becomes of them and whatever the others do.
-/
import ExecutionLink.Connection
import ExecutionLink.Proofs.Channel.Calls
import ExecutionLink.Proofs.Json.Quantities

namespace ExecutionLink.Engine

open Json (Document Format Tree Value)

/-! ### Questions -/

/-- The request asks the engine at the URL under a number. -/
structure Asks (url : Url) (number : Nat) (r : Http.Sent) : Prop where
  method : r.method = .post
  url : r.url = url
  body : ∃ body id, r.body? = some body ∧ UInt64.toNat id = number ∧
    Format.any.read body.render = .ok (.object
      [("id", .natural id), ("jsonrpc", .string "2.0"), ("method", .string "eth_syncing"),
        ("params", .array [])])

/-- The members of a question come out in the order of their keys. -/
theorem value?_syncingRequest (id : UInt64) (room : Nat) :
    (syncingRequest id).tree.value? (room + 2) = some (.object
      [("id", .natural id), ("jsonrpc", .string "2.0"), ("method", .string "eth_syncing"),
        ("params", .array [])]) := by
  simp only [syncingRequest, syncingMethod, Value.natural, Value.tree, Value.membersTrees,
    Value.itemsTrees, Tree.value?, Tree.memberValues?, Tree.values?, Json.text?_literal,
    Json.ofLiteral?_literal_natural, if_true, Option.map_some]
  rfl

theorem asks_sent (url : Url) (id : UInt64) : Asks url id.toNat (sent url id) := by
  refine ⟨rfl, rfl, syncingRequest id, id, rfl, rfl, ?_⟩
  rw [Format.read_eq_ok, Document.ofText_render]
  exact ⟨rfl, Format.decode_any_eq_ok.mpr (value?_syncingRequest id 125)⟩

/-! ### Clients -/

variable {κ ν : Type} {peers : Http.Transport (ν × Clock)} {url : Url}

/-- The client of the engine at a URL, whose requests are noted down. -/
abbrev inquirer (peers : Http.Transport (ν × Clock)) (url : Url) :
    EngineClient (CallState (List Http.Sent × ν)) :=
  client CallState.takeNumber (reached peers) url

/-- What belongs to a client: its numbering, the requests that it sent, and the calls
on it, in the order in which they were begun. -/
structure Caller (peers : Http.Transport (ν × Clock)) (url : Url) where
  numbering : Numbering
  sent : List Http.Sent
  calls : List (Stage ((inquirer peers url).Pending ()) (CallResult Bool))

/-- Clients of engines at these URLs, with the site and the network that they share. -/
structure Callers (peers : Http.Transport (ν × Clock)) (urls : κ → Url) where
  site : Site
  network : ν
  caller : (k : κ) → Caller peers (urls k)

/-- Something that is done to the calls on a client, which are numbered from 0 on in
the order in which they were begun, to the clock or to the network. -/
inductive CallerEvent (κ ν : Type) where
  | begin (client : κ)
  | resume (client : κ) (call : Nat)
  | giveUp (client : κ) (call : Nat)
  | changeClock (change : Clock.Change)
  | changeNetwork (change : ν → ν)

/-- The client on which a call is begun. -/
def CallerEvent.asker? : CallerEvent κ ν → Option κ
  | .begin k => some k
  | _ => none

/-- How many calls are begun on a client. -/
def asked [DecidableEq κ] (k : κ) (events : List (CallerEvent κ ν)) : Nat :=
  events.countP fun e => e.asker? = some k

namespace Callers

variable {urls : κ → Url} [DecidableEq κ]

/-- Clients on which no call has been begun. -/
def opened (peers : Http.Transport (ν × Clock)) (clients : κ → Handle) (site : Site)
    (network : ν) : Callers peers fun k => (clients k).url :=
  ⟨site, network, fun k => ⟨(clients k).numbering, [], []⟩⟩

/-- What the calls on a client act on. -/
def callState (c : Callers peers urls) (k : κ) : CallState (List Http.Sent × ν) :=
  ⟨c.site, (c.caller k).numbering, ((c.caller k).sent, c.network)⟩

/-- The clients after something was done to what the calls on one of them act on. -/
def withCalls (c : Callers peers urls) (k : κ) (s : CallState (List Http.Sent × ν))
    (calls : List (Stage ((inquirer peers (urls k)).Pending ()) (CallResult Bool))) :
    Callers peers urls where
  site := s.site
  network := s.network.2
  caller := Function.update c.caller k ⟨s.numbering, s.network.1, calls⟩

/-- Begins a call on a client. -/
def begin (c : Callers peers urls) (k : κ) : Callers peers urls :=
  let (pending, s) := (inquirer peers (urls k)).start () (c.callState k)
  c.withCalls k s ((c.caller k).calls ++ [.underway pending])

/-- Resumes a call that is under way. -/
def resume (c : Callers peers urls) (k : κ) (i : Nat) : Callers peers urls :=
  match (c.caller k).calls[i]? with
  | some (.underway pending) =>
    match (inquirer peers (urls k)).resume () pending (c.callState k) with
    | (.answered result, s) =>
      c.withCalls k s ((c.caller k).calls.set i (.answered result s.site.clock.millis))
    | (.pending pending, s) => c.withCalls k s ((c.caller k).calls.set i (.underway pending))
  | _ => c

/-- Gives up a call that is under way. -/
def giveUp (c : Callers peers urls) (k : κ) (i : Nat) : Callers peers urls :=
  match (c.caller k).calls[i]? with
  | some (.underway pending) =>
    c.withCalls k ((inquirer peers (urls k)).giveUp () pending (c.callState k))
      ((c.caller k).calls.set i .givenUp)
  | _ => c

/-- Lets something happen. -/
def step (c : Callers peers urls) : CallerEvent κ ν → Callers peers urls
  | .begin k => c.begin k
  | .resume k i => c.resume k i
  | .giveUp k i => c.giveUp k i
  | .changeClock change => { c with site.clock := c.site.clock.change change }
  | .changeNetwork change => { c with network := change c.network }

/-- Lets things happen in the given order. -/
def run (c : Callers peers urls) (events : List (CallerEvent κ ν)) : Callers peers urls :=
  events.foldl step c

end Callers

/-! ### The invariant of a client -/

/-- A connection gives clients of its engine, each with a numbering of its own. -/
theorem eq_of_engineClient {c : Connection} {client : Handle} (h : c.engineClient = .ok client) :
    c.url = some client.url ∧ client.numbering = .new := by
  unfold Connection.engineClient Connection.liveUrl at h
  cases hurl : c.url with
  | none =>
    rw [hurl] at h
    cases h
  | some url =>
    rw [hurl] at h
    cases h
    exact ⟨rfl, rfl⟩

/-- On the client `n` calls have been begun. -/
structure Caller.Sound (c : Caller peers url) (n : Nat) : Prop where
  next : c.numbering.next = UInt64.ofNat (n + 1)
  calls : c.calls.length = n
  sent : c.sent = (List.range' 1 n).map fun i => Engine.sent url (UInt64.ofNat i)
  underway : ∀ i pending, c.calls[i]? = some (.underway pending) →
    pending.1 = UInt64.ofNat (i + 1)

namespace Caller.Sound

variable {c : Caller peers url} {n : Nat}

theorem opened {numbering : Numbering} (h : numbering = .new) :
    Caller.Sound (⟨numbering, [], []⟩ : Caller peers url) 0 where
  next := congrArg Numbering.next h
  calls := rfl
  sent := rfl
  underway _ _ h := nomatch h

/-- A call that begins takes the next number and sends one request. -/
theorem begin (h : c.Sound n) {pending : (inquirer peers url).Pending ()}
    (hpending : pending.1 = c.numbering.next) :
    Sound ⟨⟨c.numbering.next + 1⟩, c.sent ++ [Engine.sent url c.numbering.next],
      c.calls ++ [.underway pending]⟩ (n + 1) where
  next := by
    show c.numbering.next + 1 = _
    rw [h.next, UInt64.ofNat_add (n + 1) 1]
    rfl
  calls := by
    show (c.calls ++ _).length = _
    rw [List.length_append, h.calls]
    rfl
  sent := by
    show c.sent ++ _ = _
    rw [h.sent, h.next, List.range'_concat, List.map_append, Nat.one_mul, Nat.add_comm 1 n]
    rfl
  underway i pending' hi := by
    change (c.calls ++ [.underway pending])[i]? = _ at hi
    -- the call stands behind the `n` calls that were begun before
    rcases Nat.lt_trichotomy i n with hlt | rfl | hgt
    · rw [List.getElem?_append_left (h.calls ▸ hlt)] at hi
      exact h.underway i pending' hi
    · rw [← h.calls, List.getElem?_concat_length] at hi
      cases hi
      rw [hpending, h.next]
    · rw [List.getElem?_eq_none (by rw [List.length_append, h.calls]; exact hgt)] at hi
      cases hi

/-- Whatever becomes of a call, it keeps its number and no other is used. -/
theorem set (h : c.Sound n) {i : Nat}
    {stage : Stage ((inquirer peers url).Pending ()) (CallResult Bool)}
    (hstage : ∀ pending, stage = .underway pending → pending.1 = UInt64.ofNat (i + 1)) :
    Sound ⟨c.numbering, c.sent, c.calls.set i stage⟩ n where
  next := h.next
  calls := by
    show (c.calls.set i stage).length = n
    rw [List.length_set, h.calls]
  sent := h.sent
  underway j pending hj := by
    change (c.calls.set i stage)[j]? = _ at hj
    by_cases hij : i = j
    · subst hij
      rw [List.getElem?_set_self'] at hj
      obtain ⟨_, -, hstage'⟩ := Option.map_eq_some_iff.mp hj
      exact hstage pending hstage'
    · rw [List.getElem?_set_ne hij] at hj
      exact h.underway j pending hj

end Caller.Sound

/-! ### The invariant of all clients -/

/-- A call that is resumed leaves the numbering alone and sends nothing, and it keeps its
number. -/
theorem resume_inquirer (pending : (inquirer peers url).Pending ())
    (s : CallState (List Http.Sent × ν)) :
    let resumed := (inquirer peers url).resume () pending s
    resumed.2.numbering = s.numbering ∧ resumed.2.network.1 = s.network.1 ∧
      ∀ pending', resumed.1 = .pending pending' → pending'.1 = pending.1 := by
  -- the peers are handed nothing but their own state and the clock
  have hnumbering : ((reached peers).resume (sent url pending.1) pending.2 s).2.numbering =
      s.numbering := rfl
  have hsent : ((reached peers).resume (sent url pending.1) pending.2 s).2.network.1 =
      s.network.1 := rfl
  unfold inquirer client
  dsimp only
  generalize (reached peers).resume (sent url pending.1) pending.2 s = resumed
    at hnumbering hsent ⊢
  obtain ⟨received | pending', s'⟩ := resumed
  · exact ⟨hnumbering, hsent, nofun⟩
  · refine ⟨hnumbering, hsent, ?_⟩
    rintro _ ⟨⟩
    rfl

namespace Callers

variable {urls : κ → Url} [DecidableEq κ] {c : Callers peers urls} {n : κ → Nat}

/-- Every client has begun so many calls. -/
def Sound (c : Callers peers urls) (n : κ → Nat) : Prop :=
  ∀ k, (c.caller k).Sound (n k)

/-- What is done to one client says nothing about the others. -/
theorem Sound.withCalls (h : c.Sound n) {k : κ} {s : CallState (List Http.Sent × ν)}
    {calls : List (Stage ((inquirer peers (urls k)).Pending ()) (CallResult Bool))} {m : Nat}
    (hk : Caller.Sound ⟨s.numbering, s.network.1, calls⟩ m) :
    (c.withCalls k s calls).Sound (Function.update n k m) := by
  intro k'
  show (Function.update c.caller k _ k').Sound _
  by_cases hkk : k' = k
  · subst hkk
    rw [Function.update_self, Function.update_self]
    exact hk
  · rw [Function.update_of_ne hkk, Function.update_of_ne hkk]
    exact h k'

theorem Sound.begin (h : c.Sound n) (k : κ) :
    (c.begin k).Sound (Function.update n k (n k + 1)) :=
  h.withCalls ((h k).begin rfl)

/-- What is done to a call that was begun leaves the counts as they are. -/
theorem Sound.setCall (h : c.Sound n) {k : κ} {s : CallState (List Http.Sent × ν)}
    (hnumbering : s.numbering = (c.caller k).numbering) (hsent : s.network.1 = (c.caller k).sent)
    {i : Nat} {stage : Stage ((inquirer peers (urls k)).Pending ()) (CallResult Bool)}
    (hstage : ∀ pending, stage = .underway pending → pending.1 = UInt64.ofNat (i + 1)) :
    (c.withCalls k s ((c.caller k).calls.set i stage)).Sound n := by
  have hk : Caller.Sound ⟨s.numbering, s.network.1, (c.caller k).calls.set i stage⟩ (n k) := by
    rw [hnumbering, hsent]
    exact (h k).set hstage
  have hcounts := h.withCalls hk
  rwa [Function.update_eq_self] at hcounts

theorem Sound.resume (h : c.Sound n) (k : κ) (i : Nat) : (c.resume k i).Sound n := by
  unfold Callers.resume
  split
  next pending hi =>
    obtain ⟨hnumbering, hsent, hpending⟩ := resume_inquirer pending (c.callState k)
    generalize (inquirer peers (urls k)).resume () pending (c.callState k) = resumed
      at hnumbering hsent hpending ⊢
    obtain ⟨result | pending', s⟩ := resumed
    · exact h.setCall hnumbering hsent nofun
    · refine h.setCall hnumbering hsent ?_
      rintro _ ⟨⟩
      rw [hpending pending' rfl, (h k).underway i pending hi]
  next => exact h

theorem Sound.giveUp (h : c.Sound n) (k : κ) (i : Nat) : (c.giveUp k i).Sound n := by
  unfold Callers.giveUp
  split
  next pending hi => exact h.setCall rfl rfl nofun
  next => exact h

theorem Sound.step (h : c.Sound n) (e : CallerEvent κ ν) :
    (c.step e).Sound fun k => n k + asked k [e] := by
  have hnone (hasker : e.asker? = none) : (fun k => n k + asked k [e]) = n := by
    funext k
    simp [asked, hasker]
  -- only a call that begins adds to a count, and only to that of its client
  cases e with
  | begin k =>
    have hcounts : (fun k' => n k' + asked k' [.begin (ν := ν) k]) =
        Function.update n k (n k + 1) := by
      funext k'
      by_cases hkk : k' = k
      · subst hkk
        simp [asked, CallerEvent.asker?]
      · simp [asked, CallerEvent.asker?, hkk, Ne.symm hkk]
    rw [hcounts]
    exact h.begin k
  | resume k i =>
    rw [hnone rfl]
    exact h.resume k i
  | giveUp k i =>
    rw [hnone rfl]
    exact h.giveUp k i
  | changeClock change =>
    rw [hnone rfl]
    exact h
  | changeNetwork change =>
    rw [hnone rfl]
    exact h

/-- By induction on the events: each of them adds to the counts what it begins. -/
theorem Sound.run (h : c.Sound n) (events : List (CallerEvent κ ν)) :
    (c.run events).Sound fun k => n k + asked k events := by
  induction events generalizing c n with
  | nil => exact h
  | cons e events ih =>
    have hevents := ih (h.step e)
    intro k
    show (((c.step e).run events).caller k).Sound (n k + asked k ([e] ++ events))
    rw [asked, List.countP_append, ← Nat.add_assoc]
    exact hevents k

end Callers

/-! ### The main result -/

/-- As long as fewer than 2 ^ 64 calls are begun on a client of a connection, they are
numbered from 1 on in the order in which they begin: each begins with one request to the
engine of the connection, and these are all requests of the client.  Neither what becomes of
the calls nor what happens on other clients, of this connection or another, makes a
difference. -/
theorem requests_numbered [DecidableEq κ] (peers : Http.Transport (ν × Clock))
    {connections : κ → Connection} {clients : κ → Handle}
    (hclients : ∀ k, (connections k).engineClient = .ok (clients k)) (site : Site) (network : ν)
    (events : List (CallerEvent κ ν)) (k : κ) (hfew : asked k events < 2 ^ 64) :
    let caller := ((Callers.opened peers clients site network).run events).caller k
    caller.calls.length = asked k events ∧
    (∀ i pending, caller.calls[i]? = some (.underway pending) → pending.1.toNat = i + 1) ∧
    ∃ url, (connections k).url = some url ∧
      List.Forall₂ (Asks url) (List.range' 1 (asked k events)) caller.sent := by
  intro caller
  -- so none of the numbers has been started over
  have hfits (i : Nat) (hi : i ≤ asked k events) : i < UInt64.size := Nat.lt_of_le_of_lt hi hfew
  have hopened : (Callers.opened peers clients site network).Sound fun _ => 0 :=
    fun k => .opened (eq_of_engineClient (hclients k)).2
  have hcaller : caller.Sound (0 + asked k events) := hopened.run events k
  rw [Nat.zero_add] at hcaller
  obtain ⟨-, hcalls, hsent, hunderway⟩ := hcaller
  refine ⟨hcalls, fun i pending hi => ?_, (clients k).url, (eq_of_engineClient (hclients k)).1, ?_⟩
  · have hlt : i < caller.calls.length := (List.getElem?_eq_some_iff.mp hi).1
    rw [hunderway i pending hi, UInt64.toNat_ofNat_of_lt' (hfits _ (by omega))]
  · rw [hsent, List.forall₂_map_right_iff, List.forall₂_same]
    intro i hi
    have hlt := (List.mem_range'_1.mp hi).2
    have hasks := asks_sent (clients k).url (UInt64.ofNat i)
    rwa [UInt64.toNat_ofNat_of_lt' (hfits i (by omega))] at hasks

/-- Two clients of one connection, to an engine that refuses connections: a call that failed
keeps its number, and the next one on its client has the number behind it. -/
theorem requests_numbered_refused :
    let url : Url := ⟨"http", some (.ipv4 0x7f000001), some 8551, ['/'], none⟩
    let connection : Connection := ⟨"http://127.0.0.1:8551", some url, 8000, none, "/data"⟩
    let refusing : Http.Transport (Unit × Clock) :=
      .immediate fun _ s => (.error Http.connectionLost, s)
    let events : List (CallerEvent Bool Unit) :=
      [.begin true, .begin false, .resume true 0, .begin true]
    ∃ client, connection.engineClient = .ok client ∧
      let callers :=
        (Callers.opened refusing (fun _ => client) ⟨"/data", ⟨0⟩, .empty, []⟩ ()).run events
      asked true events < 2 ^ 64 ∧ asked false events < 2 ^ 64 ∧
        (∃ e, (callers.caller true).calls[0]? = some (.answered (.error e) 0)) ∧
        List.Forall₂ (Asks url) [1, 2] (callers.caller true).sent ∧
        List.Forall₂ (Asks url) [1] (callers.caller false).sent := by
  intro url connection refusing events
  have hclient : connection.engineClient = .ok (.new url) := rfl
  refine ⟨_, hclient, ?_⟩
  intro callers
  have hfirst : asked true events < 2 ^ 64 := by decide
  have hsecond : asked false events < 2 ^ 64 := by decide
  obtain ⟨-, -, _, ⟨⟩, htrue⟩ :=
    requests_numbered refusing (fun _ => hclient) ⟨"/data", ⟨0⟩, .empty, []⟩ () events true hfirst
  obtain ⟨-, -, _, ⟨⟩, hfalse⟩ :=
    requests_numbered refusing (fun _ => hclient) ⟨"/data", ⟨0⟩, .empty, []⟩ () events false hsecond
  exact ⟨hfirst, hsecond, ⟨_, rfl⟩, htrue, hfalse⟩

end ExecutionLink.Engine
