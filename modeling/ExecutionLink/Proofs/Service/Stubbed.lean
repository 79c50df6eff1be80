/-
A service with the stub in use.

The stub needs nobody to answer: a call on it is answered when it is resumed, by what
the request says and what the clock shows at this moment, whatever was called and
however the clock was changed before (`ChannelUse.ByClock`).  That holds along every
usage, and answers of any two usages can be compared:

* `Stub.payload_agrees_with_header` — a block with a header that a stub has offered has
  a payload on every stub, later or elsewhere, and the payload has this header.
* `Stub.header_depends_on_block` — headers for the same slot and parent differ in their
  time only, and others are hashed from different strings.
-/
import ExecutionLink.Proofs.Channel.Stub
import ExecutionLink.Proofs.Service.Usage

namespace ExecutionLink

variable {ν ν' : Type}

/-- The stub answers whoever resumes a call, and leaves everything as it is. -/
theorem Channel.resume_stub (transport : Http.Transport (CallState ν)) (c : ChannelCall)
    (pending : (Channel.stub.client transport).Pending c) (s : CallState ν) :
    (Channel.stub.client transport).resume c pending s =
      (.answered (.ok (Stub.answer s.site.clock c)), s) := rfl

/-- If the call was answered by the stub, then as the clock showed at that moment. -/
def ChannelUse.ByClock {peers : Http.Transport (ν × Clock)} (e : ChannelUse peers) : Prop :=
  match e with
  | ⟨.stub, c, .answered result finish⟩ => result = .ok (Stub.answer ⟨finish⟩ c)
  | _ => True

namespace Usage

variable {peers : Http.Transport (ν × Clock)} {u : Usage peers}

/-- The usage is one of a service that nobody had called before. -/
def Begun (u : Usage peers) : Prop :=
  ∃ s site network events, u = (Usage.opened peers s site network).run events

/-! ### What one event does -/

theorem calls_look (u : Usage peers) (i : Nat) : (u.look i).calls = u.calls := by
  unfold Usage.look
  rcases u.service.channels.poll i with ⟨glance, channels⟩
  cases glance <;> rfl

/-- A call on the stub is under way once it has begun. -/
theorem begin_stub {n : Nat} (hn : u.held[n]? = some .stub) (c : ChannelCall) :
    ∃ pending, (u.step (.begin n c)).calls[u.calls.length]? =
      some ⟨.stub, c, .underway pending⟩ := by
  show ∃ pending, (u.begin n c).calls[u.calls.length]? = _
  unfold Usage.begin
  rw [hn]
  exact ⟨_, List.getElem?_concat_length⟩

/-- A call on the stub that is resumed is answered. -/
theorem resume_stub {n : Nat} {c : ChannelCall}
    {pending : (Channel.stub.client (reached peers)).Pending c}
    (hn : u.calls[n]? = some ⟨.stub, c, .underway pending⟩) :
    (u.step (.resume n)).calls[n]? =
      some ⟨.stub, c, .answered (.ok (Stub.answer u.site.clock c)) u.site.clock.millis⟩ := by
  have hlt : n < u.calls.length := (List.getElem?_eq_some_iff.mp hn).1
  show (u.resume n).calls[n]? = _
  unfold Usage.resume
  rw [hn]
  dsimp only
  rw [Channel.resume_stub]
  exact List.getElem?_set_self hlt

theorem byClock_set (h : ∀ e ∈ u.calls, e.ByClock) (n : Nat) {d : ChannelUse peers}
    (hd : d.ByClock) : ∀ e ∈ u.calls.set n d, e.ByClock := by
  intro e he
  rcases List.mem_or_eq_of_mem_set he with he | rfl
  · exact h e he
  · exact hd

theorem byClock_begin (h : ∀ e ∈ u.calls, e.ByClock) (n : Nat) (c : ChannelCall) :
    ∀ e ∈ (u.begin n c).calls, e.ByClock := by
  unfold Usage.begin
  split
  · exact h
  · rename_i channel hn
    intro e he
    rcases List.mem_append.mp he with he | he
    · exact h e he
    · rw [List.mem_singleton.mp he]
      cases channel <;> trivial

/-- The stub answers by the clock, and whatever becomes of a call on another channel
is none of its answers. -/
theorem byClock_resume (h : ∀ e ∈ u.calls, e.ByClock) (n : Nat) :
    ∀ e ∈ (u.resume n).calls, e.ByClock := by
  unfold Usage.resume
  split
  · rename_i channel c pending hn
    cases channel with
    | stub =>
      rw [Channel.resume_stub]
      exact byClock_set h n (d := ⟨.stub, c, .answered _ _⟩) rfl
    | live engine builder =>
      split
      · exact byClock_set h n (d := ⟨.live engine builder, c, .answered _ _⟩) trivial
      · exact byClock_set h n (d := ⟨.live engine builder, c, .underway _⟩) trivial
  · exact h

theorem byClock_giveUp (h : ∀ e ∈ u.calls, e.ByClock) (n : Nat) :
    ∀ e ∈ (u.giveUp n).calls, e.ByClock := by
  unfold Usage.giveUp
  split
  · rename_i channel c pending hn
    refine byClock_set h n ?_
    cases channel <;> trivial
  · exact h

theorem byClock_step (h : ∀ e ∈ u.calls, e.ByClock) (event : UsageEvent) :
    ∀ e ∈ (u.step event).calls, e.ByClock := by
  cases event with
  | look i =>
    show ∀ e ∈ (u.look i).calls, _
    rw [calls_look]
    exact h
  | begin n c => exact byClock_begin h n c
  | resume n => exact byClock_resume h n
  | giveUp n => exact byClock_giveUp h n
  | _ => exact h

/-! ### What a whole usage does -/

theorem byClock_run (h : ∀ e ∈ u.calls, e.ByClock) (events : List UsageEvent) :
    ∀ e ∈ (u.run events).calls, e.ByClock := by
  induction events generalizing u with
  | nil => exact h
  | cons event events ih => exact ih (byClock_step h event)

theorem Begun.run (h : u.Begun) (events : List UsageEvent) : (u.run events).Begun := by
  obtain ⟨s, site, network, earlier, rfl⟩ := h
  exact ⟨s, site, network, earlier ++ events, List.foldl_append.symm⟩

/-- Every answer of the stub is by the clock. -/
theorem Begun.answer_eq (h : u.Begun) {c : ChannelCall} {result : CallResult c.Payload}
    {finish : UInt64} (he : ⟨.stub, c, .answered result finish⟩ ∈ u.calls) :
    result = .ok (Stub.answer ⟨finish⟩ c) := by
  obtain ⟨s, site, network, events, rfl⟩ := h
  exact byClock_run (List.forall_mem_nil _) events _ he

end Usage

namespace Stub

variable {peers : Http.Transport (ν × Clock)} {peers' : Http.Transport (ν' × Clock)}
  {u : Usage peers} {u' : Usage peers'}

/-- Peers that are never reached. -/
def unreached : Http.Transport (Unit × Clock) :=
  .immediate fun _ s => (.error Http.connectionLost, s)

/-! ### The main results -/

/-- A header that a stub has offered is put into any block and the block's payload is
asked for, later on the same channel or on that of another service: there is one,
without transactions, and its header is the one that was offered.  In general there is
a payload just for blocks whose header has the root of no transactions, its header is
then that of the block, and all others are refused.  Whoever has a stub can begin such
a call, and is answered when it is resumed. -/
theorem payload_agrees_with_header (hu : u.Begun) (hu' : u'.Begun) :
    (∀ n c, u'.held[n]? = some .stub → ∃ pending,
      (u'.step (.begin n c)).calls[u'.calls.length]? = some ⟨.stub, c, .underway pending⟩) ∧
    (∀ n c pending, u'.calls[n]? = some ⟨.stub, c, .underway pending⟩ →
      ∃ response, (u'.step (.resume n)).calls[n]? =
        some ⟨.stub, c, .answered (.ok response) u'.site.clock.millis⟩) ∧
    (∀ slot pubkey parentHash result finish,
      ⟨.stub, .builder (.getHeader slot pubkey parentHash), .answered result finish⟩ ∈ u.calls →
      ∃ bid, result = .ok (.success (some bid)) ∧
        ∀ block result' finish', block.message.executionPayloadHeader = bid.message.header →
          ⟨.stub, .builder (.getPayload block), .answered result' finish'⟩ ∈ u'.calls →
          ∃ payload, result' = .ok (.success payload) ∧ payload.transactions = [] ∧
            payload.header bid.message.header.transactionsRoot = bid.message.header) ∧
    ∀ block result finish,
      ⟨.stub, .builder (.getPayload block), .answered result finish⟩ ∈ u'.calls →
      ∃ response, result = .ok response ∧
        ((∃ payload, response = .success payload) ↔
          block.message.executionPayloadHeader.transactionsRoot = emptyTransactionsRoot) ∧
        (∀ payload, response = .success payload →
          payload.header emptyTransactionsRoot = block.message.executionPayloadHeader) ∧
        (block.message.executionPayloadHeader.transactionsRoot ≠ emptyTransactionsRoot →
          ∃ m, response = .failure m) := by
  refine ⟨?_, ?_, ?_, ?_⟩
  · intro n c hn
    exact Usage.begin_stub hn c
  · intro n c pending hn
    exact ⟨_, Usage.resume_stub hn⟩
  · intro slot pubkey parentHash result finish hheader
    obtain rfl := hu.answer_eq hheader
    refine ⟨_, rfl, fun block result' finish' hblock hpayload => ?_⟩
    obtain rfl := hu'.answer_eq hpayload
    -- the root in an offered header is the one that the stub accepts
    have hroot : block.message.executionPayloadHeader.transactionsRoot =
        emptyTransactionsRoot := by
      rw [hblock]
      exact (hashedFrom_header _ slot parentHash).transactionsRoot
    refine ⟨_, congrArg Except.ok (payloadFor_of_root hroot), rfl, ?_⟩
    rw [← hblock]
    exact header_payload _
  · intro block result finish hpayload
    obtain rfl := hu'.answer_eq hpayload
    refine ⟨payloadFor block, rfl, ?_⟩
    by_cases hroot : block.message.executionPayloadHeader.transactionsRoot = emptyTransactionsRoot
    · rw [payloadFor_of_root hroot]
      refine ⟨iff_of_true ⟨_, rfl⟩ hroot, ?_, fun hother => absurd hroot hother⟩
      rintro _ ⟨⟩
      rw [← hroot]
      exact header_payload _
    · obtain ⟨m, hanswer⟩ := payloadFor_of_root_ne hroot
      rw [hanswer]
      refine ⟨iff_of_false ?_ hroot, ?_, fun _ => ⟨m, rfl⟩⟩
      · rintro ⟨_, ⟨⟩⟩
      · rintro _ ⟨⟩

/-- The clock is set back between the two calls. -/
theorem payload_agrees_with_header_set_back :
    ∃ s site', Service.new { dataDirectory := "./data", clock := ⟨7999⟩ } .stub = (.ok s, site') ∧
      let u := (Usage.opened unreached s site' ()).run
        [.start, .readChannel, .begin 0 (.builder (.getHeader 3 (.zero 48) (.zero 32))), .resume 0]
      ∃ bid, ⟨.stub, .builder (.getHeader 3 (.zero 48) (.zero 32)),
          .answered (.ok (.success (some bid))) 7999⟩ ∈ u.calls ∧
        let block : SignedBlindedBeaconBlock :=
          ⟨⟨4, 0, .zero 32, .zero 32, bid.message.header⟩, .zero 96⟩
        let u' := u.run [.changeClock ⟨none, some 0⟩, .begin 0 (.builder (.getPayload block)),
          .resume 1]
        ∃ payload,
          ⟨.stub, .builder (.getPayload block), .answered (.ok (.success payload)) 0⟩ ∈ u'.calls ∧
          payload.transactions = [] ∧
          payload.header bid.message.header.transactionsRoot = bid.message.header := by
  refine ⟨_, _, rfl, ?_⟩
  intro u
  have hu : u.Begun := ⟨_, _, _, _, rfl⟩
  have hheader : ⟨.stub, .builder (.getHeader 3 (.zero 48) (.zero 32)), .answered _ 7999⟩ ∈
      u.calls := List.mem_cons_self
  refine ⟨_, hheader, ?_⟩
  intro block u'
  have hpayload : ⟨.stub, .builder (.getPayload block), .answered (.ok (answer ⟨0⟩ _)) 0⟩ ∈
      u'.calls := List.mem_cons_of_mem _ List.mem_cons_self
  obtain ⟨-, -, hoffered, -⟩ := payload_agrees_with_header hu (hu.run _)
  obtain ⟨_, ⟨⟩, hagrees⟩ := hoffered _ _ _ _ _ hheader
  obtain ⟨payload, hresult, hempty, hagree⟩ := hagrees block _ _ rfl hpayload
  exact ⟨payload, hresult ▸ hpayload, hempty, hagree⟩

/-- Two headers that were offered by stubs, whatever happened before.  For the same
slot and parent the bids are equal but for the times, which are what the clocks showed
in whole seconds.  Otherwise the blocks are hashed from different strings, and blocks
with equal hashes would be a collision.  The four hashes of a header are never taken of
the same string. -/
theorem header_depends_on_block (hu : u.Begun) (hu' : u'.Begun) {slot slot' : UInt64}
    {pubkey pubkey' : PublicKey} {parentHash parentHash' : Bytes32}
    {result result' : CallResult (Option SignedBuilderBid)} {finish finish' : UInt64}
    (h : ⟨.stub, .builder (.getHeader slot pubkey parentHash), .answered result finish⟩ ∈ u.calls)
    (h' : ⟨.stub, .builder (.getHeader slot' pubkey' parentHash'), .answered result' finish'⟩ ∈
      u'.calls) :
    ∃ bid bid', result = .ok (.success (some bid)) ∧ result' = .ok (.success (some bid')) ∧
      bid.message.header.timestamp.toNat = finish.toNat / 1000 ∧
      bid'.message.header.timestamp.toNat = finish'.toNat / 1000 ∧
      (slot = slot' ∧ parentHash = parentHash' →
        { bid with message.header.timestamp := bid'.message.header.timestamp } = bid') ∧
      (¬(slot = slot' ∧ parentHash = parentHash') →
        blockHashInput slot parentHash ≠ blockHashInput slot' parentHash' ∧
        (bid.message.header.blockHash = bid'.message.header.blockHash →
          Sha256.Collision (blockHashInput slot parentHash)
            (blockHashInput slot' parentHash'))) ∧
      HashedFrom bid.message.header (blockHashInput slot parentHash)
        (stateRootInput bid.message.header.blockHash) (randomnessInput slot) transactionsInput ∧
      HashedFrom bid'.message.header (blockHashInput slot' parentHash')
        (stateRootInput bid'.message.header.blockHash) (randomnessInput slot')
        transactionsInput ∧
      ∀ slot₁ slot₂ parentHash blockHash,
        [blockHashInput slot₁ parentHash, stateRootInput blockHash, randomnessInput slot₂,
          transactionsInput].Nodup := by
  obtain rfl := hu.answer_eq h
  obtain rfl := hu'.answer_eq h'
  refine ⟨_, _, rfl, rfl, Clock.toNat_seconds ⟨finish⟩, Clock.toNat_seconds ⟨finish'⟩, ?_, ?_,
    hashedFrom_header _ slot parentHash, hashedFrom_header _ slot' parentHash', nodup_inputs⟩
  · rintro ⟨rfl, rfl⟩
    exact withTime_bid _ _ slot parentHash
  · intro hother
    have hne : blockHashInput slot parentHash ≠ blockHashInput slot' parentHash' :=
      fun heq => hother (blockHashInput_injective heq)
    exact ⟨hne, fun hhash => ⟨hne, hhash⟩⟩

/-- The same block is asked for with another key when the clock has been set back, and then
the block of the next slot, which is hashed from another string. -/
theorem header_depends_on_block_set_back :
    ∃ s site', Service.new { dataDirectory := "./data", clock := ⟨7999⟩ } .stub = (.ok s, site') ∧
      let u := (Usage.opened unreached s site' ()).run
        [.start, .readChannel, .begin 0 (.builder (.getHeader 3 (.zero 48) (.zero 32))), .resume 0]
      let key : PublicKey := .padded 48 [1]
      let u' := u.run [.changeClock ⟨none, some 5000⟩,
        .begin 0 (.builder (.getHeader 3 key (.zero 32))), .resume 1,
        .begin 0 (.builder (.getHeader 4 key (.zero 32))), .resume 2]
      ∃ bid bid' bid'',
        ⟨.stub, .builder (.getHeader 3 (.zero 48) (.zero 32)),
          .answered (.ok (.success (some bid))) 7999⟩ ∈ u.calls ∧
        ⟨.stub, .builder (.getHeader 3 key (.zero 32)),
          .answered (.ok (.success (some bid'))) 5000⟩ ∈ u'.calls ∧
        ⟨.stub, .builder (.getHeader 4 key (.zero 32)),
          .answered (.ok (.success (some bid''))) 5000⟩ ∈ u'.calls ∧
        { bid with message.header.timestamp := bid'.message.header.timestamp } = bid' ∧
        bid.message.header.timestamp.toNat = 7 ∧ bid'.message.header.timestamp.toNat = 5 ∧
        blockHashInput 3 (.zero 32) ≠ blockHashInput 4 (.zero 32) ∧
        (bid.message.header.blockHash = bid''.message.header.blockHash →
          Sha256.Collision (blockHashInput 3 (.zero 32)) (blockHashInput 4 (.zero 32))) := by
  refine ⟨_, _, rfl, ?_⟩
  intro u key u'
  have hu : u.Begun := ⟨_, _, _, _, rfl⟩
  have hfirst : ⟨.stub, .builder (.getHeader 3 (.zero 48) (.zero 32)), .answered _ 7999⟩ ∈
      u.calls := List.mem_cons_self
  have hsecond : ⟨.stub, .builder (.getHeader 3 key (.zero 32)), .answered _ 5000⟩ ∈
      u'.calls := List.mem_cons_of_mem _ List.mem_cons_self
  have hthird : ⟨.stub, .builder (.getHeader 4 key (.zero 32)), .answered _ 5000⟩ ∈
      u'.calls := List.mem_cons_of_mem _ (List.mem_cons_of_mem _ List.mem_cons_self)
  obtain ⟨_, _, ⟨⟩, ⟨⟩, htime, htime', hsame, -⟩ :=
    header_depends_on_block hu (hu.run _) hfirst hsecond
  obtain ⟨_, _, ⟨⟩, ⟨⟩, -, -, -, hother, -⟩ :=
    header_depends_on_block hu (hu.run _) hfirst hthird
  have hslots : ¬((3 : UInt64) = 4 ∧ (.zero 32 : Bytes32) = .zero 32) := fun h => by
    have hslot : (3 : UInt64) ≠ 4 := by decide
    exact hslot h.1
  obtain ⟨hstrings, hcollision⟩ := hother hslots
  exact ⟨_, _, _, hfirst, hsecond, hthird, hsame ⟨rfl, rfl⟩, htime, htime', hstrings, hcollision⟩

end Stub

end ExecutionLink
