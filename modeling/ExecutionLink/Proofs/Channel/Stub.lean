/-
The blocks that the stub makes up.

A header depends on the clock only through its time; everything else in it is fixed or
a hash of what the request says.  The hashed strings are a word for their purpose
followed by parts of fixed width, so they can be told apart without separators.

* `Stub.blockHashInput_injective`, `Stub.nodup_inputs` — different blocks are hashed
  from different strings, and so are the four hashes of a header.
* `Stub.withTime_bid` — bids of one block differ in their time only.
* `Stub.payloadFor_of_root`, `Stub.header_payload` — there is a payload if the header
  has the root of no transactions, and a payload has the header it was made from.
-/
import ExecutionLink.Channel.Stub
import Mathlib.Data.List.Nodup

namespace ExecutionLink

/-- The clock shows whole seconds. -/
theorem Clock.toNat_seconds (c : Clock) : c.seconds.toNat = c.millis.toNat / 1000 :=
  UInt64.toNat_div c.millis 1000

/-- Two different strings with the same hash. -/
def Sha256.Collision (x y : List UInt8) : Prop :=
  x ≠ y ∧ Sha256.hash x = Sha256.hash y

namespace Stub

/-! ### What is hashed -/

section Lengths

variable (slot : UInt64) (hash : Bytes32)

theorem length_blockHashInput : (blockHashInput slot hash).length = 50 := by
  rw [blockHashInput, List.length_append, List.length_append, hash.length_bytes]
  rfl

theorem length_stateRootInput : (stateRootInput hash).length = 42 := by
  rw [stateRootInput, List.length_append, hash.length_bytes]
  rfl

theorem length_randomnessInput : (randomnessInput slot).length = 19 := rfl

theorem length_transactionsInput : transactionsInput.length = 12 := rfl

end Lengths

/-- The slot and the parent of a block can be read off what is hashed for it. -/
theorem blockHashInput_injective {slot slot' : UInt64} {parentHash parentHash' : Bytes32}
    (h : blockHashInput slot parentHash = blockHashInput slot' parentHash') :
    slot = slot' ∧ parentHash = parentHash' := by
  -- all parts have fixed widths, so the strings fall apart at the same places
  have hwidth : (Text.utf8 "block_hash" ++ bigEndian64 slot).length =
      (Text.utf8 "block_hash" ++ bigEndian64 slot').length := by
    rw [List.length_append, List.length_append, length_bigEndian64, length_bigEndian64]
  obtain ⟨hfront, hparent⟩ := List.append_inj h hwidth
  have hslot : bigEndian64 slot = bigEndian64 slot' := List.append_cancel_left hfront
  exact ⟨bigEndian64_injective hslot, FixedBytes.ext hparent⟩

/-- The four hashes of a header are never hashes of one string: the strings do not
even have the same length. -/
theorem nodup_inputs (slot slot' : UInt64) (parentHash blockHash : Bytes32) :
    [blockHashInput slot parentHash, stateRootInput blockHash, randomnessInput slot',
      transactionsInput].Nodup := by
  refine List.Nodup.of_map List.length ?_
  show [_, _, _, _].Nodup
  rw [length_blockHashInput, length_stateRootInput, length_randomnessInput,
    length_transactionsInput]
  decide

/-- The hashes of a header are those of four strings. -/
structure HashedFrom (h : ExecutionPayloadHeader)
    (block state randomness transactions : List UInt8) : Prop where
  blockHash : h.blockHash = Sha256.hash block
  stateRoot : h.stateRoot = Sha256.hash state
  prevRandao : h.prevRandao = Sha256.hash randomness
  transactionsRoot : h.transactionsRoot = Sha256.hash transactions

theorem hashedFrom_header (seconds slot : UInt64) (parentHash : Bytes32) :
    let h := header seconds slot parentHash
    HashedFrom h (blockHashInput slot parentHash) (stateRootInput h.blockHash)
      (randomnessInput slot) transactionsInput :=
  ⟨rfl, rfl, rfl, rfl⟩

/-! ### Bids -/

/-- Bids for the same block are equal but for the time. -/
theorem withTime_bid (seconds seconds' slot : UInt64) (parentHash : Bytes32) :
    { bid (header seconds slot parentHash) with message.header.timestamp := seconds' } =
      bid (header seconds' slot parentHash) := rfl

/-! ### Payloads -/

/-- A payload has the header it was made from, whatever else is said about its
transactions. -/
theorem header_payload (h : ExecutionPayloadHeader) : (payload h).header h.transactionsRoot = h :=
  h.header_payload []

section Payloads

variable {block : SignedBlindedBeaconBlock}

theorem payloadFor_of_root
    (h : block.message.executionPayloadHeader.transactionsRoot = emptyTransactionsRoot) :
    payloadFor block = .success (payload block.message.executionPayloadHeader) := by
  unfold payloadFor
  rw [if_pos h]

theorem payloadFor_of_root_ne
    (h : block.message.executionPayloadHeader.transactionsRoot ≠ emptyTransactionsRoot) :
    ∃ m, payloadFor block = .failure m := by
  unfold payloadFor
  rw [if_neg h]
  exact ⟨_, rfl⟩

end Payloads

end Stub

end ExecutionLink
