/-
The channel that answers by itself.

Its answers depend only on the request and on what the clock shows.  The hashes
of the blocks it makes up are hashes of a word for their purpose followed by
what they depend on.  It builds empty blocks only, so it can supply the payload
of a header exactly if the header says that there are no transactions.
-/
import ExecutionLink.Bytes.Sha256
import ExecutionLink.Channel.Call
import ExecutionLink.Clock

namespace ExecutionLink.Stub

/-! ### Hashes -/

/-- What is hashed for a block's hash. -/
def blockHashInput (slot : UInt64) (parentHash : Bytes32) : List UInt8 :=
  Text.utf8 "block_hash" ++ bigEndian64 slot ++ parentHash.bytes

/-- What is hashed for the root of a block's state. -/
def stateRootInput (blockHash : Bytes32) : List UInt8 :=
  Text.utf8 "state_root" ++ blockHash.bytes

/-- What is hashed for a slot's randomness. -/
def randomnessInput (slot : UInt64) : List UInt8 :=
  Text.utf8 "prev_randao" ++ bigEndian64 slot

/-- What is hashed for the root of no transactions. -/
def transactionsInput : List UInt8 :=
  Text.utf8 "transactions"

/-- The root of no transactions. -/
def emptyTransactionsRoot : Bytes32 := Sha256.hash transactionsInput

/-! ### Answers -/

/-- The most gas that a block may use. -/
def gasLimit : UInt64 := 30000000

/-- The header of a slot's block at a time in seconds. -/
def header (seconds slot : UInt64) (parentHash : Bytes32) : ExecutionPayloadHeader :=
  let blockHash := Sha256.hash (blockHashInput slot parentHash)
  { parentHash
    feeRecipient := .zero 20
    stateRoot := Sha256.hash (stateRootInput blockHash)
    prevRandao := Sha256.hash (randomnessInput slot)
    blockNumber := slot
    gasLimit
    gasUsed := 0
    timestamp := seconds
    blockHash
    transactionsRoot := emptyTransactionsRoot }

/-- The bid with a header: it offers nothing and is signed by nobody. -/
def bid (header : ExecutionPayloadHeader) : SignedBuilderBid where
  message := { header, value := "0", pubkey := .zero 48 }
  signature := .zero 96

/-- The payload of a header without transactions. -/
def payload (h : ExecutionPayloadHeader) : ExecutionPayload where
  parentHash := h.parentHash
  feeRecipient := h.feeRecipient
  stateRoot := h.stateRoot
  prevRandao := h.prevRandao
  blockNumber := h.blockNumber
  gasLimit := h.gasLimit
  gasUsed := h.gasUsed
  timestamp := h.timestamp
  blockHash := h.blockHash
  transactions := []

/-- The answer about a block's payload. -/
def payloadFor (block : SignedBlindedBeaconBlock) : Response ExecutionPayload :=
  let h := block.message.executionPayloadHeader
  if h.transactionsRoot = emptyTransactionsRoot then .success (payload h)
  else .failure s!"stub has no transactions for block {h.blockHash.hex}"

/-- The answer to a call when the clock shows a time. -/
def answer (clock : Clock) : (c : ChannelCall) → Response c.Payload
  | .engineSyncing => .success false
  | .builder .status => .success ()
  | .builder (.registerValidators ..) => .success ()
  | .builder (.getHeader slot _ parentHash) =>
    .success (some (bid (header clock.seconds slot parentHash)))
  | .builder (.getPayload block) => payloadFor block

/-- The stub as a client. -/
def client {σ : Type} (clock : σ → Clock) : ChannelClient σ :=
  .immediate fun c s => (.ok (answer (clock s) c), s)

/-- The events logged when a call is made. -/
def events : ChannelCall → List LogEvent
  | .builder (.registerValidators slot registrations) =>
    [{ level := .debug
       topic := .stub
       message := "Stub accepted validator registrations"
       fields := [("slot", .plain (Text.Natural.render slot)),
         ("count", .plain (toString registrations.length))] }]
  | _ => []

end ExecutionLink.Stub
