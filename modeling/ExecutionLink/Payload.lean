/-
The payloads exchanged with a block builder, and their formats.

Quantities travel as strings of decimal digits and byte strings as hexadecimal
text.  A format lists the members of a payload in the order in which they are
written.
-/
import ExecutionLink.Json.Format

namespace ExecutionLink

open Json (Format Fields)

/-- The fee recipient and gas limit a validator asks for. -/
structure ValidatorRegistration where
  feeRecipient : Address
  gasLimit : UInt64
  timestamp : UInt64
  pubkey : PublicKey
  deriving DecidableEq

/-- A registration with the validator's signature. -/
structure SignedValidatorRegistration where
  message : ValidatorRegistration
  signature : Signature
  deriving DecidableEq

/-- What a block commits to about its execution payload. -/
structure ExecutionPayloadHeader where
  parentHash : Bytes32
  feeRecipient : Address
  stateRoot : Bytes32
  prevRandao : Bytes32
  blockNumber : UInt64
  gasLimit : UInt64
  gasUsed : UInt64
  timestamp : UInt64
  blockHash : Bytes32
  transactionsRoot : Bytes32
  deriving DecidableEq

/-- A builder's offer of a header; the value is decimal text. -/
structure BuilderBid where
  header : ExecutionPayloadHeader
  value : String
  pubkey : PublicKey
  deriving DecidableEq

/-- An offer with the builder's signature. -/
structure SignedBuilderBid where
  message : BuilderBid
  signature : Signature
  deriving DecidableEq

/-- A block with a header in the place of its payload. -/
structure BlindedBeaconBlock where
  slot : UInt64
  proposerIndex : UInt64
  parentRoot : Bytes32
  stateRoot : Bytes32
  executionPayloadHeader : ExecutionPayloadHeader
  deriving DecidableEq

/-- A blinded block with the proposer's signature. -/
structure SignedBlindedBeaconBlock where
  message : BlindedBeaconBlock
  signature : Signature
  deriving DecidableEq

/-- A payload with its transactions, each an opaque hexadecimal text. -/
structure ExecutionPayload where
  parentHash : Bytes32
  feeRecipient : Address
  stateRoot : Bytes32
  prevRandao : Bytes32
  blockNumber : UInt64
  gasLimit : UInt64
  gasUsed : UInt64
  timestamp : UInt64
  blockHash : Bytes32
  transactions : List String
  deriving DecidableEq

/-- The header of a payload whose transactions have the given root. -/
def ExecutionPayload.header (p : ExecutionPayload) (transactionsRoot : Bytes32) :
    ExecutionPayloadHeader where
  parentHash := p.parentHash
  feeRecipient := p.feeRecipient
  stateRoot := p.stateRoot
  prevRandao := p.prevRandao
  blockNumber := p.blockNumber
  gasLimit := p.gasLimit
  gasUsed := p.gasUsed
  timestamp := p.timestamp
  blockHash := p.blockHash
  transactionsRoot := transactionsRoot

/-- The payload a header describes, with the given transactions. -/
def ExecutionPayloadHeader.payload (h : ExecutionPayloadHeader) (transactions : List String) :
    ExecutionPayload where
  parentHash := h.parentHash
  feeRecipient := h.feeRecipient
  stateRoot := h.stateRoot
  prevRandao := h.prevRandao
  blockNumber := h.blockNumber
  gasLimit := h.gasLimit
  gasUsed := h.gasUsed
  timestamp := h.timestamp
  blockHash := h.blockHash
  transactions := transactions

/-- A payload made from a header has that header. -/
@[simp] theorem ExecutionPayloadHeader.header_payload (h : ExecutionPayloadHeader)
    (transactions : List String) :
    (h.payload transactions).header h.transactionsRoot = h := rfl

/-! ### Formats -/

/-- The format of registrations. -/
def ValidatorRegistration.format : Format ValidatorRegistration :=
  .record "ValidatorRegistration"
    (.required "fee_recipient" (.bytes 20) <|
      .required "gas_limit" .quotedInteger <|
      .required "timestamp" .quotedInteger <|
      .required "pubkey" (.bytes 48) .nil)
    (fun r => (r.feeRecipient, r.gasLimit, r.timestamp, r.pubkey, ()))
    (fun (feeRecipient, gasLimit, timestamp, pubkey, ()) =>
      ⟨feeRecipient, gasLimit, timestamp, pubkey⟩)

/-- The format of signed registrations. -/
def SignedValidatorRegistration.format : Format SignedValidatorRegistration :=
  .record "SignedValidatorRegistration"
    (.required "message" ValidatorRegistration.format <|
      .required "signature" (.bytes 96) .nil)
    (fun r => (r.message, r.signature, ()))
    (fun (message, signature, ()) => ⟨message, signature⟩)

/-- The format of payload headers. -/
def ExecutionPayloadHeader.format : Format ExecutionPayloadHeader :=
  .record "ExecutionPayloadHeader"
    (.required "parent_hash" (.bytes 32) <|
      .required "fee_recipient" (.bytes 20) <|
      .required "state_root" (.bytes 32) <|
      .required "prev_randao" (.bytes 32) <|
      .required "block_number" .quotedInteger <|
      .required "gas_limit" .quotedInteger <|
      .required "gas_used" .quotedInteger <|
      .required "timestamp" .quotedInteger <|
      .required "block_hash" (.bytes 32) <|
      .required "transactions_root" (.bytes 32) .nil)
    (fun h => (h.parentHash, h.feeRecipient, h.stateRoot, h.prevRandao, h.blockNumber, h.gasLimit,
      h.gasUsed, h.timestamp, h.blockHash, h.transactionsRoot, ()))
    (fun (parentHash, feeRecipient, stateRoot, prevRandao, blockNumber, gasLimit, gasUsed,
        timestamp, blockHash, transactionsRoot, ()) =>
      ⟨parentHash, feeRecipient, stateRoot, prevRandao, blockNumber, gasLimit, gasUsed, timestamp,
        blockHash, transactionsRoot⟩)

/-- The format of bids. -/
def BuilderBid.format : Format BuilderBid :=
  .record "BuilderBid"
    (.required "header" ExecutionPayloadHeader.format <|
      .required "value" .text <|
      .required "pubkey" (.bytes 48) .nil)
    (fun b => (b.header, b.value, b.pubkey, ()))
    (fun (header, value, pubkey, ()) => ⟨header, value, pubkey⟩)

/-- The format of signed bids. -/
def SignedBuilderBid.format : Format SignedBuilderBid :=
  .record "SignedBuilderBid"
    (.required "message" BuilderBid.format <|
      .required "signature" (.bytes 96) .nil)
    (fun b => (b.message, b.signature, ()))
    (fun (message, signature, ()) => ⟨message, signature⟩)

/-- The format of blinded blocks. -/
def BlindedBeaconBlock.format : Format BlindedBeaconBlock :=
  .record "BlindedBeaconBlock"
    (.required "slot" .quotedInteger <|
      .required "proposer_index" .quotedInteger <|
      .required "parent_root" (.bytes 32) <|
      .required "state_root" (.bytes 32) <|
      .required "execution_payload_header" ExecutionPayloadHeader.format .nil)
    (fun b => (b.slot, b.proposerIndex, b.parentRoot, b.stateRoot, b.executionPayloadHeader, ()))
    (fun (slot, proposerIndex, parentRoot, stateRoot, executionPayloadHeader, ()) =>
      ⟨slot, proposerIndex, parentRoot, stateRoot, executionPayloadHeader⟩)

/-- The format of signed blinded blocks. -/
def SignedBlindedBeaconBlock.format : Format SignedBlindedBeaconBlock :=
  .record "SignedBlindedBeaconBlock"
    (.required "message" BlindedBeaconBlock.format <|
      .required "signature" (.bytes 96) .nil)
    (fun b => (b.message, b.signature, ()))
    (fun (message, signature, ()) => ⟨message, signature⟩)

/-- The format of payloads. -/
def ExecutionPayload.format : Format ExecutionPayload :=
  .record "ExecutionPayload"
    (.required "parent_hash" (.bytes 32) <|
      .required "fee_recipient" (.bytes 20) <|
      .required "state_root" (.bytes 32) <|
      .required "prev_randao" (.bytes 32) <|
      .required "block_number" .quotedInteger <|
      .required "gas_limit" .quotedInteger <|
      .required "gas_used" .quotedInteger <|
      .required "timestamp" .quotedInteger <|
      .required "block_hash" (.bytes 32) <|
      .required "transactions" (.list .text) .nil)
    (fun p => (p.parentHash, p.feeRecipient, p.stateRoot, p.prevRandao, p.blockNumber, p.gasLimit,
      p.gasUsed, p.timestamp, p.blockHash, p.transactions, ()))
    (fun (parentHash, feeRecipient, stateRoot, prevRandao, blockNumber, gasLimit, gasUsed,
        timestamp, blockHash, transactions, ()) =>
      ⟨parentHash, feeRecipient, stateRoot, prevRandao, blockNumber, gasLimit, gasUsed, timestamp,
        blockHash, transactions⟩)

end ExecutionLink
