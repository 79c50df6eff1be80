/-
Exactly which texts are payloads.

For each payload it is written down what holds it (`HeldBy`): an object in which
each declared key occurs once, with a value that holds the field, or an array of such
values in the declared order.  The formats read that and nothing else:

* `payload_formats_exact` — a text is read as a payload if and only if it spells a
  tree that holds the payload.  So neither blanks nor the order of keys nor keys
  that are not declared make a difference, and a declared key that is missing or
  repeated, in the payload or anywhere inside, makes the text no payload at all.
-/
import ExecutionLink.Payload
import ExecutionLink.Proofs.Json.Shape

namespace ExecutionLink

open Json

/-! ### What holds a payload -/

def ValidatorRegistration.HeldBy (r : ValidatorRegistration) : Tree → Prop :=
  HoldsRecord [
    ("fee_recipient", IsBytes r.feeRecipient),
    ("gas_limit", IsQuantity r.gasLimit),
    ("timestamp", IsQuantity r.timestamp),
    ("pubkey", IsBytes r.pubkey)]

def SignedValidatorRegistration.HeldBy (r : SignedValidatorRegistration) : Tree → Prop :=
  HoldsRecord [("message", r.message.HeldBy), ("signature", IsBytes r.signature)]

def ExecutionPayloadHeader.HeldBy (h : ExecutionPayloadHeader) : Tree → Prop :=
  HoldsRecord [
    ("parent_hash", IsBytes h.parentHash),
    ("fee_recipient", IsBytes h.feeRecipient),
    ("state_root", IsBytes h.stateRoot),
    ("prev_randao", IsBytes h.prevRandao),
    ("block_number", IsQuantity h.blockNumber),
    ("gas_limit", IsQuantity h.gasLimit),
    ("gas_used", IsQuantity h.gasUsed),
    ("timestamp", IsQuantity h.timestamp),
    ("block_hash", IsBytes h.blockHash),
    ("transactions_root", IsBytes h.transactionsRoot)]

def BuilderBid.HeldBy (b : BuilderBid) : Tree → Prop :=
  HoldsRecord [("header", b.header.HeldBy), ("value", IsText b.value), ("pubkey", IsBytes b.pubkey)]

def SignedBuilderBid.HeldBy (b : SignedBuilderBid) : Tree → Prop :=
  HoldsRecord [("message", b.message.HeldBy), ("signature", IsBytes b.signature)]

def BlindedBeaconBlock.HeldBy (b : BlindedBeaconBlock) : Tree → Prop :=
  HoldsRecord [
    ("slot", IsQuantity b.slot),
    ("proposer_index", IsQuantity b.proposerIndex),
    ("parent_root", IsBytes b.parentRoot),
    ("state_root", IsBytes b.stateRoot),
    ("execution_payload_header", b.executionPayloadHeader.HeldBy)]

def SignedBlindedBeaconBlock.HeldBy (b : SignedBlindedBeaconBlock) : Tree → Prop :=
  HoldsRecord [("message", b.message.HeldBy), ("signature", IsBytes b.signature)]

def ExecutionPayload.HeldBy (p : ExecutionPayload) : Tree → Prop :=
  HoldsRecord [
    ("parent_hash", IsBytes p.parentHash),
    ("fee_recipient", IsBytes p.feeRecipient),
    ("state_root", IsBytes p.stateRoot),
    ("prev_randao", IsBytes p.prevRandao),
    ("block_number", IsQuantity p.blockNumber),
    ("gas_limit", IsQuantity p.gasLimit),
    ("gas_used", IsQuantity p.gasUsed),
    ("timestamp", IsQuantity p.timestamp),
    ("block_hash", IsBytes p.blockHash),
    ("transactions", IsList IsText p.transactions)]

/-! ### The records in a payload -/

def ValidatorRegistration.shape : Shape :=
  .record [("fee_recipient", .value), ("gas_limit", .value), ("timestamp", .value),
    ("pubkey", .value)]

def SignedValidatorRegistration.shape : Shape :=
  .record [("message", ValidatorRegistration.shape), ("signature", .value)]

def ExecutionPayloadHeader.shape : Shape :=
  .record [("parent_hash", .value), ("fee_recipient", .value), ("state_root", .value),
    ("prev_randao", .value), ("block_number", .value), ("gas_limit", .value), ("gas_used", .value),
    ("timestamp", .value), ("block_hash", .value), ("transactions_root", .value)]

def BuilderBid.shape : Shape :=
  .record [("header", ExecutionPayloadHeader.shape), ("value", .value), ("pubkey", .value)]

def SignedBuilderBid.shape : Shape :=
  .record [("message", BuilderBid.shape), ("signature", .value)]

def BlindedBeaconBlock.shape : Shape :=
  .record [("slot", .value), ("proposer_index", .value), ("parent_root", .value),
    ("state_root", .value), ("execution_payload_header", ExecutionPayloadHeader.shape)]

def SignedBlindedBeaconBlock.shape : Shape :=
  .record [("message", BlindedBeaconBlock.shape), ("signature", .value)]

def ExecutionPayload.shape : Shape :=
  .record [("parent_hash", .value), ("fee_recipient", .value), ("state_root", .value),
    ("prev_randao", .value), ("block_number", .value), ("gas_limit", .value), ("gas_used", .value),
    ("timestamp", .value), ("block_hash", .value), ("transactions", .list .value)]

/-! ### Reading -/

/-- The format reads the texts of trees that hold a value, and no others.  Alike
trees are read alike, and defective ones not at all. -/
structure Json.Format.Exact {α : Type} (f : Format α) (holds : α → Tree → Prop) (shape : Shape) :
    Prop where
  reads : ∀ s a, f.read s = .ok a ↔ ∃ t, Spells s t ∧ holds a t
  alike : ∀ s s' t t', Spells s t → Spells s' t' → shape.alike t t' →
    ∀ a, f.read s = .ok a ↔ f.read s' = .ok a
  defective : ∀ s t, Spells s t → shape.defective t → ∀ a, f.read s ≠ .ok a

namespace Json.Format

theorem Reads.exact {α : Type} {f : Format α} {depth : Nat} {holds : α → Tree → Prop}
    {shape : Shape} (hf : f.Reads depth holds) (hdepth : depth ≤ documentRoom)
    (hshape : ∀ a, shape.Respects (holds a)) : f.Exact holds shape where
  reads s a := hf.read_eq_ok hdepth
  alike s s' t t' ht ht' halike a := by
    have hholds : holds a t ↔ holds a t' := (hshape a).congr t t' halike
    rw [hf.read_eq_ok hdepth, hf.read_eq_ok hdepth]
    constructor
    · rintro ⟨u, hu, ha⟩
      rw [Document.spells_unique hu ht] at ha
      exact ⟨t', ht', hholds.mp ha⟩
    · rintro ⟨u, hu, ha⟩
      rw [Document.spells_unique hu ht'] at ha
      exact ⟨t, ht, hholds.mpr ha⟩
  defective s t ht hdefective a hread := by
    obtain ⟨u, hu, ha⟩ := (hf.read_eq_ok hdepth).mp hread
    rw [Document.spells_unique hu ht] at ha
    exact (hshape a).refuses t hdefective ha

end Json.Format

open Json.Format (reads_text reads_bytes reads_quotedInteger)
open Json.Shape (respectAll_cons respectAll_value respects_value)

variable (depth : Nat)

theorem ValidatorRegistration.reads_format :
    ValidatorRegistration.format.Reads (depth + 1) HeldBy :=
  .record (.cons reads_bytes <| .cons reads_quotedInteger <| .cons reads_quotedInteger <|
    .cons reads_bytes .nil) (by decide) (fun _ => rfl) fun _ => rfl

theorem ValidatorRegistration.respects_shape (r : ValidatorRegistration) :
    shape.Respects r.HeldBy :=
  .record <| respectAll_value <| respectAll_value <| respectAll_value <| respectAll_value .nil

theorem SignedValidatorRegistration.reads_format :
    SignedValidatorRegistration.format.Reads (depth + 2) HeldBy :=
  .record (.cons (ValidatorRegistration.reads_format depth) <| .cons reads_bytes .nil)
    (by decide) (fun _ => rfl) fun _ => rfl

theorem SignedValidatorRegistration.respects_shape (r : SignedValidatorRegistration) :
    shape.Respects r.HeldBy :=
  .record <| respectAll_cons r.message.respects_shape <| respectAll_value .nil

theorem ExecutionPayloadHeader.reads_format :
    ExecutionPayloadHeader.format.Reads (depth + 1) HeldBy :=
  .record (.cons reads_bytes <| .cons reads_bytes <| .cons reads_bytes <| .cons reads_bytes <|
    .cons reads_quotedInteger <| .cons reads_quotedInteger <| .cons reads_quotedInteger <|
    .cons reads_quotedInteger <| .cons reads_bytes <| .cons reads_bytes .nil)
    (by decide) (fun _ => rfl) fun _ => rfl

theorem ExecutionPayloadHeader.respects_shape (h : ExecutionPayloadHeader) :
    shape.Respects h.HeldBy :=
  .record <| respectAll_value <| respectAll_value <| respectAll_value <| respectAll_value <|
    respectAll_value <| respectAll_value <| respectAll_value <| respectAll_value <|
    respectAll_value <| respectAll_value .nil

theorem BuilderBid.reads_format : BuilderBid.format.Reads (depth + 2) HeldBy :=
  .record (.cons (ExecutionPayloadHeader.reads_format depth) <| .cons reads_text <|
    .cons reads_bytes .nil) (by decide) (fun _ => rfl) fun _ => rfl

theorem BuilderBid.respects_shape (b : BuilderBid) : shape.Respects b.HeldBy :=
  .record <| respectAll_cons b.header.respects_shape <| respectAll_value <| respectAll_value .nil

theorem SignedBuilderBid.reads_format : SignedBuilderBid.format.Reads (depth + 3) HeldBy :=
  .record (.cons (BuilderBid.reads_format depth) <| .cons reads_bytes .nil)
    (by decide) (fun _ => rfl) fun _ => rfl

theorem SignedBuilderBid.respects_shape (b : SignedBuilderBid) : shape.Respects b.HeldBy :=
  .record <| respectAll_cons b.message.respects_shape <| respectAll_value .nil

theorem BlindedBeaconBlock.reads_format : BlindedBeaconBlock.format.Reads (depth + 2) HeldBy :=
  .record (.cons reads_quotedInteger <| .cons reads_quotedInteger <| .cons reads_bytes <|
    .cons reads_bytes <| .cons (ExecutionPayloadHeader.reads_format depth) .nil)
    (by decide) (fun _ => rfl) fun _ => rfl

theorem BlindedBeaconBlock.respects_shape (b : BlindedBeaconBlock) : shape.Respects b.HeldBy :=
  .record <| respectAll_value <| respectAll_value <| respectAll_value <| respectAll_value <|
    respectAll_cons b.executionPayloadHeader.respects_shape .nil

theorem SignedBlindedBeaconBlock.reads_format :
    SignedBlindedBeaconBlock.format.Reads (depth + 3) HeldBy :=
  .record (.cons (BlindedBeaconBlock.reads_format depth) <| .cons reads_bytes .nil)
    (by decide) (fun _ => rfl) fun _ => rfl

theorem SignedBlindedBeaconBlock.respects_shape (b : SignedBlindedBeaconBlock) :
    shape.Respects b.HeldBy :=
  .record <| respectAll_cons b.message.respects_shape <| respectAll_value .nil

theorem ExecutionPayload.reads_format : ExecutionPayload.format.Reads (depth + 2) HeldBy :=
  .record (.cons reads_bytes <| .cons reads_bytes <| .cons reads_bytes <| .cons reads_bytes <|
    .cons reads_quotedInteger <| .cons reads_quotedInteger <| .cons reads_quotedInteger <|
    .cons reads_quotedInteger <| .cons reads_bytes <| .cons reads_text.list .nil)
    (by decide) (fun _ => rfl) fun _ => rfl

/-- Each transaction is a value of its own. -/
theorem ExecutionPayload.respects_shape (p : ExecutionPayload) : shape.Respects p.HeldBy :=
  .record <| respectAll_value <| respectAll_value <| respectAll_value <| respectAll_value <|
    respectAll_value <| respectAll_value <| respectAll_value <| respectAll_value <|
    respectAll_value <| respectAll_cons (.list (fun s => respects_value (IsText s)) _) .nil

/-- The texts that are read as a payload are those that spell a tree that holds it.
What is alike at the declared keys is read alike, and a declared key that is missing
or repeated anywhere stops the reader.  Other keys make no difference as long as they stand
for texts; one that does not, as it has one half of a surrogate pair, stops the reader
like any other error of the syntax. -/
theorem payload_formats_exact :
    ValidatorRegistration.format.Exact ValidatorRegistration.HeldBy ValidatorRegistration.shape ∧
    SignedValidatorRegistration.format.Exact SignedValidatorRegistration.HeldBy
      SignedValidatorRegistration.shape ∧
    ExecutionPayloadHeader.format.Exact ExecutionPayloadHeader.HeldBy
      ExecutionPayloadHeader.shape ∧
    BuilderBid.format.Exact BuilderBid.HeldBy BuilderBid.shape ∧
    SignedBuilderBid.format.Exact SignedBuilderBid.HeldBy SignedBuilderBid.shape ∧
    BlindedBeaconBlock.format.Exact BlindedBeaconBlock.HeldBy BlindedBeaconBlock.shape ∧
    SignedBlindedBeaconBlock.format.Exact SignedBlindedBeaconBlock.HeldBy
      SignedBlindedBeaconBlock.shape ∧
    ExecutionPayload.format.Exact ExecutionPayload.HeldBy ExecutionPayload.shape := by
  refine ⟨?_, ?_, ?_, ?_, ?_, ?_, ?_, ?_⟩
  · exact (ValidatorRegistration.reads_format 0).exact (by decide) fun r => r.respects_shape
  · exact (SignedValidatorRegistration.reads_format 0).exact (by decide) fun r => r.respects_shape
  · exact (ExecutionPayloadHeader.reads_format 0).exact (by decide) fun h => h.respects_shape
  · exact (BuilderBid.reads_format 0).exact (by decide) fun b => b.respects_shape
  · exact (SignedBuilderBid.reads_format 0).exact (by decide) fun b => b.respects_shape
  · exact (BlindedBeaconBlock.reads_format 0).exact (by decide) fun b => b.respects_shape
  · exact (SignedBlindedBeaconBlock.reads_format 0).exact (by decide) fun b => b.respects_shape
  · exact (ExecutionPayload.reads_format 0).exact (by decide) fun p => p.respects_shape

end ExecutionLink
