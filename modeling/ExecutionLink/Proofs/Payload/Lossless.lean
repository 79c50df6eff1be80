/-
Payloads are read back from their texts.

A format is faithful because its fields are, with one container more for each
record or list around them.  No payload has more than three inside each other, so
there is room for all of them in a document.

* `payload_formats_lossless` — the text of every payload, of every error report and
  of every list of signed registrations is read as what it was written from.
-/
import ExecutionLink.Error
import ExecutionLink.Payload
import ExecutionLink.Proofs.Json.RoundTrip

namespace ExecutionLink

open Json.Format (faithful_bytes faithful_quotedInteger faithful_text)

variable (depth : Nat)

theorem ValidatorRegistration.faithful_format :
    ValidatorRegistration.format.Faithful (depth + 1) :=
  .record ⟨faithful_bytes, faithful_quotedInteger, faithful_quotedInteger, faithful_bytes, trivial⟩
    (by decide) fun _ => rfl

theorem SignedValidatorRegistration.faithful_format :
    SignedValidatorRegistration.format.Faithful (depth + 2) :=
  .record ⟨ValidatorRegistration.faithful_format _, faithful_bytes, trivial⟩
    (by decide) fun _ => rfl

theorem ExecutionPayloadHeader.faithful_format :
    ExecutionPayloadHeader.format.Faithful (depth + 1) :=
  .record ⟨faithful_bytes, faithful_bytes, faithful_bytes, faithful_bytes, faithful_quotedInteger,
    faithful_quotedInteger, faithful_quotedInteger, faithful_quotedInteger, faithful_bytes,
    faithful_bytes, trivial⟩ (by decide) fun _ => rfl

theorem BuilderBid.faithful_format : BuilderBid.format.Faithful (depth + 2) :=
  .record ⟨ExecutionPayloadHeader.faithful_format _, faithful_text, faithful_bytes, trivial⟩
    (by decide) fun _ => rfl

theorem SignedBuilderBid.faithful_format : SignedBuilderBid.format.Faithful (depth + 3) :=
  .record ⟨BuilderBid.faithful_format _, faithful_bytes, trivial⟩ (by decide) fun _ => rfl

theorem BlindedBeaconBlock.faithful_format : BlindedBeaconBlock.format.Faithful (depth + 2) :=
  .record ⟨faithful_quotedInteger, faithful_quotedInteger, faithful_bytes, faithful_bytes,
    ExecutionPayloadHeader.faithful_format _, trivial⟩ (by decide) fun _ => rfl

theorem SignedBlindedBeaconBlock.faithful_format :
    SignedBlindedBeaconBlock.format.Faithful (depth + 3) :=
  .record ⟨BlindedBeaconBlock.faithful_format _, faithful_bytes, trivial⟩ (by decide) fun _ => rfl

/-- Each transaction is a text inside a list, however many there are. -/
theorem ExecutionPayload.faithful_format : ExecutionPayload.format.Faithful (depth + 2) :=
  .record ⟨faithful_bytes, faithful_bytes, faithful_bytes, faithful_bytes, faithful_quotedInteger,
    faithful_quotedInteger, faithful_quotedInteger, faithful_quotedInteger, faithful_bytes,
    faithful_text.list, trivial⟩ (by decide) fun _ => rfl

theorem ErrorReport.faithful_format : ErrorReport.format.Faithful (depth + 1) :=
  .record ⟨faithful_text, faithful_text, trivial⟩ (by decide) fun _ => rfl

/-- The text of every payload, of every error report and of every list of signed
registrations is read as what it was written from, and no two of a kind have the
same text. -/
theorem payload_formats_lossless :
    ValidatorRegistration.format.Lossless ∧
    SignedValidatorRegistration.format.Lossless ∧
    ExecutionPayloadHeader.format.Lossless ∧
    BuilderBid.format.Lossless ∧
    SignedBuilderBid.format.Lossless ∧
    BlindedBeaconBlock.format.Lossless ∧
    SignedBlindedBeaconBlock.format.Lossless ∧
    ExecutionPayload.format.Lossless ∧
    ErrorReport.format.Lossless ∧
    SignedValidatorRegistration.format.list.Lossless := by
  refine ⟨?_, ?_, ?_, ?_, ?_, ?_, ?_, ?_, ?_, ?_⟩
  · exact (ValidatorRegistration.faithful_format 0).lossless (by decide)
  · exact (SignedValidatorRegistration.faithful_format 0).lossless (by decide)
  · exact (ExecutionPayloadHeader.faithful_format 0).lossless (by decide)
  · exact (BuilderBid.faithful_format 0).lossless (by decide)
  · exact (SignedBuilderBid.faithful_format 0).lossless (by decide)
  · exact (BlindedBeaconBlock.faithful_format 0).lossless (by decide)
  · exact (SignedBlindedBeaconBlock.faithful_format 0).lossless (by decide)
  · exact (ExecutionPayload.faithful_format 0).lossless (by decide)
  · exact (ErrorReport.faithful_format 0).lossless (by decide)
  · exact (SignedValidatorRegistration.faithful_format 0).list.lossless (by decide)

end ExecutionLink
