/-
What goes to a builder and comes back from it loses nothing.

* `headerArguments?` — what a path asks a header for, read from its segments.
* `Carries` — the text is an object with what a value is written as under `data`.
* `wire_faithful` — the path of a header says what it was asked for, the bodies
  that are posted say what was handed over, and a builder that answers with what a
  bid or a payload is written as has the caller get that bid or payload.
-/
import ExecutionLink.Proofs.Builder.Answers
import ExecutionLink.Proofs.Json.Sorted
import ExecutionLink.Proofs.Payload.Exact
import ExecutionLink.Proofs.Payload.Lossless

namespace ExecutionLink

open Json (Format Spells Tree documentRoom membersNamed)
open Json.Format (keeps_bytes keeps_quotedInteger)

/-! ### Posted bodies -/

theorem ValidatorRegistration.keeps_format : ValidatorRegistration.format.Keeps HeldBy :=
  .record (.cons keeps_bytes <| .cons keeps_quotedInteger <| .cons keeps_quotedInteger <|
    .cons keeps_bytes .nil) (by decide)

theorem SignedValidatorRegistration.keeps_format :
    SignedValidatorRegistration.format.Keeps HeldBy :=
  .record (.cons ValidatorRegistration.keeps_format <| .cons keeps_bytes .nil) (by decide)

theorem ExecutionPayloadHeader.keeps_format : ExecutionPayloadHeader.format.Keeps HeldBy :=
  .record (.cons keeps_bytes <| .cons keeps_bytes <| .cons keeps_bytes <| .cons keeps_bytes <|
    .cons keeps_quotedInteger <| .cons keeps_quotedInteger <| .cons keeps_quotedInteger <|
    .cons keeps_quotedInteger <| .cons keeps_bytes <| .cons keeps_bytes .nil) (by decide)

theorem BlindedBeaconBlock.keeps_format : BlindedBeaconBlock.format.Keeps HeldBy :=
  .record (.cons keeps_quotedInteger <| .cons keeps_quotedInteger <| .cons keeps_bytes <|
    .cons keeps_bytes <| .cons ExecutionPayloadHeader.keeps_format .nil) (by decide)

theorem SignedBlindedBeaconBlock.keeps_format : SignedBlindedBeaconBlock.format.Keeps HeldBy :=
  .record (.cons BlindedBeaconBlock.keeps_format <| .cons keeps_bytes .nil) (by decide)

/-! ### Paths -/

theorem slash_notMem_hex {n : Nat} (b : FixedBytes n) : '/' ∉ b.hex.toList := by
  have hother : ∀ c ∈ b.hex.toList, c ≠ '/' := b.forall_mem_hex (by decide) (by decide)
  intro hslash
  exact hother '/' hslash rfl

namespace BuilderCall

/-- The parts of a path between its slashes. -/
def segments (path : String) : List String :=
  (path.toList.splitOn '/').map String.ofList

/-- The slot, parent hash and public key a path asks a header for. -/
def headerArguments? (path : String) : Option (UInt64 × Bytes32 × PublicKey) :=
  match segments path with
  | ["", "eth", "v1", "builder", "header", slot, parentHash, pubkey] => do
    let slot ← (Text.Natural.read slot).toOption
    let parentHash ← (FixedBytes.parse 32 parentHash).toOption
    let pubkey ← (FixedBytes.parse 48 pubkey).toOption
    return (slot, parentHash, pubkey)
  | _ => none

theorem segments_headerPath (slot : UInt64) (parentHash : Bytes32) (pubkey : PublicKey) :
    segments (headerPath slot parentHash pubkey) =
      ["", "eth", "v1", "builder", "header", Text.Natural.render slot, parentHash.hex,
        pubkey.hex] := by
  have hpath : (headerPath slot parentHash pubkey).toList =
      ['/'].intercalate (["", "eth", "v1", "builder", "header", Text.Natural.render slot,
        parentHash.hex, pubkey.hex].map String.toList) := by
    rw [headerPath, String.toList_intercalate]
    rfl
  have hfixed : ∀ s ∈ ["", "eth", "v1", "builder", "header"], '/' ∉ s.toList := by decide
  have hslash : ∀ s ∈ ["", "eth", "v1", "builder", "header"] ++
      [Text.Natural.render slot, parentHash.hex, pubkey.hex], '/' ∉ s.toList := by
    intro s hs
    rcases List.mem_append.mp hs with hs | hs
    · exact hfixed s hs
    · rcases List.mem_cons.mp hs with rfl | hs
      · exact Text.Natural.notMem_render (by decide) slot
      · rcases List.mem_cons.mp hs with rfl | hs
        · exact slash_notMem_hex parentHash
        · rw [List.mem_singleton.mp hs]
          exact slash_notMem_hex pubkey
  have hsplit := List.splitOn_intercalate '/' (List.forall_mem_map.mpr hslash) (by simp)
  rw [List.cons_append, List.cons_append, List.cons_append, List.cons_append, List.cons_append,
    List.nil_append, ← hpath] at hsplit
  rw [segments, hsplit]
  simp only [List.map_cons, List.map_nil, String.ofList_toList]

/-- The arguments of a header stand in its path, each in its place. -/
theorem headerArguments?_headerPath (slot : UInt64) (parentHash : Bytes32) (pubkey : PublicKey) :
    headerArguments? (headerPath slot parentHash pubkey) = some (slot, parentHash, pubkey) := by
  rw [headerArguments?, segments_headerPath]
  simp only [Text.Natural.read_render, FixedBytes.parse_hex]
  rfl

theorem target_sent (url : Url) (c : BuilderCall) : (sent url c).target = c.request.path := by
  show String.ofList (c.request.path.toList ++ []) = _
  rw [List.append_nil, String.ofList_toList]

/-! ### Answers -/

/-- The text is an object in which one member has the key `data`, with what `x` is
written as. It may have other members, with any keys that stand for texts. -/
def Carries {α : Type} (f : Format α) (body : String) (x : α) : Prop :=
  ∃ t members v, Spells body t ∧ t.HasMembers members ∧
    membersNamed "data" members = [("data", v)] ∧ Spells (f.write x) v

theorem interpretData_of_carries {α : Type} {f : Format α} {depth : Nat}
    {holds : α → Tree → Prop} (hf : f.Reads depth holds) (hdepth : depth + 1 ≤ documentRoom)
    (hlossless : f.Lossless) {a : Http.Answer} {x : α} (hserved : Served a)
    (hcarries : Carries f a.body x) : interpretData f a = .ok (.success x) := by
  obtain ⟨t, members, v, ht, hmembers, hdata, hv⟩ := hcarries
  have hx : holds x v := by
    obtain ⟨u, hu, hx⟩ := (hf.read_eq_ok (by omega)).mp (hlossless.1 x)
    rwa [Json.Document.spells_unique hu hv] at hx
  have henvelope : (DataEnvelope.format f).Reads (depth + 1)
      fun e => Json.HoldsRecord [("data", holds e.data)] :=
    .record (.cons hf .nil) (List.pairwise_singleton _ "data") (fun _ => rfl) fun _ => rfl
  have hread : (DataEnvelope.format f).read a.body = .ok ⟨x⟩ := by
    refine (henvelope.read_eq_ok hdepth).mpr ⟨t, ht, .inl ⟨members, hmembers, ?_⟩⟩
    intro field hfield
    rw [List.mem_singleton.mp hfield]
    exact ⟨v, hdata, hx⟩
  exact ((interpretData_of_served hserved).1 x).mpr (read_envelope_eq_ok.mp hread)

/-- An envelope with nothing else in it. -/
example {α : Type} (f : Format α) (x : α) :
    Carries f ((DataEnvelope.format f).write ⟨x⟩) x :=
  ⟨_, [("data", (f.encode x).tree)], _, Json.Value.spells_render _,
    Json.Value.hasMembers_tree [("data", f.encode x)], rfl, Json.Value.spells_render _⟩

/-- The path of a header has its arguments in their places.  The posted body is read
as the registrations, in their order, or as the block.  A builder that serves the
call with what a bid or a payload is written as has the caller get it unchanged. -/
theorem wire_faithful :
    (∀ url slot pubkey parentHash,
      headerArguments? (sent url (getHeader slot pubkey parentHash)).target =
        some (slot, parentHash, pubkey)) ∧
    (∀ url slot pubkey parentHash slot' pubkey' parentHash',
      (sent url (getHeader slot pubkey parentHash)).target =
          (sent url (getHeader slot' pubkey' parentHash')).target →
        slot = slot' ∧ parentHash = parentHash' ∧ pubkey = pubkey') ∧
    (∀ url slot registrations, ∃ body,
      (sent url (registerValidators slot registrations)).body? = some body ∧
        SignedValidatorRegistration.format.list.read body.render = .ok registrations) ∧
    (∀ url block, ∃ body, (sent url (getPayload block)).body? = some body ∧
      SignedBlindedBeaconBlock.format.read body.render = .ok block) ∧
    (∀ slot pubkey parentHash a bid, Served a → a.status ≠ 204 →
      Carries SignedBuilderBid.format a.body bid →
        (getHeader slot pubkey parentHash).receive (.ok a) = .ok (.success (some bid))) ∧
    ∀ block a payload, Served a → Carries ExecutionPayload.format a.body payload →
      (getPayload block).receive (.ok a) = .ok (.success payload) := by
  have hheader (url : Url) (slot : UInt64) (pubkey : PublicKey) (parentHash : Bytes32) :
      headerArguments? (sent url (getHeader slot pubkey parentHash)).target =
        some (slot, parentHash, pubkey) := by
    rw [target_sent]
    exact headerArguments?_headerPath slot parentHash pubkey
  refine ⟨hheader, ?_, ?_, ?_, ?_, ?_⟩
  · intro url slot pubkey parentHash slot' pubkey' parentHash' htarget
    have hsame : some (slot, parentHash, pubkey) = some (slot', parentHash', pubkey') := by
      rw [← hheader url, htarget, hheader]
    cases hsame
    exact ⟨rfl, rfl, rfl⟩
  · intro url slot registrations
    refine ⟨_, rfl, ?_⟩
    exact (SignedValidatorRegistration.reads_format 0).list.read_sorted (by decide)
      SignedValidatorRegistration.keeps_format.list registrations
  · intro url block
    refine ⟨_, rfl, ?_⟩
    exact (SignedBlindedBeaconBlock.reads_format 0).read_sorted (by decide)
      SignedBlindedBeaconBlock.keeps_format block
  · intro slot pubkey parentHash a bid hserved hstatus hcarries
    have hdata : interpretData SignedBuilderBid.format a = .ok (.success bid) :=
      interpretData_of_carries (SignedBuilderBid.reads_format 0) (by decide)
        ((SignedBuilderBid.faithful_format 0).lossless (by decide)) hserved hcarries
    have hbid : (getHeader slot pubkey parentHash).receive (.ok a) =
        (interpretData SignedBuilderBid.format a).map (·.map some) := if_neg hstatus
    rw [hbid, hdata]
    rfl
  · intro block a payload hserved hcarries
    exact interpretData_of_carries (ExecutionPayload.reads_format 0) (by decide)
      ((ExecutionPayload.faithful_format 0).lossless (by decide)) hserved hcarries

end BuilderCall

end ExecutionLink
