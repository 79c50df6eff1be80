/-
What the answers of a builder mean.

A builder's answer is a status and a text.  The status decides whether the call
was served; the text is looked into for the data of a call that was served and
for the reason of one that was refused.

* `HoldsData` — what texts hold data: an object with one member `data`, or an
  array with one item.
* `HoldsReason` — what texts hold the reason of a refusal: a message, and maybe
  a code that stands for the status.
* `RefusalText` — how a refusal is worded.
* `answer_classified` — what each call comes to, for all answers.
-/
import ExecutionLink.Builder
import ExecutionLink.Proofs.Json.Formats
import ExecutionLink.Proofs.Text.Trimming

namespace ExecutionLink

open Json (Document Fields Format StringLiteral Tree documentRoom)

namespace BuilderCall

/-! ### Data -/

/-- The text holds `x` as its data. Members with other keys are of no matter. -/
def HoldsData {α : Type} (f : Format α) (body : String) (x : α) : Prop :=
  (Document.ofText body).complete ∧ ∃ t, f.decode (documentRoom - 1) t = .ok x ∧
    ((Document.ofText body).tree = .array [t] true ∨
      ∃ members, (Document.ofText body).tree = .object members true ∧
        Fields.Legible ["data"] members ∧ Tree.under "data" members = [t])

theorem read_envelope_eq_ok {α : Type} {f : Format α} {body : String} {x : α} :
    (DataEnvelope.format f).read body = .ok ⟨x⟩ ↔ HoldsData f body x := by
  have hnodup : (Fields.required "data" f .nil).names.Nodup := List.pairwise_singleton _ "data"
  rw [Format.read_eq_ok, DataEnvelope.format,
    show documentRoom = documentRoom - 1 + 1 from rfl, Format.decode_record_eq_ok hnodup]
  refine and_congr_right fun _ => ?_
  constructor
  · rintro ⟨⟨y, ⟨⟩⟩, ⟨members, htree, hlegible, hdata, -⟩ | ⟨items, htree, hitems⟩, ⟨⟩⟩
    · obtain ⟨t, hunder, ht⟩ := Fields.supplied_none.mp hdata
      exact ⟨t, ht, .inr ⟨members, htree, hlegible, hunder⟩⟩
    · obtain ⟨t, ts, rfl, ht, hts⟩ := Fields.ofItems_cons.mp hitems
      obtain rfl := Fields.ofItems_nil.mp hts
      exact ⟨t, ht, .inl htree⟩
  · rintro ⟨t, ht, htree | ⟨members, htree, hlegible, hunder⟩⟩
    · refine ⟨(x, ()), .inr ⟨[t], htree, ?_⟩, rfl⟩
      exact Fields.ofItems_cons.mpr ⟨t, [], rfl, ht, Fields.ofItems_nil.mpr rfl⟩
    · refine ⟨(x, ()), .inl ⟨members, htree, hlegible, ?_, trivial⟩, rfl⟩
      exact Fields.supplied_none.mpr ⟨t, hunder, ht⟩

/-! ### Reasons -/

/-- The values found for a code: none, null, or a number of 16 bits. -/
def IsCode : List Tree → Option Nat → Prop
  | [], code => code = none
  | [t], code => (t = .null ∧ code = none) ∨ ∃ l n, t = .number l ∧
      Json.Number.ofLiteral? l = some (.natural n) ∧ n.toNat < 65536 ∧ code = some n.toNat
  | _, _ => False

/-- The value is a string of the given text. -/
def IsText (t : Tree) (text : String) : Prop :=
  ∃ s, t = .string s ∧ Json.text? s = some text

/-- The text holds the message of a refusal, and its code if there is one. -/
def HoldsReason (body : String) (code : Option Nat) (message : String) : Prop :=
  (Document.ofText body).complete ∧ ∃ codes t, IsCode codes code ∧ IsText t message ∧
    ((∃ c, codes = [c] ∧ (Document.ofText body).tree = .array [c, t] true) ∨
      ∃ members, (Document.ofText body).tree = .object members true ∧
        Fields.Legible ["code", "message"] members ∧ Tree.under "code" members = codes ∧
        Tree.under "message" members = [t])

theorem supplied_code {room : Nat} {codes : List Tree} {code : Option Nat} :
    Fields.Supplied (Format.optional .natural16) room (some none) codes code ↔
      IsCode codes code := by
  rcases codes with _ | ⟨t, _ | ⟨u, us⟩⟩
  · simp [Fields.Supplied, IsCode, eq_comm]
  · rw [Fields.Supplied, Format.decode_optional_eq_ok, IsCode]
    simp only [Format.decode_natural16_eq_ok]
    refine or_congr Iff.rfl ?_
    constructor
    · rintro ⟨n, -, ⟨l, v, rfl, hl, hlt, rfl⟩, hcode⟩
      exact ⟨l, v, rfl, hl, hlt, hcode⟩
    · rintro ⟨l, v, rfl, hl, hlt, hcode⟩
      exact ⟨v.toNat, Tree.noConfusion, ⟨l, v, rfl, hl, hlt, rfl⟩, hcode⟩
  · rfl

/-- A message that is there is a string. -/
theorem decode_message {room : Nat} {t : Tree} {message : String} :
    (Format.optional .text).decode room t = .ok (some message) ↔ IsText t message := by
  rw [Format.decode_optional_eq_ok]
  constructor
  · rintro (⟨-, ⟨⟩⟩ | ⟨_, -, h, ⟨⟩⟩)
    exact Format.decodeText_eq_ok.mp h
  · rintro ⟨l, rfl, hl⟩
    exact .inr ⟨message, nofun, Format.decodeText_eq_ok.mpr ⟨l, rfl, hl⟩, rfl⟩

theorem supplied_message {room : Nat} {found : List Tree} {message : String} :
    Fields.Supplied (Format.optional .text) room (some none) found (some message) ↔
      ∃ t, found = [t] ∧ IsText t message := by
  cases found with
  | nil => simp [Fields.Supplied]
  | cons t ts =>
    rw [Fields.supplied_cons, decode_message]
    constructor
    · rintro ⟨rfl, h⟩
      exact ⟨t, rfl, h⟩
    · rintro ⟨_, ⟨⟩, h⟩
      exact ⟨rfl, h⟩

theorem read_errorBody_eq_ok {body : String} {code : Option Nat} {message : String} :
    ErrorBody.format.read body = .ok ⟨code, some message⟩ ↔ HoldsReason body code message := by
  have hnodup :
      (Fields.optional "code" .natural16 <| .optional "message" .text .nil).names.Nodup := by
    decide
  rw [Format.read_eq_ok, ErrorBody.format,
    show documentRoom = documentRoom - 1 + 1 from rfl, Format.decode_record_eq_ok hnodup]
  refine and_congr_right fun _ => ?_
  constructor
  · rintro ⟨⟨c, m, ⟨⟩⟩, ⟨members, htree, hlegible, hcode, hmessage, -⟩ | ⟨items, htree, hitems⟩, ⟨⟩⟩
    · obtain ⟨t, hunder, ht⟩ := supplied_message.mp hmessage
      exact ⟨_, t, supplied_code.mp hcode, ht, .inr ⟨members, htree, hlegible, rfl, hunder⟩⟩
    · obtain ⟨u, us, rfl, hu, hus⟩ := Fields.ofItems_cons.mp hitems
      obtain ⟨t, ts, rfl, ht, hts⟩ := Fields.ofItems_cons.mp hus
      obtain rfl := Fields.ofItems_nil.mp hts
      exact ⟨[u], t, supplied_code.mp hu, decode_message.mp ht, .inl ⟨u, rfl, htree⟩⟩
  · rintro ⟨codes, t, hcode, ht, ⟨u, rfl, htree⟩ | ⟨members, htree, hlegible, rfl, hunder⟩⟩
    · refine ⟨(code, some message, ()), .inr ⟨[u, t], htree, ?_⟩, rfl⟩
      refine Fields.ofItems_cons.mpr ⟨u, [t], rfl, supplied_code.mpr hcode, ?_⟩
      exact Fields.ofItems_cons.mpr ⟨t, [], rfl, decode_message.mpr ht, Fields.ofItems_nil.mpr rfl⟩
    · refine ⟨(code, some message, ()), .inl ⟨members, htree, hlegible, ?_⟩, rfl⟩
      exact ⟨supplied_code.mpr hcode, supplied_message.mpr ⟨t, hunder, ht⟩, trivial⟩

/-- The wording of a refusal: its message behind its code or else the status;
without a message the status, and the text if there is any. -/
def RefusalText (a : Http.Answer) (m : String) : Prop :=
  (∃ code t, HoldsReason a.body code t ∧ m = s!"{code.getD a.status}: {t}") ∨
    ((∀ code t, ¬HoldsReason a.body code t) ∧
      if a.body.toList.all Text.isBlank then m = s!"HTTP {a.status}"
      else m = s!"HTTP {a.status}: {Text.trim a.body}")

theorem failureMessage_eq_iff {a : Http.Answer} {m : String} :
    failureMessage a = m ↔ RefusalText a m := by
  unfold failureMessage
  split
  · rename_i code t hread
    have hreason := read_errorBody_eq_ok.mp hread
    constructor
    · intro h
      exact .inl ⟨code, t, hreason, h.symm⟩
    · rintro (⟨code', t', h, rfl⟩ | ⟨hnone, -⟩)
      · cases hread.symm.trans (read_errorBody_eq_ok.mpr h)
        rfl
      · exact absurd hreason (hnone code t)
  · rename_i hother
    have hnone : ∀ code t, ¬HoldsReason a.body code t := fun code t h =>
      hother code t (read_errorBody_eq_ok.mpr h)
    -- without a reason the status is reported, with what is left of the text
    have hplain : plainFailure a = m ↔ if a.body.toList.all Text.isBlank then
        m = s!"HTTP {a.status}" else m = s!"HTTP {a.status}: {Text.trim a.body}" := by
      unfold plainFailure
      by_cases hblank : Text.trim a.body = ""
      · rw [if_pos hblank, if_pos (Text.trim_eq_empty.mp hblank), eq_comm]
      · rw [if_neg hblank, if_neg fun h => hblank (Text.trim_eq_empty.mpr h), eq_comm]
    rw [hplain]
    constructor
    · intro h
      exact .inr ⟨hnone, h⟩
    · rintro (⟨code, t, h, -⟩ | ⟨-, h⟩)
      · exact absurd h (hnone code t)
      · exact h

/-- An error body may be an array, and a code that is null stands for none. -/
example : failureMessage ⟨503, "[null, \"sleeping\"]"⟩ = "503: sleeping" := by cbv

/-! ### Statuses -/

/-- The status says that the call was served. -/
abbrev Served (a : Http.Answer) : Prop := 200 ≤ a.status ∧ a.status < 300

theorem isSuccess_iff {a : Http.Answer} : a.isSuccess ↔ Served a := by
  simp [Http.Answer.isSuccess, Served]

/-- A refusal is a refusal whatever was called. -/
theorem interpret_of_refused (c : BuilderCall) {a : Http.Answer} (h : ¬Served a) :
    c.interpret a = .ok (.failure (failureMessage a)) := by
  have hrefused : a.isSuccess = false := by
    rw [← Bool.not_eq_true, isSuccess_iff]
    exact h
  cases c with
  | getHeader slot pubkey parentHash =>
    -- the status that says there is no bid is not a refusal
    have hbid : a.status ≠ noBid := by
      intro hstatus
      rw [Served, hstatus] at h
      exact h (by decide)
    simp [interpret, hbid, interpretData, hrefused, Except.map, Response.map]
  | _ => simp [interpret, interpretStatus, interpretData, hrefused]

theorem interpretStatus_eq_success {a : Http.Answer} :
    interpretStatus a = .success () ↔ Served a := by
  rw [← isSuccess_iff, interpretStatus]
  cases a.isSuccess <;> simp

/-- A call that was served has the data of its answer, or else the answer makes
no sense. -/
theorem interpretData_of_served {α : Type} {f : Format α} {a : Http.Answer} (h : Served a) :
    (∀ x, interpretData f a = .ok (.success x) ↔ HoldsData f a.body x) ∧
      ((∀ x, ¬HoldsData f a.body x) → ∃ detail, interpretData f a = .error (.decode detail)) := by
  rw [interpretData, if_pos (isSuccess_iff.mpr h)]
  cases hread : (DataEnvelope.format f).read a.body with
  | error fault =>
    refine ⟨fun x => ?_, fun _ => ⟨_, rfl⟩⟩
    rw [← read_envelope_eq_ok, hread]
    simp
  | ok envelope =>
    refine ⟨fun x => ?_, fun hnone => absurd (read_envelope_eq_ok.mp hread) (hnone _)⟩
    rw [← read_envelope_eq_ok, hread]
    cases envelope
    simp

/-- An answer with a bid, whatever it comes to, is not one without. -/
theorem map_some_ne_success_none {α : Type} (r : CallResult α) :
    r.map (·.map some) ≠ .ok (.success none) := by
  rw [ne_eq, Json.map_eq_ok]
  rintro ⟨response, -, h⟩
  cases response <;> cases h

theorem map_some_eq_success {α : Type} {r : CallResult α} {x : α} :
    r.map (·.map some) = .ok (.success (some x)) ↔ r = .ok (.success x) := by
  rw [Json.map_eq_ok]
  constructor
  · rintro ⟨response, rfl, h⟩
    cases response <;> cases h
    rfl
  · rintro rfl
    exact ⟨_, rfl, rfl⟩

/-! ### The main result -/

/-- What each call comes to.  Without an answer it is the error that there is.
A refusal is a failure with one wording for all calls.  An answer from a builder
that served the call is a success if it needs no data, says that there is no bid
or holds the data, and otherwise cannot be decoded. -/
theorem answer_classified :
    (∀ (c : BuilderCall) (e : ClientError), c.receive (.error e) = .error e) ∧
    (∀ (c : BuilderCall) (a : Http.Answer), ¬Served a →
      (∃ m, c.receive (.ok a) = .ok (.failure m)) ∧
        ∀ m, c.receive (.ok a) = .ok (.failure m) ↔ RefusalText a m) ∧
    (∀ a, status.receive (.ok a) = .ok (.success ()) ↔ Served a) ∧
    (∀ slot registrations a,
      (registerValidators slot registrations).receive (.ok a) = .ok (.success ()) ↔ Served a) ∧
    (∀ slot pubkey parentHash a,
      ((getHeader slot pubkey parentHash).receive (.ok a) = .ok (.success none) ↔
        a.status = 204) ∧
      (Served a → a.status ≠ 204 →
        (∀ bid, (getHeader slot pubkey parentHash).receive (.ok a) = .ok (.success (some bid)) ↔
          HoldsData SignedBuilderBid.format a.body bid) ∧
        ((∀ bid, ¬HoldsData SignedBuilderBid.format a.body bid) →
          ∃ detail,
            (getHeader slot pubkey parentHash).receive (.ok a) = .error (.decode detail)))) ∧
    ∀ block a, Served a →
      (∀ payload, (getPayload block).receive (.ok a) = .ok (.success payload) ↔
        HoldsData ExecutionPayload.format a.body payload) ∧
      ((∀ payload, ¬HoldsData ExecutionPayload.format a.body payload) →
        ∃ detail, (getPayload block).receive (.ok a) = .error (.decode detail)) := by
  refine ⟨fun c e => rfl, ?_, ?_, ?_, ?_, ?_⟩
  · intro c a h
    have hfailure : c.receive (.ok a) = .ok (.failure (failureMessage a)) :=
      interpret_of_refused c h
    refine ⟨⟨_, hfailure⟩, fun m => ?_⟩
    rw [hfailure, ← failureMessage_eq_iff]
    simp
  · intro a
    rw [← interpretStatus_eq_success]
    simp [receive, interpret]
  · intro slot registrations a
    rw [← interpretStatus_eq_success]
    simp [receive, interpret]
  · intro slot pubkey parentHash a
    by_cases hbid : a.status = 204
    · have hnone : (getHeader slot pubkey parentHash).receive (.ok a) = .ok (.success none) :=
        if_pos hbid
      exact ⟨iff_of_true hnone hbid, fun _ hother => absurd hbid hother⟩
    · have hdata : (getHeader slot pubkey parentHash).receive (.ok a) =
          (interpretData SignedBuilderBid.format a).map (·.map some) := if_neg hbid
      rw [hdata]
      refine ⟨iff_of_false (map_some_ne_success_none _) hbid, fun h _ => ?_⟩
      obtain ⟨hsuccess, herror⟩ := interpretData_of_served (f := SignedBuilderBid.format) h
      refine ⟨fun bid => map_some_eq_success.trans (hsuccess bid), fun hnone => ?_⟩
      obtain ⟨detail, hdetail⟩ := herror hnone
      exact ⟨detail, by rw [hdetail]; rfl⟩
  · intro block a h
    exact interpretData_of_served h

end BuilderCall

end ExecutionLink
