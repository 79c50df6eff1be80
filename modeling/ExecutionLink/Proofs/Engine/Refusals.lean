/-
What becomes of a refusal by the engine.

An engine can refuse a question in two ways: by an error in the body of an answer
whose status says that it was served, or by a status outside 200 to 299.  Only
the first is a refusal to whoever asks on a channel.  The second counts as no
reply at all, whatever the body says, while the same answer from a builder is a
refusal (`BuilderCall.interpret_of_refused`).

* `Conclusive` — what bodies say something about syncing.
* `refused_iff_of_received` — a question on a live channel is refused exactly if
  its answer was served and reports an error; it fails if there is no answer, if
  the status is a refusal or if the body is not conclusive.
* `not_refused_of_status` — so a refusal by the status is none to whoever asks.
-/
import ExecutionLink.Channel.Basic
import ExecutionLink.Proofs.Builder.Answers

namespace ExecutionLink.Engine

/-! ### Bodies -/

/-- The reply is an error, or its result says whether the engine is syncing. -/
def RpcReply.Conclusive (r : RpcReply) : Prop :=
  r.error.isSome ∨ (∃ b, r.result = some (.bool b)) ∨ ∃ members, r.result = some (.object members)

/-- The body is a reply that says something. -/
def Conclusive (body : String) : Prop :=
  ∃ r, readReply body = .ok r ∧ r.Conclusive

theorem RpcReply.syncing_eq_failure {r : RpcReply} {m : String} :
    r.syncing = .ok (.failure m) ↔ ∃ e, r.error = some e ∧ m = s!"{e.code}: {e.message}" := by
  unfold syncing
  cases r.error with
  | some e => simp [eq_comm]
  | none =>
    cases r.result with
    | none => simp
    | some v => cases v <;> simp

theorem RpcReply.syncing_eq_error {r : RpcReply} :
    (∃ e, r.syncing = .error e) ↔ ¬r.Conclusive := by
  unfold syncing Conclusive
  cases r.error with
  | some e => simp
  | none =>
    cases r.result with
    | none => simp
    | some v => cases v <;> simp

theorem interpretBody_eq_failure {body m : String} :
    interpretBody body = .ok (.failure m) ↔
      ∃ r e, readReply body = .ok r ∧ r.error = some e ∧ m = s!"{e.code}: {e.message}" := by
  unfold interpretBody
  cases readReply body with
  | error e => simp
  | ok r => simp [RpcReply.syncing_eq_failure]

theorem interpretBody_eq_error {body : String} :
    (∃ e, interpretBody body = .error e) ↔ ¬Conclusive body := by
  unfold interpretBody Conclusive
  cases readReply body with
  | error e => simp
  | ok r => simp [RpcReply.syncing_eq_error]

/-! ### Answers -/

/-- A status that is a refusal makes the answer an error. -/
theorem receive_of_not_isSuccess {a : Http.Answer} (h : a.isSuccess = false) :
    receive (.ok a) =
      .error (.transport s!"engine returned HTTP {a.status}: {Text.trim a.body}") := by
  simp [receive, interpret, h]

theorem receive_of_isSuccess {a : Http.Answer} (h : a.isSuccess) :
    receive (.ok a) = interpretBody a.body := by
  simp [receive, interpret, h]

theorem receive_eq_failure {received : Except ClientError Http.Answer} {m : String} :
    receive received = .ok (.failure m) ↔
      ∃ a r e, received = .ok a ∧ a.isSuccess ∧ readReply a.body = .ok r ∧ r.error = some e ∧
        m = s!"{e.code}: {e.message}" := by
  cases received with
  | error e => simp [receive]
  | ok a =>
    cases hstatus : a.isSuccess with
    | false => simp [receive_of_not_isSuccess hstatus, hstatus]
    | true => simp [receive_of_isSuccess hstatus, hstatus, interpretBody_eq_failure]

theorem receive_eq_error {received : Except ClientError Http.Answer} :
    (∃ e, receive received = .error e) ↔
      (∃ e, received = .error e) ∨
        ∃ a, received = .ok a ∧ (a.isSuccess = false ∨ ¬Conclusive a.body) := by
  cases received with
  | error e => simp [receive]
  | ok a =>
    cases hstatus : a.isSuccess with
    | false => simp [receive_of_not_isSuccess hstatus, hstatus]
    | true => simp [receive_of_isSuccess hstatus, hstatus, interpretBody_eq_error]

/-- A call whose request is answered is answered in the same step. -/
theorem client_resume {σ : Type} (take : σ → UInt64 × σ) {transport : Http.Transport σ}
    {url : Url} {id : UInt64} {pending : transport.Pending (sent url id)} {s s' : σ}
    {received : Except ClientError Http.Answer}
    (h : transport.resume (sent url id) pending s = (.answered received, s')) :
    (client take transport url).resume () ⟨id, pending⟩ s = (.answered (receive received), s') := by
  simp only [client, h]

/-! ### The main result -/

/-- A question on a live channel is refused exactly if its answer was served and
reports an error.  It fails if there is no answer, if the answer was served with
a body that says nothing, and also if the status is a refusal; then status and
body are in the text of the failure. -/
theorem refused_iff_of_received {ν : Type} {transport : Http.Transport (CallState ν)}
    {engine : Url} (builder : Option Url) {id : UInt64}
    {pending : transport.Pending (sent engine id)} {s s' : CallState ν}
    {received : Except ClientError Http.Answer}
    (h : transport.resume (sent engine id) pending s = (.answered received, s')) :
    ∃ result,
      ((Channel.live engine builder).client transport).resume .engineSyncing ⟨id, pending⟩ s =
        (.answered result, s') ∧
      (∀ m, result = .ok (.failure m) ↔
        ∃ a r e, received = .ok a ∧ a.isSuccess ∧ readReply a.body = .ok r ∧ r.error = some e ∧
          m = s!"{e.code}: {e.message}") ∧
      ((∃ e, result = .error e) ↔
        (∃ e, received = .error e) ∨
          ∃ a, received = .ok a ∧ (a.isSuccess = false ∨ ¬Conclusive a.body)) ∧
      (∀ a, received = .ok a → a.isSuccess = false →
        result = .error (.transport s!"engine returned HTTP {a.status}: {Text.trim a.body}")) :=
  -- a live channel adds nothing to the answers of its engine
  ⟨receive received, client_resume CallState.takeNumber h, fun _ => receive_eq_failure,
    receive_eq_error, fun _ ha hstatus => ha ▸ receive_of_not_isSuccess hstatus⟩

/-- An engine that is unavailable: an answer arrives, and the question fails all
the same. -/
theorem refused_iff_of_received_unavailable :
    ∃ (url : Url) (s s' : CallState Http.Exchange) (e : ClientError),
      CallState.exchange.resume (sent url 1) () s = (.answered (.ok ⟨503, "oops"⟩), s') ∧
      ((Channel.live url none).client CallState.exchange).resume .engineSyncing ⟨1, ()⟩ s =
        (.answered (.error e), s') := by
  let url : Url := ⟨"http", some (.ipv4 0x7f000001), none, ['/'], none⟩
  let s : CallState Http.Exchange :=
    ⟨⟨"/data", ⟨0⟩, .empty, []⟩, .new, ⟨[sent url 1], some (.ok ⟨503, "oops"⟩)⟩⟩
  have hreply : CallState.exchange.resume (sent url 1) () s =
      (.answered (.ok ⟨503, "oops"⟩), { s with network.reply := none }) := rfl
  obtain ⟨result, hresume, -, herror, -⟩ := refused_iff_of_received none hreply
  obtain ⟨e, rfl⟩ := herror.2 (.inr ⟨_, rfl, .inl (by decide)⟩)
  exact ⟨url, s, _, e, hreply, hresume⟩

/-- Not every answer whose status is a refusal is one to whoever asks. -/
theorem not_refused_of_status :
    ¬∀ a : Http.Answer, a.isSuccess = false → ∃ m, receive (.ok a) = .ok (.failure m) := by
  intro h
  obtain ⟨m, hm⟩ := h ⟨503, "oops"⟩ (by decide)
  rw [receive_of_not_isSuccess (by decide)] at hm
  cases hm

end ExecutionLink.Engine
