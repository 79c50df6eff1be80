/-
What the engine says in a reply that was served.

A reply holds a result or an error, each under its key or at its place in an array,
and each may be missing or null.  An error counts before the result, whatever that
is; a result that is neither a truth value nor an object says nothing, and a reply
that says nothing cannot be decoded.

* `RpcReply.HeldBy` — what the reply is that a tree holds; `readReply_eq_ok` — it is
  what is read.
* `RpcReply.Restated` — one change to a reply that leaves what it says: the order of
  members, another member, a null that is left out.
* `answers_restated` — such a change leaves the answer of the client.
* `served_reply_classified` — what each served reply comes to.
-/
import ExecutionLink.Proofs.Engine.Refusals
import ExecutionLink.Proofs.Json.Reordering
import ExecutionLink.Proofs.Json.Written
import Mathlib.Logic.Relation

namespace ExecutionLink.Engine

open Json (AlikeFound Document Fields Format HoldsRecord IsInteger64 IsOptional IsText LegibleKeys
  Spells StringLiteral Tree Value documentRoom text?)

/-! ### What a tree holds -/

def RpcError.HeldBy (e : RpcError) : Tree → Prop :=
  HoldsRecord [("code", IsInteger64 e.code), ("message", IsText e.message)]

/-- The value of the tree, in the room that is left inside a reply. -/
def IsResult (v : Value) (t : Tree) : Prop :=
  t.value? (documentRoom - 1) = some v

/-- An object with these members, or an array with these items. -/
def RpcReply.HeldBy (r : RpcReply) (t : Tree) : Prop :=
  (∃ written, t = .object written true ∧ LegibleKeys written ∧
    IsOptional IsResult r.result (Tree.under "result" written) ∧
    IsOptional RpcError.HeldBy r.error (Tree.under "error" written)) ∨
  ∃ items, t = .array items true ∧ IsOptional IsResult r.result (items.take 1) ∧
    IsOptional RpcError.HeldBy r.error (items.drop 1)

/-- The text is that of the reply. -/
def Holds (body : String) (r : RpcReply) : Prop :=
  ∃ t, Spells body t ∧ r.HeldBy t

theorem RpcError.reads_format (depth : Nat) : RpcError.format.Reads (depth + 1) HeldBy :=
  .record (.cons Format.reads_integer64 <| .cons Format.reads_text .nil) (by decide)
    (fun _ => rfl) fun _ => rfl

theorem decode_reply_eq_ok {t : Tree} (ht : t.isComplete) {r : RpcReply} :
    RpcReply.format.decode documentRoom t = .ok r ↔ r.HeldBy t := by
  have hnodup : (Fields.omissible "result" .any <|
      .omissible "error" RpcError.format .nil).names.Nodup := by decide
  -- both members, found in complete trees, are what they are read as
  have hresult : ∀ found : List Tree,
      Fields.Supplied Format.any.optional (documentRoom - 1) (some none) found r.result ↔
        IsOptional IsResult r.result found :=
    fun found => Fields.supplied_optional fun _ _ _ => Format.decode_any_eq_ok
  have herror : ∀ found : List Tree, (∀ u ∈ found, u.isComplete) →
      (Fields.Supplied RpcError.format.optional (documentRoom - 1) (some none) found r.error ↔
        IsOptional RpcError.HeldBy r.error found) :=
    fun found hfound => Fields.supplied_optional fun u hu e =>
      RpcError.reads_format 0 _ u e (by decide) (hfound u hu)
  rw [RpcReply.format, show documentRoom = documentRoom - 1 + 1 from rfl,
    Format.decode_record_eq_ok_iff_heldBy hnodup (fun _ => rfl) fun _ => rfl]
  refine or_congr ?_ ?_
  · refine exists_congr fun written => and_congr_right fun htree => ?_
    subst htree
    have hcomplete := Tree.allMembersComplete_iff.mp (Bool.and_eq_true_iff.mp ht).1
    refine and_congr (Json.legible_iff hcomplete) (and_congr (hresult _) ?_)
    rw [← herror _ fun u hu => Json.isComplete_of_mem_under hcomplete hu]
    exact and_iff_left trivial
  · refine exists_congr fun items => and_congr_right fun htree => ?_
    subst htree
    have hcomplete := Tree.allComplete_iff.mp (Bool.and_eq_true_iff.mp ht).1
    rw [Fields.ofItems_omissible, hresult, herror _ fun u hu => hcomplete u (List.mem_of_mem_drop hu)]

theorem readReply_eq_ok {body : String} {r : RpcReply} : readReply body = .ok r ↔ Holds body r := by
  rw [readReply, Json.mapError_eq_ok, Format.read_eq_ok_iff_spells]
  exact exists_congr fun t => and_congr_right fun ht => decode_reply_eq_ok ht.1

/-! ### What a reply says -/

theorem RpcReply.syncing_eq_success {r : RpcReply} {b : Bool} :
    r.syncing = .ok (.success b) ↔ r.error = none ∧
      (r.result = some (.bool b) ∨ b = true ∧ ∃ members, r.result = some (.object members)) := by
  unfold syncing
  cases r.error with
  | some e => simp
  | none =>
    cases r.result with
    | none => simp
    | some v => cases v <;> simp [eq_comm]

theorem decode_of_interpretBody {body : String} {e : ClientError}
    (h : interpretBody body = .error e) : ∃ detail, e = .decode detail := by
  unfold interpretBody readReply at h
  cases hread : RpcReply.format.read body with
  | error fault =>
    rw [hread] at h
    cases h
    exact ⟨_, rfl⟩
  | ok r =>
    rw [hread] at h
    -- the reply has neither an error nor a result that says something
    have hsyncing : r.syncing = .error e := h
    unfold RpcReply.syncing at hsyncing
    split at hsyncing
    next => cases hsyncing
    next =>
      split at hsyncing
      next => cases hsyncing
      next => cases hsyncing
      next =>
        cases hsyncing
        exact ⟨_, rfl⟩

/-- A reply that says nothing cannot be decoded, whatever is wrong with it. -/
theorem interpretBody_eq_decode {body : String} :
    (∃ detail, interpretBody body = .error (.decode detail)) ↔
      ∀ r, Holds body r → ¬r.Conclusive := by
  have herror : (∃ e, interpretBody body = .error e) ↔ ∀ r, Holds body r → ¬r.Conclusive := by
    rw [interpretBody_eq_error]
    simp only [Conclusive, readReply_eq_ok, not_exists, not_and]
  rw [← herror]
  constructor
  · rintro ⟨detail, h⟩
    exact ⟨_, h⟩
  · rintro ⟨e, h⟩
    obtain ⟨detail, rfl⟩ := decode_of_interpretBody h
    exact ⟨detail, h⟩

theorem interpretBody_eq_ok {body : String} {response : Response Bool} :
    interpretBody body = .ok response ↔ ∃ r, Holds body r ∧ r.syncing = .ok response := by
  simp only [← readReply_eq_ok]
  unfold interpretBody
  cases readReply body <;> simp

/-- The client's answer to a reply with this tree. -/
def Answers (t : Tree) (response : Response Bool) : Prop :=
  ∃ r : RpcReply, r.HeldBy t ∧ r.syncing = .ok response

theorem interpretBody_of_spells {body : String} {t : Tree} (ht : Spells body t)
    {response : Response Bool} : interpretBody body = .ok response ↔ Answers t response := by
  rw [interpretBody_eq_ok]
  constructor
  · rintro ⟨r, ⟨u, hu, hr⟩, hresponse⟩
    rw [Document.spells_unique hu ht] at hr
    exact ⟨r, hr, hresponse⟩
  · rintro ⟨r, hr, hresponse⟩
    exact ⟨r, ⟨t, ht, hr⟩, hresponse⟩

/-! ### Restated replies -/

/-- An object has one more member, whose key stands for a text that is none of these
names. An unknown key that stands for no text is no such addition: it makes the reply
undecodable. -/
def Extended (names : List String) (t t' : Tree) : Prop :=
  ∃ written k key u, t = .object written true ∧ t' = .object ((k, u) :: written) true ∧
    text? k = some key ∧ key ∉ names

/-- One change to a reply: its members or those of an object in it come in another
order, it has another member or its error has one, or a result or error that was
missing is null. -/
inductive RpcReply.Restated : Tree → Tree → Prop
  | reordered {t t' : Tree} (h : t.Reordered t') : Restated t t'
  | extended {t t' : Tree} (h : Extended ["result", "error"] t t') : Restated t t'
  | errorExtended {before after : List (StringLiteral × Tree)} {k : StringLiteral} {t t' : Tree}
      (hk : text? k = some "error") (h : Extended ["code", "message"] t t') :
      Restated (.object (before ++ (k, t) :: after) true)
        (.object (before ++ (k, t') :: after) true)
  | itemExtended {result t t' : Tree} (h : Extended ["code", "message"] t t') :
      Restated (.array [result, t] true) (.array [result, t'] true)
  | missing {written : List (StringLiteral × Tree)} {k : StringLiteral} {key : String}
      (hk : text? k = some key) (hkey : key ∈ ["result", "error"])
      (hnone : Tree.under key written = []) :
      Restated (.object written true) (.object ((k, .null) :: written) true)
  | shorter {items : List Tree} (h : items.length < 2) :
      Restated (.array items true) (.array (items ++ [.null]) true)

section Restated

variable {t t' : Tree} {r : RpcReply}

theorem heldBy_object {written : List (StringLiteral × Tree)} :
    r.HeldBy (.object written true) ↔ LegibleKeys written ∧
      IsOptional IsResult r.result (Tree.under "result" written) ∧
      IsOptional RpcError.HeldBy r.error (Tree.under "error" written) := by
  constructor
  · rintro (⟨_, ⟨⟩, h⟩ | ⟨_, ⟨⟩, _⟩)
    exact h
  · intro h
    exact .inl ⟨written, rfl, h⟩

theorem heldBy_array {items : List Tree} :
    r.HeldBy (.array items true) ↔ IsOptional IsResult r.result (items.take 1) ∧
      IsOptional RpcError.HeldBy r.error (items.drop 1) := by
  constructor
  · rintro (⟨_, ⟨⟩, _⟩ | ⟨_, ⟨⟩, h⟩)
    exact h
  · intro h
    exact .inr ⟨items, rfl, h⟩

theorem RpcError.heldBy_reordered {e : RpcError} (h : t.Reordered t') (he : e.HeldBy t) :
    e.HeldBy t' := by
  refine Json.holdsRecord_reordered ?_ h he
  intro field hfield u u' hu hreordered
  -- a number or a string, in which nothing can be reordered
  obtain rfl | rfl : field = ("code", IsInteger64 e.code) ∨
      field = ("message", IsText e.message) := by simpa using hfield
  · obtain ⟨l, rfl, -⟩ := hu
    cases hreordered
  · obtain ⟨l, rfl, -⟩ := hu
    cases hreordered

theorem RpcError.heldBy_extended {e : RpcError} (h : Extended ["code", "message"] t t') :
    e.HeldBy t ↔ e.HeldBy t' := by
  obtain ⟨written, k, key, u, rfl, rfl, hk, hkey⟩ := h
  have hundeclared :
      key ∉ [("code", IsInteger64 e.code), ("message", IsText e.message)].map Prod.fst := hkey
  exact (Json.holdsRecord_undeclared hk hundeclared).symm

theorem RpcReply.syncing_of_sameKind {result result' : Option Value} {error : Option RpcError}
    {response : Response Bool} (hkind : Option.Rel Value.SameKind result result')
    (h : RpcReply.syncing ⟨result, error⟩ = .ok response) :
    RpcReply.syncing ⟨result', error⟩ = .ok response := by
  cases error with
  | some e => exact h
  | none =>
    cases hkind with
    | none => exact h
    | some hkind =>
      cases hkind with
      | refl v => exact h
      | array items items' => cases h
      | object members members' => exact h

theorem Answers.reordered {response : Response Bool} (h : t.Reordered t')
    (ha : Answers t response) : Answers t' response := by
  obtain ⟨⟨result, error⟩, hr, hresponse⟩ := ha
  have hresult : ∀ {found found'}, AlikeFound found found' → IsOptional IsResult result found →
      ∃ result', IsOptional IsResult result' found' ∧ Option.Rel Value.SameKind result result' :=
    Json.isOptional_reordered .refl fun h hv => h.value? hv
  have herror : ∀ {found found'}, AlikeFound found found' →
      IsOptional RpcError.HeldBy error found → IsOptional RpcError.HeldBy error found' := by
    intro found found' hfound hold
    obtain ⟨error', hold', hsame⟩ := Json.isOptional_reordered Eq.refl
      (fun h he => ⟨_, RpcError.heldBy_reordered h he, rfl⟩) hfound hold
    cases hsame with
    | none => exact hold'
    | some heq => exact heq ▸ hold'
  rcases hr with ⟨written, rfl, hkeys, hfound, hfound'⟩ | ⟨items, rfl, hfound, hfound'⟩
  · obtain ⟨written', rfl, hkeys', halike⟩ := h.object
    obtain ⟨result', hold, hkind⟩ := hresult (halike "result") hfound
    refine ⟨⟨result', error⟩, heldBy_object.mpr ⟨hkeys' hkeys, hold, ?_⟩,
      RpcReply.syncing_of_sameKind hkind hresponse⟩
    exact herror (halike "error") hfound'
  · obtain ⟨items', rfl, hfirst, hothers⟩ := h.array
    obtain ⟨result', hold, hkind⟩ := hresult hfirst hfound
    exact ⟨⟨result', error⟩, heldBy_array.mpr ⟨hold, herror hothers hfound'⟩,
      RpcReply.syncing_of_sameKind hkind hresponse⟩

theorem heldBy_extended (h : Extended ["result", "error"] t t') : r.HeldBy t ↔ r.HeldBy t' := by
  obtain ⟨written, k, key, u, rfl, rfl, hk, hkey⟩ := h
  have hresult : key ≠ "result" := by
    rintro rfl
    exact hkey List.mem_cons_self
  have herror : key ≠ "error" := by
    rintro rfl
    exact hkey (List.mem_cons_of_mem _ List.mem_cons_self)
  rw [heldBy_object, heldBy_object, Json.legibleKeys_cons hk, Tree.under_cons_of_ne hk hresult,
    Tree.under_cons_of_ne hk herror]

theorem isOptional_extended (h : Extended ["code", "message"] t t') {error : Option RpcError}
    {before after : List Tree} :
    IsOptional RpcError.HeldBy error (before ++ t :: after) ↔
      IsOptional RpcError.HeldBy error (before ++ t' :: after) := by
  have hnull : t ≠ .null ∧ t' ≠ .null := by
    obtain ⟨written, k, key, u, rfl, rfl, -⟩ := h
    exact ⟨Tree.noConfusion, Tree.noConfusion⟩
  exact Json.isOptional_replace hnull.1 hnull.2 fun _ => RpcError.heldBy_extended h

theorem heldBy_errorExtended {before after : List (StringLiteral × Tree)} {k : StringLiteral}
    (hk : text? k = some "error") (h : Extended ["code", "message"] t t') :
    r.HeldBy (.object (before ++ (k, t) :: after) true) ↔
      r.HeldBy (.object (before ++ (k, t') :: after) true) := by
  have hne : "error" ≠ "result" := by decide
  rw [heldBy_object, heldBy_object]
  refine and_congr Json.legibleKeys_replace ?_
  simp only [Tree.under_append, Tree.under_cons_of_ne hk hne, Tree.under_cons_self hk,
    isOptional_extended h]

theorem heldBy_itemExtended {result : Tree} (h : Extended ["code", "message"] t t') :
    r.HeldBy (.array [result, t] true) ↔ r.HeldBy (.array [result, t'] true) := by
  have hitem : IsOptional RpcError.HeldBy r.error ([] ++ t :: []) ↔
      IsOptional RpcError.HeldBy r.error ([] ++ t' :: []) := isOptional_extended h
  rw [heldBy_array, heldBy_array]
  exact and_congr_right fun _ => hitem

theorem heldBy_missing {written : List (StringLiteral × Tree)} {k : StringLiteral} {key : String}
    (hk : text? k = some key) (hkey : key ∈ ["result", "error"])
    (hnone : Tree.under key written = []) :
    r.HeldBy (.object written true) ↔ r.HeldBy (.object ((k, .null) :: written) true) := by
  have hne : "result" ≠ "error" := by decide
  rw [heldBy_object, heldBy_object, Json.legibleKeys_cons hk]
  obtain rfl | rfl : key = "result" ∨ key = "error" := by simpa using hkey
  · rw [Tree.under_cons_self hk, hnone, Json.isOptional_null, Tree.under_cons_of_ne hk hne]
  · rw [Tree.under_cons_self hk, hnone, Json.isOptional_null, Tree.under_cons_of_ne hk hne.symm]

theorem heldBy_shorter {items : List Tree} (h : items.length < 2) :
    r.HeldBy (.array items true) ↔ r.HeldBy (.array (items ++ [.null]) true) := by
  rw [heldBy_array, heldBy_array]
  match items, h with
  | [], _ => exact and_congr_left fun _ => Json.isOptional_null.symm
  | [_], _ => exact and_congr_right fun _ => Json.isOptional_null.symm

/-- A change leaves the answer. -/
theorem RpcReply.Restated.answers (h : Restated t t') {response : Response Bool} :
    Answers t response ↔ Answers t' response := by
  -- only another order can make the result another value
  have hsame : (∀ r : RpcReply, r.HeldBy t ↔ r.HeldBy t') →
      (Answers t response ↔ Answers t' response) :=
    fun h => exists_congr fun r => and_congr_left fun _ => h r
  cases h with
  | reordered h => exact ⟨.reordered h, .reordered h.symm⟩
  | extended h => exact hsame fun _ => heldBy_extended h
  | errorExtended hk h => exact hsame fun _ => heldBy_errorExtended hk h
  | itemExtended h => exact hsame fun _ => heldBy_itemExtended h
  | missing hk hkey hnone => exact hsame fun _ => heldBy_missing hk hkey hnone
  | shorter h => exact hsame fun _ => heldBy_shorter h

/-- So do any changes, made and taken back in any number. -/
theorem answers_restated (h : Relation.EqvGen RpcReply.Restated t t') {response : Response Bool} :
    Answers t response ↔ Answers t' response := by
  induction h with
  | rel t t' h => exact h.answers
  | refl t => exact Iff.rfl
  | symm t t' _ ih => exact ih.symm
  | trans t u t' _ _ ih ih' => exact ih.trans ih'

end Restated

/-! ### The main result -/

variable {σ : Type} {transport : Http.Transport σ} {url : Url} {id : UInt64}
  {pending : transport.Pending (sent url id)} {s s' : σ} {a : Http.Answer}

/-- What each reply that was served comes to.  It is a failure if it has an error,
whatever its result is, and a success if it has none and its result is a truth value
or an object; every other text cannot be decoded, even if all that is wrong with it is an
unknown key that stands for no text.  Replies that differ in the order of members, in other
members whose keys stand for texts, and in nulls that are left out come to the same. -/
theorem served_reply_classified (take : σ → UInt64 × σ) (hserved : a.isSuccess)
    (hanswer : transport.resume (sent url id) pending s = (.answered (.ok a), s')) :
    ∃ result,
      (client take transport url).resume () ⟨id, pending⟩ s = (.answered result, s') ∧
      (∀ m, result = .ok (.failure m) ↔
        ∃ r e, Holds a.body r ∧ r.error = some e ∧ m = s!"{e.code}: {e.message}") ∧
      (result = .ok (.success false) ↔
        ∃ r, Holds a.body r ∧ r.error = none ∧ r.result = some (.bool false)) ∧
      (result = .ok (.success true) ↔
        ∃ r, Holds a.body r ∧ r.error = none ∧
          (r.result = some (.bool true) ∨ ∃ members, r.result = some (.object members))) ∧
      ((∃ detail, result = .error (.decode detail)) ↔ ∀ r, Holds a.body r → ¬r.Conclusive) ∧
      ∀ a' : Http.Answer, a'.isSuccess → ∀ t t', Spells a.body t → Spells a'.body t' →
        Relation.EqvGen RpcReply.Restated t t' →
        ∀ response, result = .ok response ↔ receive (.ok a') = .ok response := by
  have hreceive : receive (.ok a) = interpretBody a.body := receive_of_isSuccess hserved
  refine ⟨receive (.ok a), client_resume take hanswer, ?_⟩
  rw [hreceive]
  refine ⟨?_, ?_, ?_, interpretBody_eq_decode, ?_⟩
  · intro m
    simp only [interpretBody_eq_failure, readReply_eq_ok]
  · simp [interpretBody_eq_ok, RpcReply.syncing_eq_success]
  · simp [interpretBody_eq_ok, RpcReply.syncing_eq_success]
  · intro a' hserved' t t' ht ht' hrestated response
    rw [receive_of_isSuccess hserved', interpretBody_of_spells ht, interpretBody_of_spells ht']
    exact answers_restated hrestated

/-- An engine that is in sync, and the same reply with a number and a null error. -/
theorem served_reply_classified_in_sync :
    ∃ (url : Url) (s s' : CallState Http.Exchange),
      CallState.exchange.resume (sent url 1) () s =
        (.answered (.ok ⟨200, "\x7b\"result\":false\x7d"⟩), s') ∧
      (client CallState.takeNumber CallState.exchange url).resume () ⟨1, ()⟩ s =
        (.answered (.ok (.success false)), s') ∧
      receive (.ok ⟨200, "\x7b\"id\":1,\"error\":null,\"result\":false\x7d"⟩) =
        .ok (.success false) := by
  let url : Url := ⟨"http", some (.ipv4 0x7f000001), none, ['/'], none⟩
  let s : CallState Http.Exchange :=
    ⟨⟨"/data", ⟨0⟩, .empty, []⟩, .new,
      ⟨[sent url 1], some (.ok ⟨200, "\x7b\"result\":false\x7d"⟩)⟩⟩
  have hreply : CallState.exchange.resume (sent url 1) () s =
      (.answered (.ok ⟨200, "\x7b\"result\":false\x7d"⟩), { s with network.reply := none }) := rfl
  obtain ⟨result, hresume, -, hfalse, -, -, hrestated⟩ :=
    served_reply_classified CallState.takeNumber (by decide) hreply
  let key (name : String) : StringLiteral := name.toList.map .char
  let written : List (StringLiteral × Tree) := [(key "result", .bool false)]
  let number : Tree := .number ⟨false, [1], none, none⟩
  have hspells : Spells "\x7b\"result\":false\x7d" (.object written true) :=
    Value.spells_render (.object [("result", .bool false)])
  have hspells' : Spells "\x7b\"id\":1,\"error\":null,\"result\":false\x7d"
      (.object ((key "id", number) :: (key "error", .null) :: written) true) :=
    Value.spells_render (.object [("id", .natural 1), ("error", .null), ("result", .bool false)])
  have hkey : text? (key "result") = some "result" := by decide
  have herror : Tree.under "error" written = [] := Tree.under_cons_of_ne hkey (by decide)
  have hresult : result = .ok (.success false) := by
    refine hfalse.mpr ⟨⟨some (.bool false), none⟩, ⟨_, hspells, ?_⟩, rfl, rfl⟩
    refine heldBy_object.mpr ⟨?_, ⟨.bool false, Tree.under_cons_self hkey, nofun, rfl⟩, .inl herror⟩
    exact List.forall_mem_singleton.mpr ⟨"result", hkey⟩
  have hnull : RpcReply.Restated (.object written true)
      (.object ((key "error", .null) :: written) true) :=
    .missing (by decide) (List.mem_cons_of_mem _ List.mem_cons_self) herror
  have hnumber : RpcReply.Restated (.object ((key "error", .null) :: written) true)
      (.object ((key "id", number) :: (key "error", .null) :: written) true) :=
    .extended ⟨_, _, "id", _, rfl, rfl, by decide, by decide⟩
  have hsame := hrestated ⟨200, "\x7b\"id\":1,\"error\":null,\"result\":false\x7d"⟩
    (by decide) _ _ hspells hspells' (.trans _ _ _ (.rel _ _ hnull) (.rel _ _ hnumber))
  subst hresult
  exact ⟨url, s, _, hreply, hresume, (hsame _).mp rfl⟩

end ExecutionLink.Engine
