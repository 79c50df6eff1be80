/-
Which endpoints can be connected to, and which spellings of one are the same.

`Usable` is the condition under which an endpoint resolves and `Refused` says
why it does not; every endpoint is the one or the other.  `Respelled` relates
the texts that differ in the blanks around them or, for the stub marker, in the
case of its letters: whatever resolves an endpoint cannot tell them apart.

* `Connection.resolve_eq_ok_iff`, `Connection.resolve_eq_error_iff` — what is
  resolved and what is refused, and with which complaint.
* `Respelled.resolve_eq` — endpoints spelled differently resolve alike.
-/
import Mathlib.Data.List.Forall2
import ExecutionLink.Connection
import ExecutionLink.Proofs.Text.Trimming

namespace ExecutionLink

/-! ### Spellings of an endpoint -/

/-- The stub marker with each of its letters small or capital. -/
def EndpointMode.SpellsMarker (text : String) : Prop :=
  List.Forall₂ (fun letter c => c = letter ∨ c = letter.toUpper) stubMarker.toList text.toList

/-- Two spellings of an endpoint. They differ in the blanks around the text or,
if it is the stub marker, in the case of its letters. -/
inductive Respelled : String → String → Prop
  | pad {before after : List Char} (text : String) (hbefore : ∀ c ∈ before, Text.isBlank c)
      (hafter : ∀ c ∈ after, Text.isBlank c) :
      Respelled text (String.ofList (before ++ text.toList ++ after))
  | recase {s t : String} (hs : EndpointMode.SpellsMarker s) (ht : EndpointMode.SpellsMarker t) :
      Respelled s t
  | symm {s t : String} (h : Respelled s t) : Respelled t s
  | trans {s t u : String} (h : Respelled s t) (h' : Respelled t u) : Respelled s u

/-- A text is spelled like what is left of it without blanks around it. -/
theorem Respelled.of_trim (text : String) : Respelled (Text.trim text) text := by
  obtain ⟨before, after, hbefore, hafter, heq⟩ := Text.exists_pad text.toList
  have hpad : Respelled (Text.trim text)
      (String.ofList (before ++ (Text.trim text).toList ++ after)) :=
    .pad _ hbefore hafter
  rwa [Text.toList_trim, heq, String.ofList_toList] at hpad

theorem EndpointMode.ofEndpoint_of_spellsMarker {text : String} (h : SpellsMarker text) :
    ofEndpoint (some text) = .stub := by
  have hmarker : stubMarker.toList = ['s', 't', 'u', 'b'] := rfl
  rw [SpellsMarker, hmarker] at h
  simp only [List.forall₂_cons_left_iff, List.forall₂_nil_left_iff] at h
  obtain ⟨s, _, hs, ⟨t, _, ht, ⟨u, _, hu, ⟨b, _, hb, rfl, rfl⟩, rfl⟩, rfl⟩, htext⟩ := h
  obtain rfl : text = String.ofList [s, t, u, b] := by rw [← htext, String.ofList_toList]
  -- Two choices for each letter: sixteen texts.
  rcases hs with rfl | rfl <;> rcases ht with rfl | rfl <;> rcases hu with rfl | rfl <;>
    rcases hb with rfl | rfl <;> rfl

/-! ### Usable and refused endpoints -/

/-- An endpoint is usable unless it is meant for a live peer and its text is no
URL over HTTP. -/
def Usable (endpoint : Option String) : Prop :=
  ∀ text ∈ endpoint, EndpointMode.ofEndpoint (some text) = .live →
    ∃ url, Url.parse (Text.trim text) = .ok url ∧ (url.scheme = "http" ∨ url.scheme = "https")

/-- An endpoint for a live peer that is refused, and the complaint about it. -/
inductive Refused : Option String → String → Prop
  | malformed {text : String} {fault : UrlError}
      (hlive : EndpointMode.ofEndpoint (some text) = .live)
      (hparse : Url.parse (Text.trim text) = .error fault) :
      Refused (some text) s!"'{Text.trim text}': {fault.message}"
  | scheme {text : String} {url : Url} (hlive : EndpointMode.ofEndpoint (some text) = .live)
      (hparse : Url.parse (Text.trim text) = .ok url)
      (hscheme : ¬(url.scheme = "http" ∨ url.scheme = "https")) :
      Refused (some text) s!"'{Text.trim text}': unsupported scheme '{url.scheme}'"

theorem usable_or_refused (endpoint : Option String) :
    Usable endpoint ∨ ∃ detail, Refused endpoint detail := by
  cases endpoint with
  | none => exact .inl nofun
  | some text =>
    by_cases hlive : EndpointMode.ofEndpoint (some text) = .live
    · cases hparse : Url.parse (Text.trim text) with
      | error fault => exact .inr ⟨_, .malformed hlive hparse⟩
      | ok url =>
        by_cases hscheme : url.scheme = "http" ∨ url.scheme = "https"
        · refine .inl ?_
          rintro _ ⟨⟩ -
          exact ⟨url, hparse, hscheme⟩
        · exact .inr ⟨_, .scheme hlive hparse hscheme⟩
    · refine .inl ?_
      rintro _ ⟨⟩ hlive'
      exact absurd hlive' hlive

namespace Connection

variable {endpoint : Option String} {detail : String}

theorem resolve_of_stub (h : EndpointMode.ofEndpoint endpoint = .stub) :
    resolve endpoint = .ok (EndpointMode.stubMarker, none) := by
  rw [resolve, h]

theorem resolve_of_live {text : String} (h : EndpointMode.ofEndpoint (some text) = .live) :
    resolve (some text) = (parseUrl (Text.trim text)).map fun url => (Text.trim text, some url) := by
  rw [resolve, h]
  rfl

theorem resolve_of_refused (h : Refused endpoint detail) :
    resolve endpoint = .error (.invalidEndpoint detail) := by
  cases h with
  | malformed hlive hparse =>
    rw [resolve_of_live hlive, parseUrl, hparse]
    rfl
  | scheme hlive hparse hscheme =>
    rw [resolve_of_live hlive, parseUrl, hparse]
    simp only [if_neg hscheme]
    rfl

theorem resolve_of_usable (h : Usable endpoint) : ∃ resolved, resolve endpoint = .ok resolved := by
  cases hmode : EndpointMode.ofEndpoint endpoint with
  | stub => exact ⟨_, resolve_of_stub hmode⟩
  | live =>
    cases endpoint with
    | none => cases hmode
    | some text =>
      obtain ⟨url, hparse, hscheme⟩ := h text rfl hmode
      refine ⟨(Text.trim text, some url), ?_⟩
      rw [resolve_of_live hmode, parseUrl, hparse]
      simp only [if_pos hscheme]
      rfl

/-- The text that is kept of an endpoint is of the same mode as the endpoint. -/
theorem ofEndpoint_of_resolve {text : String} {url : Option Url}
    (h : resolve endpoint = .ok (text, url)) :
    EndpointMode.ofEndpoint (some text) = .ofEndpoint endpoint := by
  cases hmode : EndpointMode.ofEndpoint endpoint with
  | stub =>
    rw [resolve_of_stub hmode] at h
    cases h
    rfl
  | live =>
    cases endpoint with
    | none => cases hmode
    | some given =>
      rw [resolve_of_live hmode] at h
      cases hparse : parseUrl (Text.trim given) with
      | error e =>
        rw [hparse] at h
        cases h
      | ok u =>
        rw [hparse] at h
        cases h
        rw [← hmode, EndpointMode.ofEndpoint, EndpointMode.ofEndpoint, Text.trim_trim]

/-- Exactly the usable endpoints are resolved. -/
theorem resolve_eq_ok_iff : (∃ resolved, resolve endpoint = .ok resolved) ↔ Usable endpoint := by
  refine ⟨?_, resolve_of_usable⟩
  rintro ⟨resolved, hresolved⟩
  refine (usable_or_refused endpoint).resolve_right ?_
  rintro ⟨detail, hrefused⟩
  rw [resolve_of_refused hrefused] at hresolved
  cases hresolved

/-- Resolving fails for the refused endpoints alone, each with its complaint. -/
theorem resolve_eq_error_iff {e : ClientError} :
    resolve endpoint = .error e ↔ ∃ detail, Refused endpoint detail ∧ e = .invalidEndpoint detail := by
  constructor
  · intro he
    rcases usable_or_refused endpoint with husable | ⟨detail, hrefused⟩
    · obtain ⟨resolved, hresolved⟩ := resolve_of_usable husable
      rw [hresolved] at he
      cases he
    · rw [resolve_of_refused hrefused, Except.error.injEq] at he
      exact ⟨detail, hrefused, he.symm⟩
  · rintro ⟨detail, hrefused, rfl⟩
    exact resolve_of_refused hrefused

end Connection

/-! ### What cannot tell spellings apart -/

namespace Respelled

variable {s t : String}

/-- Whatever sees a text only when trimmed, and no difference between two endpoints that
select the stub, sees no difference between two spellings. -/
theorem congr {α : Type} {f : String → α}
    (htrim : ∀ {s t : String}, Text.trim s = Text.trim t → f s = f t)
    (hstub : ∀ {s t : String}, EndpointMode.ofEndpoint (some s) = .stub →
      EndpointMode.ofEndpoint (some t) = .stub → f s = f t)
    (h : Respelled s t) : f s = f t := by
  induction h with
  | pad text hbefore hafter => exact htrim (Text.trim_pad hbefore hafter text).symm
  | recase hs ht =>
    exact hstub (EndpointMode.ofEndpoint_of_spellsMarker hs)
      (EndpointMode.ofEndpoint_of_spellsMarker ht)
  | symm _ ih => exact ih.symm
  | trans _ _ ih ih' => exact ih.trans ih'

theorem ofEndpoint_eq (h : Respelled s t) :
    EndpointMode.ofEndpoint (some s) = .ofEndpoint (some t) := by
  refine congr (f := fun text => EndpointMode.ofEndpoint (some text)) ?_ ?_ h
  · intro s t htrim
    simp only [EndpointMode.ofEndpoint, htrim]
  · intro s t hs ht
    exact hs.trans ht.symm

/-- Endpoints that are spelled differently resolve alike. -/
theorem resolve_eq (h : Respelled s t) :
    Connection.resolve (some s) = Connection.resolve (some t) := by
  refine congr (f := fun text => Connection.resolve (some text)) ?_ ?_ h
  · intro s t htrim
    simp only [Connection.resolve, EndpointMode.ofEndpoint, Option.getD_some, htrim]
  · intro s t hs ht
    exact (Connection.resolve_of_stub hs).trans (Connection.resolve_of_stub ht).symm

/-- An endpoint that is missing has one spelling only. -/
theorem congr_option {α : Type} {g : Option String → α}
    (hg : ∀ {s t : String}, Respelled s t → g (some s) = g (some t))
    {endpoint endpoint' : Option String} (h : Option.Rel Respelled endpoint endpoint') :
    g endpoint = g endpoint' := by
  cases h with
  | none => rfl
  | some hrespelled => exact hg hrespelled

end Respelled

end ExecutionLink
