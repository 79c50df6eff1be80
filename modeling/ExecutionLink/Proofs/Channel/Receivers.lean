/-
What the operations of a channel registry do to its receivers.

Each operation is described by what it makes of a single receiver
(`receiver?_subscribe`, `receiver?_deliver`, `receiver?_close`, ...), so nobody
else has to look at the lists behind a registry.  From these descriptions comes
the invariant that every operation keeps:

* `Consistent` — the pending list holds no number twice, holds only receivers
  that wait, and holds every receiver that waits and was not dropped; what a
  receiver was sent is the published channel.

Publishing is described by its two steps.  Between them the pending receivers
wait for a channel that is published already, which `Consistent` allows.
-/
import ExecutionLink.Channel.Registry
import Mathlib.Data.List.Nodup
import Mathlib.Order.Nat

namespace ExecutionLink

namespace Receiver

variable {κ : Type}

/-- Whether the subscriber will learn nothing more from the receiver: it was
sent a channel or has been closed. -/
def Settled (r : Receiver κ) : Prop := r.slot ≠ .waiting

theorem send_send (c : κ) (r : Receiver κ) : (r.send c).send c = r.send c := by
  unfold send
  by_cases h : r.held <;> simp [h]

theorem close_close (r : Receiver κ) : r.close.close = r.close := by
  obtain ⟨slot, held⟩ := r
  cases slot <;> rfl

/-- The receiver after its holder has looked at it: what was sent is taken out. -/
def lookedAt (r : Receiver κ) : Receiver κ :=
  match r.slot with
  | .sent _ => { r with slot := .taken }
  | _ => r

@[simp] theorem held_lookedAt (r : Receiver κ) : r.lookedAt.held = r.held := by
  obtain ⟨slot, held⟩ := r
  cases slot <;> rfl

@[simp] theorem held_send (c : κ) (r : Receiver κ) : (r.send c).held = r.held := by
  unfold send
  by_cases h : r.held <;> simp [h]

@[simp] theorem held_close (r : Receiver κ) : r.close.held = r.held := by
  obtain ⟨slot, held⟩ := r
  cases slot <;> rfl

end Receiver

/-- Modifying the entries with the given numbers, one after the other.  If a
second change adds nothing to the first, it is of no matter how often a number
is given. -/
theorem getElem?_foldl_modify {α : Type} (f : α → α) (hf : ∀ a, f (f a) = f a) (is : List Nat)
    (as : List α) (j : Nat) :
    (is.foldl (fun as i => as.modify i f) as)[j]? =
      as[j]?.map fun a => if j ∈ is then f a else a := by
  induction is generalizing as with
  | nil => simp
  | cons i is ih =>
    rw [List.foldl_cons, ih, List.getElem?_modify, Option.map_eq_map, Option.map_map]
    congr 1
    funext a
    by_cases hi : i = j
    · subst hi
      by_cases hm : i ∈ is <;> simp [hm, hf]
    · have hj : j ≠ i := fun h => hi h.symm
      by_cases hm : j ∈ is <;> simp [hi, hj, hm]

namespace ChannelRegistry

variable {κ : Type} {r : ChannelRegistry κ}

/-! ### What is published and who is pending -/

@[simp] theorem published_subscribe (r : ChannelRegistry κ) :
    r.subscribe.2.published = r.published := by
  unfold subscribe
  split <;> rfl

@[simp] theorem published_deliver (r : ChannelRegistry κ) (c : κ) :
    (r.deliver c).2.published = r.published := rfl

@[simp] theorem published_close (r : ChannelRegistry κ) : r.close.2.published = r.published := rfl

@[simp] theorem published_poll (r : ChannelRegistry κ) (i : Nat) :
    (r.poll i).2.published = r.published := by
  unfold poll
  split <;> rfl

@[simp] theorem published_drop (r : ChannelRegistry κ) (i : Nat) :
    (r.drop i).published = r.published := rfl

theorem setPublished_eq_ok {r' : ChannelRegistry κ} {c : κ} :
    r.setPublished c = .ok r' ↔ r.published = none ∧ r' = { r with published := some c } := by
  unfold setPublished
  cases r.published with
  | none => simp [eq_comm]
  | some d => simp

theorem pending_subscribe (r : ChannelRegistry κ) :
    r.subscribe.2.pending =
      if r.published.isSome then r.pending else r.pending ++ [r.receivers.length] := by
  unfold subscribe
  cases h : r.published <;> simp

@[simp] theorem pending_deliver (r : ChannelRegistry κ) (c : κ) :
    (r.deliver c).2.pending = [] := rfl

@[simp] theorem pending_close (r : ChannelRegistry κ) : r.close.2.pending = [] := rfl

@[simp] theorem pending_poll (r : ChannelRegistry κ) (i : Nat) :
    (r.poll i).2.pending = r.pending := by
  unfold poll
  split <;> rfl

@[simp] theorem pending_drop (r : ChannelRegistry κ) (i : Nat) :
    (r.drop i).pending = r.pending := rfl

/-! ### What becomes of a receiver -/

@[simp] theorem subscribe_fst (r : ChannelRegistry κ) : r.subscribe.1 = r.receivers.length := by
  unfold subscribe
  split <;> rfl

theorem isSome_receiver? {i : Nat} : (r.receiver? i).isSome ↔ i < r.receivers.length := by
  rw [receiver?, isSome_getElem?]

@[simp] theorem receiver?_length (r : ChannelRegistry κ) :
    r.receiver? r.receivers.length = none :=
  List.getElem?_eq_none (Nat.le_refl _)

/-- A new receiver has been sent the channel if it is published, and waits
otherwise; the others are as before. -/
theorem receiver?_subscribe (r : ChannelRegistry κ) (i : Nat) :
    r.subscribe.2.receiver? i =
      if i = r.receivers.length then some ⟨r.published.elim .waiting .sent, true⟩
      else r.receiver? i := by
  unfold subscribe receiver?
  cases h : r.published <;> simp only [List.getElem?_append, List.getElem?_singleton] <;> grind

/-- The channel is sent to who is pending and still held. -/
theorem receiver?_deliver (r : ChannelRegistry κ) (c : κ) (i : Nat) :
    (r.deliver c).2.receiver? i =
      (r.receiver? i).map fun x => if i ∈ r.pending then x.send c else x :=
  getElem?_foldl_modify _ (Receiver.send_send c) r.pending r.receivers i

/-- Who is pending is closed. -/
theorem receiver?_close (r : ChannelRegistry κ) (i : Nat) :
    r.close.2.receiver? i =
      (r.receiver? i).map fun x => if i ∈ r.pending then x.close else x :=
  getElem?_foldl_modify _ Receiver.close_close r.pending r.receivers i

/-- Only the receiver that is looked at can change. -/
theorem receiver?_poll (r : ChannelRegistry κ) (i j : Nat) :
    (r.poll i).2.receiver? j =
      (r.receiver? j).map fun x => if i = j then x.lookedAt else x := by
  have same (h : ∀ x, r.receiver? i = some x → x.lookedAt = x) :
      r.receiver? j = (r.receiver? j).map fun x => if i = j then x.lookedAt else x := by
    cases hx : r.receiver? j with
    | none => rfl
    | some x =>
      by_cases hij : i = j
      · subst hij
        simp [h x hx]
      · simp [hij]
  unfold poll
  split
  · rename_i held h
    apply same
    rintro x hx
    rw [h] at hx
    cases hx
    rfl
  · rename_i c held h
    simp only [receiver?] at h ⊢
    rw [List.getElem?_modify, Option.map_eq_map]
    by_cases hij : i = j
    · subst hij
      simp [h, Receiver.lookedAt]
    · simp [hij]
  · rename_i hw hs
    apply same
    rintro ⟨slot, held⟩ hx
    cases slot with
    | sent c => exact absurd hx (hs c held)
    | _ => rfl

/-- Dropping a receiver changes only whether it is held. -/
theorem receiver?_drop (r : ChannelRegistry κ) (i j : Nat) :
    (r.drop i).receiver? j =
      (r.receiver? j).map fun x => if i = j then { x with held := false } else x := by
  unfold drop receiver?
  rw [List.getElem?_modify]
  rfl

/-! ### How many receivers there are -/

theorem length_subscribe (r : ChannelRegistry κ) :
    r.subscribe.2.receivers.length = r.receivers.length + 1 := by
  unfold subscribe
  cases r.published <;> exact List.length_append

/-- An operation that changes receivers one by one hands out none. -/
theorem length_of_map {r' : ChannelRegistry κ} {f : Nat → Receiver κ → Receiver κ}
    (h : ∀ i, r'.receiver? i = (r.receiver? i).map (f i)) :
    r'.receivers.length = r.receivers.length := by
  refine eq_of_forall_lt_iff fun i => ?_
  rw [← isSome_receiver?, ← isSome_receiver?, h, Option.isSome_map]

theorem length_close (r : ChannelRegistry κ) :
    r.close.2.receivers.length = r.receivers.length :=
  length_of_map r.receiver?_close

theorem length_poll (r : ChannelRegistry κ) (i : Nat) :
    (r.poll i).2.receivers.length = r.receivers.length :=
  length_of_map (r.receiver?_poll i)

theorem length_drop (r : ChannelRegistry κ) (i : Nat) :
    (r.drop i).receivers.length = r.receivers.length :=
  length_of_map (r.receiver?_drop i)

end ChannelRegistry

/-! ### The invariant -/

/-- What a receiver's slot says about the registry: whether a channel is
published and whether the receiver is pending. -/
def Receiver.Fits {κ : Type} (published : Option κ) (pending : Prop) : Receiver κ → Prop
  | ⟨.waiting, held⟩ => pending ∨ held = false
  | ⟨.sent c, _⟩ => published = some c ∧ ¬pending
  | ⟨.taken, _⟩ => published.isSome ∧ ¬pending
  | ⟨.closed, _⟩ => ¬pending

namespace Receiver.Fits

variable {κ : Type} {p : Option κ} {q : Prop} {x : Receiver κ}

theorem send {c : κ} (hq : q) (h : x.Fits (some c) q) : (x.send c).Fits (some c) False := by
  obtain ⟨slot, held⟩ := x
  cases slot <;> cases held <;> simp_all [Fits, Receiver.send]

theorem close (hq : q) (h : x.Fits p q) : x.close.Fits p False := by
  obtain ⟨slot, held⟩ := x
  cases slot <;> simp_all [Fits, Receiver.close]

theorem lookedAt (h : x.Fits p q) : x.lookedAt.Fits p q := by
  obtain ⟨slot, held⟩ := x
  cases slot <;> simp_all [Fits, Receiver.lookedAt]

theorem drop (h : x.Fits p q) : Fits p q { x with held := false } := by
  obtain ⟨slot, held⟩ := x
  cases slot <;> simp_all [Fits]

theorem publish {c : κ} (h : x.Fits none q) : x.Fits (some c) q := by
  obtain ⟨slot, held⟩ := x
  cases slot <;> simp_all [Fits]

end Receiver.Fits

namespace ChannelRegistry

variable {κ : Type} {r : ChannelRegistry κ}

/-- What is true of a registry at any time. -/
structure Consistent (r : ChannelRegistry κ) : Prop where
  nodup : r.pending.Nodup
  exist : ∀ i ∈ r.pending, (r.receiver? i).isSome
  fits : ∀ i x, r.receiver? i = some x → x.Fits r.published (i ∈ r.pending)

theorem consistent_empty : (empty : ChannelRegistry κ).Consistent where
  nodup := .nil
  exist := by simp [empty]
  fits := by simp [empty, receiver?]

/-- An operation that changes receivers one by one keeps the invariant if it
leaves each of them fitting. -/
theorem consistent_of_map {r' : ChannelRegistry κ} {f : Nat → Receiver κ → Receiver κ}
    (hr : ∀ i, r'.receiver? i = (r.receiver? i).map (f i)) (hnodup : r'.pending.Nodup)
    (hexist : ∀ i ∈ r'.pending, (r.receiver? i).isSome)
    (hfits : ∀ i x, r.receiver? i = some x → (f i x).Fits r'.published (i ∈ r'.pending)) :
    r'.Consistent where
  nodup := hnodup
  exist := by
    intro i hi
    rw [hr, Option.isSome_map]
    exact hexist i hi
  fits := by
    intro i y hy
    rw [hr, Option.map_eq_some_iff] at hy
    obtain ⟨x, hx, rfl⟩ := hy
    exact hfits i x hx

namespace Consistent

theorem length_notMem (h : r.Consistent) : r.receivers.length ∉ r.pending := by
  intro hm
  simpa using h.exist _ hm

theorem subscribe (h : r.Consistent) : r.subscribe.2.Consistent where
  nodup := by
    rw [pending_subscribe]
    split
    · exact h.nodup
    · exact List.nodup_append.mpr ⟨h.nodup, List.nodup_singleton _, by
        rintro i hi j hj rfl
        rw [List.mem_singleton] at hj
        exact h.length_notMem (hj ▸ hi)⟩
  exist := by
    intro i hi
    rw [receiver?_subscribe]
    split
    · rfl
    · rename_i hne
      rw [pending_subscribe] at hi
      split at hi
      · exact h.exist i hi
      · exact h.exist i (by simpa [hne] using hi)
  fits := by
    intro i x hx
    rw [receiver?_subscribe] at hx
    rw [published_subscribe, pending_subscribe]
    split at hx
    · subst i
      have hnot := h.length_notMem
      cases hp : r.published <;> simp [hp] at hx <;> subst hx <;> simp [Receiver.Fits, hnot]
    · rename_i hi
      have := h.fits i x hx
      split
      · exact this
      · simpa [hi] using this

theorem setPublished (h : r.Consistent) {r' : ChannelRegistry κ} {c : κ}
    (hs : r.setPublished c = .ok r') : r'.Consistent := by
  obtain ⟨hp, rfl⟩ := setPublished_eq_ok.mp hs
  refine ⟨h.nodup, h.exist, fun i x hx => ?_⟩
  have := h.fits i x hx
  rw [hp] at this
  exact this.publish

/-- Delivering keeps the invariant if it is the published channel that is sent. -/
theorem deliver (h : r.Consistent) {c : κ} (hp : r.published = some c) :
    (r.deliver c).2.Consistent := by
  refine consistent_of_map (receiver?_deliver r c) .nil (by simp) fun i x hx => ?_
  have := h.fits i x hx
  rw [hp] at this
  simp only [published_deliver, pending_deliver, hp, List.not_mem_nil]
  split
  · rename_i hi
    exact this.send hi
  · rename_i hi
    simpa [hi] using this

theorem close (h : r.Consistent) : r.close.2.Consistent := by
  refine consistent_of_map (receiver?_close r) .nil (by simp) fun i x hx => ?_
  have := h.fits i x hx
  simp only [published_close, pending_close, List.not_mem_nil]
  split
  · rename_i hi
    exact this.close hi
  · rename_i hi
    simpa [hi] using this

theorem poll (h : r.Consistent) (i : Nat) : (r.poll i).2.Consistent := by
  refine consistent_of_map (receiver?_poll r i) (by simpa using h.nodup)
    (by simpa using h.exist) fun j x hx => ?_
  rw [published_poll, pending_poll]
  split
  · exact (h.fits j x hx).lookedAt
  · exact h.fits j x hx

theorem drop (h : r.Consistent) (i : Nat) : (r.drop i).Consistent := by
  refine consistent_of_map (receiver?_drop r i) (by simpa using h.nodup)
    (by simpa using h.exist) fun j x hx => ?_
  rw [published_drop, pending_drop]
  split
  · exact (h.fits j x hx).drop
  · exact h.fits j x hx

/-- Who is pending has not been told anything. -/
theorem waiting_of_pending (h : r.Consistent) {i : Nat} {x : Receiver κ}
    (hx : r.receiver? i = some x) (hi : i ∈ r.pending) : x.slot = .waiting := by
  have hfits := h.fits i x hx
  obtain ⟨slot, held⟩ := x
  cases slot with
  | waiting => rfl
  | sent c => exact absurd hi hfits.2
  | taken => exact absurd hi hfits.2
  | closed => exact absurd hi hfits

/-- Who holds a receiver waits exactly if the receiver is pending. -/
theorem settled_iff (h : r.Consistent) {i : Nat} {x : Receiver κ} (hx : r.receiver? i = some x)
    (hheld : x.held) : x.Settled ↔ i ∉ r.pending := by
  constructor
  · intro hsettled hi
    exact hsettled (h.waiting_of_pending hx hi)
  · intro hi hwaiting
    have hfits := h.fits i x hx
    obtain ⟨slot, held⟩ := x
    obtain rfl : slot = .waiting := hwaiting
    rcases hfits with hpending | hdropped
    · exact hi hpending
    · exact absurd hheld (Bool.eq_false_iff.mp hdropped)

/-- Who is given a channel is given the published one. -/
theorem published_of_ready (h : r.Consistent) {i : Nat} {c : κ}
    (hpoll : (r.poll i).1 = .ready c) : r.published = some c := by
  unfold ChannelRegistry.poll at hpoll
  split at hpoll
  · cases hpoll
  · rename_i channel held hreceiver
    cases hpoll
    exact (h.fits i _ hreceiver).1
  · cases hpoll

end Consistent

end ChannelRegistry

end ExecutionLink
