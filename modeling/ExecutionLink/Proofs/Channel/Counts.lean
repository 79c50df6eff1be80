/-
How many subscribers a registry counts.

Publishing says how many subscribers were sent the channel, closing how many
receivers were pending.  The two count differently: a receiver that is dropped
while it waits stays pending, and publishing passes over it while closing counts
it.  A `Step` is what can be done to a registry, by its owner or by those who
subscribe, and steps come in any order.

* `settled` — the receivers whose holders waited before a step and have been
  told something after it.
* `AtRest` — what is true of a registry between two steps: it is consistent,
  and nobody is pending once a channel is published.
* `LeftBehind` — who was dropped while waiting, with neither a publication nor a
  closing since.
* `counts_subscribers` — publishing counts exactly those that it settles, and
  closing those that it settles and those that were left behind; over a whole
  run nobody is counted twice.
* `not_close_counts_settled` — so closing can count more than it settles.
-/
import ExecutionLink.Channel.Basic
import ExecutionLink.Proofs.Channel.Receivers
import Mathlib.Data.List.Induction

namespace ExecutionLink.ChannelRegistry

variable {κ : Type} {r r' : ChannelRegistry κ} {i : Nat}

/-! ### Steps and what they settle -/

/-- What the owner of a registry, a subscriber or the holder of a receiver does. -/
inductive Step (κ : Type) where
  | subscribe
  | publish (channel : κ)
  | close
  | look (receiver : Nat)
  | drop (receiver : Nat)

/-- Whether a step is meant for everybody who is pending. -/
def Step.drains : Step κ → Bool
  | .publish _ | .close => true
  | .subscribe | .look _ | .drop _ => false

/-- Takes a step, and says how many receivers it counts.  Only publishing and
closing count any; a publication that is refused changes nothing. -/
def take (r : ChannelRegistry κ) : Step κ → Nat × ChannelRegistry κ
  | .subscribe => (0, r.subscribe.2)
  | .publish c =>
    match r.publish c with
    | .ok counted => counted
    | .error _ => (0, r)
  | .close => r.close
  | .look i => (0, (r.poll i).2)
  | .drop i => (0, r.drop i)

/-- Takes steps in the given order. -/
def run (r : ChannelRegistry κ) (steps : List (Step κ)) : ChannelRegistry κ :=
  steps.foldl (fun r a => (r.take a).2) r

/-- All that was counted in a run. -/
def total (r : ChannelRegistry κ) : List (Step κ) → Nat
  | [] => 0
  | a :: steps => (r.take a).1 + total (r.take a).2 steps

/-- Whether somebody holds the receiver and waits. -/
def isAwaited (r : ChannelRegistry κ) (i : Nat) : Bool :=
  (r.receiver? i).any fun x => x.held && x.slot matches .waiting

/-- Whether somebody holds the receiver and has been told something. -/
def isAnswered (r : ChannelRegistry κ) (i : Nat) : Bool :=
  (r.receiver? i).any fun x => x.held && !(x.slot matches .waiting)

/-- The receivers whose holders wait in one registry and have been told
something in a later one. -/
def settled (r r' : ChannelRegistry κ) : List Nat :=
  (List.range r.receivers.length).filter fun i => r.isAwaited i && r'.isAnswered i

/-- The receivers that are pending although they have been dropped. -/
def abandoned (r : ChannelRegistry κ) : List Nat :=
  r.pending.filter fun i => !r.isHeld i

/-- The receivers that a step counts. -/
def countedBy (r : ChannelRegistry κ) (a : Step κ) : List Nat :=
  settled r (r.take a).2 ++
    match a with
    | .close => r.abandoned
    | .subscribe | .publish _ | .look _ | .drop _ => []

/-- The receivers that the steps of a run count, one step after the other. -/
def counted (r : ChannelRegistry κ) : List (Step κ) → List Nat
  | [] => []
  | a :: steps => r.countedBy a ++ counted (r.take a).2 steps

/-- Receiver `i` was dropped while its holder waited, and neither a publication
nor a closing was tried since. -/
def LeftBehind (steps : List (Step κ)) (i : Nat) : Prop :=
  ∃ before later, steps = before ++ .drop i :: later ∧
    ((empty : ChannelRegistry κ).run before).isAwaited i ∧ ∀ a ∈ later, a.drains = false

theorem run_concat (r : ChannelRegistry κ) (steps : List (Step κ)) (a : Step κ) :
    r.run (steps ++ [a]) = ((r.run steps).take a).2 := by
  rw [run, List.foldl_append]
  rfl

theorem isAwaited_iff : r.isAwaited i ↔ r.receiver? i = some ⟨.waiting, true⟩ := by
  unfold isAwaited
  cases r.receiver? i with
  | none => simp
  | some x =>
    obtain ⟨slot, held⟩ := x
    cases slot <;> simp

theorem isAnswered_iff :
    r.isAnswered i ↔ ∃ slot, r.receiver? i = some ⟨slot, true⟩ ∧ slot ≠ .waiting := by
  unfold isAnswered
  cases r.receiver? i with
  | none => simp
  | some x =>
    obtain ⟨slot, held⟩ := x
    cases slot <;> simp

theorem mem_settled : i ∈ settled r r' ↔ r.isAwaited i ∧ r'.isAnswered i := by
  have hlt : r.isAwaited i → i < r.receivers.length := by
    intro h
    rw [← isSome_receiver?, isAwaited_iff.mp h]
    rfl
  simp only [settled, List.mem_filter, List.mem_range, Bool.and_eq_true]
  exact ⟨fun h => h.2, fun h => ⟨hlt h.1, h⟩⟩

theorem nodup_settled (r r' : ChannelRegistry κ) : (settled r r').Nodup :=
  List.nodup_range.filter _

theorem mem_abandoned : i ∈ r.abandoned ↔ i ∈ r.pending ∧ r.isHeld i = false := by
  simp [abandoned]

/-- Nobody is settled where everybody who waited could still be waiting. -/
theorem settled_eq_nil
    (h : ∀ i, r.isAwaited i → ∃ held, r'.receiver? i = some ⟨.waiting, held⟩) :
    settled r r' = [] := by
  refine List.eq_nil_iff_forall_not_mem.mpr fun i hi => ?_
  obtain ⟨hawaited, hanswered⟩ := mem_settled.mp hi
  obtain ⟨held, hwaiting⟩ := h i hawaited
  obtain ⟨slot, hslot, hne⟩ := isAnswered_iff.mp hanswered
  rw [hwaiting] at hslot
  cases hslot
  exact hne rfl

/-- Somebody waits exactly for the receivers that are pending and held. -/
theorem Consistent.isAwaited_iff_pending (h : r.Consistent) :
    r.isAwaited i ↔ i ∈ r.pending ∧ r.isHeld i := by
  rw [isAwaited_iff]
  constructor
  · intro hx
    refine ⟨?_, by rw [isHeld, hx]; rfl⟩
    rcases h.fits i _ hx with hpending | hdropped
    · exact hpending
    · cases hdropped
  · rintro ⟨hpending, hheld⟩
    obtain ⟨⟨slot, held⟩, hx⟩ := Option.isSome_iff_exists.mp (h.exist i hpending)
    have hwaiting : slot = .waiting := h.waiting_of_pending hx hpending
    rw [isHeld, hx] at hheld
    rw [hx, hwaiting, show held = true from hheld]

/-- If everybody who waits is told something, those are settled who are pending
and held. -/
theorem Consistent.settled_perm (h : r.Consistent)
    (htold : ∀ i, r.isAwaited i → r'.isAnswered i) :
    (settled r r').Perm (r.pending.filter r.isHeld) := by
  refine (List.perm_ext_iff_of_nodup (nodup_settled r r') (h.nodup.filter _)).mpr fun i => ?_
  rw [mem_settled, List.mem_filter, ← h.isAwaited_iff_pending]
  exact ⟨fun hi => hi.1, fun hi => ⟨hi, htold i hi⟩⟩

/-! ### Publishing and closing -/

theorem publish_of_none (h : r.published = none) (c : κ) :
    r.publish c = .ok (({ r with published := some c } : ChannelRegistry κ).deliver c) := by
  unfold publish setPublished
  rw [h]
  rfl

theorem publish_of_isSome (h : r.published.isSome) (c : κ) :
    r.publish c = .error (.invalidState "execution layer channel already published") := by
  obtain ⟨d, hd⟩ := Option.isSome_iff_exists.mp h
  unfold publish setPublished
  rw [hd]
  rfl

theorem take_publish_of_none (h : r.published = none) (c : κ) :
    r.take (.publish c) = ({ r with published := some c } : ChannelRegistry κ).deliver c := by
  show (match r.publish c with | .ok counted => counted | .error _ => (0, r)) = _
  rw [publish_of_none h c]

theorem take_publish_of_isSome (h : r.published.isSome) (c : κ) :
    r.take (.publish c) = (0, r) := by
  show (match r.publish c with | .ok counted => counted | .error _ => (0, r)) = _
  rw [publish_of_isSome h c]

/-- A publication either sends the channel to everybody who is pending or is
refused. -/
theorem take_publish_cases (r : ChannelRegistry κ) (c : κ) :
    (r.published = none ∧
      r.take (.publish c) = ({ r with published := some c } : ChannelRegistry κ).deliver c) ∨
    (r.published.isSome ∧ r.take (.publish c) = (0, r)) := by
  cases hp : r.published with
  | none => exact .inl ⟨rfl, take_publish_of_none hp c⟩
  | some d => exact .inr ⟨rfl, take_publish_of_isSome (Option.isSome_of_eq_some hp) c⟩

/-- Who waits is sent the channel that is published. -/
theorem Consistent.sent_of_awaited (h : r.Consistent) (c : κ) (hi : r.isAwaited i) :
    (({ r with published := some c } : ChannelRegistry κ).deliver c).2.receiver? i =
      some ⟨.sent c, true⟩ := by
  have hpending : i ∈ r.pending := (h.isAwaited_iff_pending.mp hi).1
  have hx : r.receiver? i = some ⟨.waiting, true⟩ := isAwaited_iff.mp hi
  rw [receiver?_deliver]
  show (r.receiver? i).map (fun x => if i ∈ r.pending then x.send c else x) = _
  rw [hx, Option.map_some, if_pos hpending]
  rfl

/-- Who waits is closed. -/
theorem Consistent.closed_of_awaited (h : r.Consistent) (hi : r.isAwaited i) :
    r.close.2.receiver? i = some ⟨.closed, true⟩ := by
  have hpending : i ∈ r.pending := (h.isAwaited_iff_pending.mp hi).1
  have hx : r.receiver? i = some ⟨.waiting, true⟩ := isAwaited_iff.mp hi
  rw [receiver?_close, hx, Option.map_some, if_pos hpending]
  rfl

/-- Publishing counts those whom it settles. -/
theorem Consistent.count_publish (h : r.Consistent) (c : κ) :
    let d := ({ r with published := some c } : ChannelRegistry κ).deliver c
    d.1 = (settled r d.2).length := by
  intro d
  have htold (i : Nat) (hi : r.isAwaited i) : d.2.isAnswered i :=
    isAnswered_iff.mpr ⟨_, h.sent_of_awaited c hi, by simp⟩
  show r.pending.countP r.isHeld = _
  rw [(h.settled_perm htold).length_eq, List.countP_eq_length_filter]

/-- Closing counts those whom it settles and those who are pending although they
have been dropped. -/
theorem Consistent.count_close (h : r.Consistent) :
    r.close.1 = (settled r r.close.2).length + r.abandoned.length := by
  have htold (i : Nat) (hi : r.isAwaited i) : r.close.2.isAnswered i :=
    isAnswered_iff.mpr ⟨_, h.closed_of_awaited hi, by simp⟩
  show r.pending.length = _
  rw [(h.settled_perm htold).length_eq]
  exact List.length_eq_length_filter_add r.isHeld

/-! ### Between two steps -/

/-- What is true of a registry whenever nobody is in the middle of publishing. -/
structure AtRest (r : ChannelRegistry κ) : Prop where
  consistent : r.Consistent
  delivered : r.published.isSome → r.pending = []

theorem atRest_empty : (empty : ChannelRegistry κ).AtRest where
  consistent := consistent_empty
  delivered := nofun

namespace AtRest

theorem take (h : r.AtRest) (a : Step κ) : (r.take a).2.AtRest := by
  cases a with
  | subscribe =>
    refine ⟨h.consistent.subscribe, fun hsome => ?_⟩
    have hp : r.published.isSome := by rwa [← published_subscribe]
    show r.subscribe.2.pending = []
    rw [pending_subscribe, if_pos hp]
    exact h.delivered hp
  | publish c =>
    rcases r.take_publish_cases c with ⟨hp, htake⟩ | ⟨-, htake⟩
    · rw [htake]
      have hset : r.setPublished c = .ok { r with published := some c } :=
        setPublished_eq_ok.mpr ⟨hp, rfl⟩
      exact ⟨(h.consistent.setPublished hset).deliver rfl, fun _ => rfl⟩
    · rw [htake]
      exact h
  | close => exact ⟨h.consistent.close, fun _ => rfl⟩
  | look j =>
    refine ⟨h.consistent.poll j, fun hsome => ?_⟩
    rw [show (r.take (.look j)).2.pending = r.pending from pending_poll r j]
    exact h.delivered (by rwa [← published_poll r j])
  | drop j => exact ⟨h.consistent.drop j, h.delivered⟩

theorem run (h : r.AtRest) (steps : List (Step κ)) : (r.run steps).AtRest := by
  induction steps generalizing r with
  | nil => exact h
  | cons a steps ih => exact ih (h.take a)

/-- Whether a publication is refused or not, nobody is pending afterwards. -/
theorem pending_of_drains (h : r.AtRest) {a : Step κ} (ha : a.drains) :
    (r.take a).2.pending = [] := by
  cases a with
  | publish c =>
    rcases r.take_publish_cases c with ⟨-, htake⟩ | ⟨hsome, htake⟩
    · rw [htake]
      rfl
    · rw [htake]
      exact h.delivered hsome
  | close => rfl
  | _ => cases ha

end AtRest

/-! ### Who is still held and who is still pending -/

theorem isHeld_of_map {f : Receiver κ → Receiver κ}
    (hmap : r'.receiver? i = (r.receiver? i).map f) (hf : ∀ x, (f x).held = x.held) :
    r'.isHeld i = r.isHeld i := by
  rw [isHeld, isHeld, hmap]
  cases r.receiver? i with
  | none => rfl
  | some x => exact hf x

/-- Whoever holds a receiver holds it until it is dropped. -/
theorem isHeld_take (a : Step κ) (hi : i < r.receivers.length) :
    (r.take a).2.isHeld i ↔ r.isHeld i ∧ a ≠ .drop i := by
  -- Any other step may change what the receiver was told, but not whether it is held.
  have same (hne : a ≠ .drop i) (h : (r.take a).2.isHeld i = r.isHeld i) :
      (r.take a).2.isHeld i ↔ r.isHeld i ∧ a ≠ .drop i := by
    rw [h]
    exact ⟨fun hheld => ⟨hheld, hne⟩, fun hheld => hheld.1⟩
  cases a with
  | subscribe =>
    refine same nofun ?_
    show r.subscribe.2.isHeld i = r.isHeld i
    rw [isHeld, receiver?_subscribe, if_neg (Nat.ne_of_lt hi), isHeld]
  | publish c =>
    refine same nofun ?_
    rcases r.take_publish_cases c with ⟨-, htake⟩ | ⟨-, htake⟩
    · rw [htake]
      refine isHeld_of_map (receiver?_deliver _ c i) fun x => ?_
      split <;> simp
    · rw [htake]
  | close =>
    refine same nofun (isHeld_of_map (receiver?_close r i) fun x => ?_)
    split <;> simp
  | look j =>
    refine same nofun (isHeld_of_map (receiver?_poll r j i) fun x => ?_)
    split <;> simp
  | drop j =>
    by_cases hji : j = i
    · subst hji
      have hx : (r.drop j).isHeld j = false := by
        rw [isHeld, receiver?_drop]
        cases r.receiver? j <;> simp
      simp [take, hx]
    · have hne : (.drop j : Step κ) ≠ .drop i := fun h => hji (Step.drop.inj h)
      refine same hne (isHeld_of_map (receiver?_drop r j i) fun x => ?_)
      rw [if_neg hji]

/-- Only subscribing hands out a receiver, and none is taken back. -/
theorem length_take (r : ChannelRegistry κ) (a : Step κ) :
    (r.take a).2.receivers.length =
      r.receivers.length + if a matches .subscribe then 1 else 0 := by
  cases a with
  | subscribe => exact length_subscribe r
  | publish c =>
    rcases r.take_publish_cases c with ⟨-, htake⟩ | ⟨-, htake⟩
    · rw [htake]
      exact length_of_map (receiver?_deliver { r with published := some c } c)
    · rw [htake]
      rfl
  | close => exact length_close r
  | look j => exact length_poll r j
  | drop j => exact length_drop r j

theorem length_le_take (r : ChannelRegistry κ) (a : Step κ) :
    r.receivers.length ≤ (r.take a).2.receivers.length := by
  rw [length_take]
  exact Nat.le_add_right _ _

/-- Who has just been handed a receiver holds it. -/
theorem isHeld_take_of_le {a : Step κ} (hi : r.receivers.length ≤ i)
    (hlt : i < (r.take a).2.receivers.length) : (r.take a).2.isHeld i := by
  rw [length_take] at hlt
  cases a with
  | subscribe =>
    have hnew : i = r.receivers.length := Nat.le_antisymm (Nat.lt_succ_iff.mp hlt) hi
    show r.subscribe.2.isHeld i
    rw [isHeld, receiver?_subscribe, if_pos hnew]
    rfl
  | _ => exact absurd hlt (Nat.not_lt.mpr hi)

/-- Until a publication or a closing, who is pending stays so. -/
theorem AtRest.mem_pending_take (h : r.AtRest) {a : Step κ} (hi : i < r.receivers.length) :
    i ∈ (r.take a).2.pending ↔ a.drains = false ∧ i ∈ r.pending := by
  by_cases hdrains : a.drains
  · rw [h.pending_of_drains hdrains, hdrains]
    simp
  · rw [Bool.not_eq_true] at hdrains
    suffices hsame : i ∈ (r.take a).2.pending ↔ i ∈ r.pending from
      hsame.trans ⟨fun hmem => ⟨hdrains, hmem⟩, fun hmem => hmem.2⟩
    cases a with
    | subscribe =>
      show i ∈ r.subscribe.2.pending ↔ i ∈ r.pending
      rw [pending_subscribe]
      split
      · rfl
      · simp [Nat.ne_of_lt hi]
    | look j =>
      show i ∈ (r.poll j).2.pending ↔ i ∈ r.pending
      rw [pending_poll]
    | drop j => rfl
    | publish c => cases hdrains
    | close => cases hdrains

/-! ### What a single step counts -/

/-- Only publishing and closing settle anybody. -/
theorem settled_take_of_not_drains {a : Step κ} (ha : a.drains = false) :
    settled r (r.take a).2 = [] := by
  refine settled_eq_nil fun i hi => ?_
  have hx : r.receiver? i = some ⟨.waiting, true⟩ := isAwaited_iff.mp hi
  cases a with
  | subscribe =>
    have hne : i ≠ r.receivers.length := by
      rintro rfl
      simp at hx
    exact ⟨true, by rw [take, receiver?_subscribe, if_neg hne, hx]⟩
  | look j =>
    refine ⟨true, ?_⟩
    rw [take, receiver?_poll, hx, Option.map_some]
    split <;> rfl
  | drop j =>
    rw [take, receiver?_drop, hx, Option.map_some]
    split
    · exact ⟨false, rfl⟩
    · exact ⟨true, rfl⟩
  | publish c => cases ha
  | close => cases ha

theorem settled_self (r : ChannelRegistry κ) : settled r r = [] :=
  settled_eq_nil fun _ hi => ⟨true, isAwaited_iff.mp hi⟩

theorem countedBy_of_not_drains {a : Step κ} (ha : a.drains = false) : r.countedBy a = [] := by
  unfold countedBy
  rw [settled_take_of_not_drains ha]
  cases a with
  | close => cases ha
  | _ => rfl

namespace AtRest

/-- A step answers with the number of the receivers that it counts. -/
theorem count_take (h : r.AtRest) (a : Step κ) : (r.take a).1 = (r.countedBy a).length := by
  cases a with
  | publish c =>
    rw [countedBy, List.append_nil]
    rcases r.take_publish_cases c with ⟨-, htake⟩ | ⟨-, htake⟩
    · rw [htake]
      exact h.consistent.count_publish c
    · rw [htake, settled_self]
      rfl
  | close =>
    rw [countedBy, List.length_append]
    exact h.consistent.count_close
  | _ =>
    rw [countedBy_of_not_drains rfl]
    rfl

theorem pending_of_countedBy (h : r.AtRest) {a : Step κ} (hi : i ∈ r.countedBy a) :
    i ∈ r.pending := by
  rcases List.mem_append.mp hi with hsettled | habandoned
  · exact (h.consistent.isAwaited_iff_pending.mp (mem_settled.mp hsettled).1).1
  · cases a with
    | close => exact (mem_abandoned.mp habandoned).1
    | _ => cases habandoned

theorem nodup_countedBy (h : r.AtRest) (a : Step κ) : (r.countedBy a).Nodup := by
  refine List.nodup_append.mpr ⟨nodup_settled _ _, ?_, ?_⟩
  · cases a with
    | close => exact h.consistent.nodup.filter _
    | _ => exact .nil
  · -- Who is settled is held, and who is counted in addition is not.
    rintro i hsettled j habandoned rfl
    have hheld := (h.consistent.isAwaited_iff_pending.mp (mem_settled.mp hsettled).1).2
    cases a with
    | close =>
      rw [(mem_abandoned.mp habandoned).2] at hheld
      cases hheld
    | _ => cases habandoned

/-! ### What a run counts -/

theorem total_eq (h : r.AtRest) (steps : List (Step κ)) :
    r.total steps = (r.counted steps).length := by
  induction steps generalizing r with
  | nil => rfl
  | cons a steps ih => rw [total, counted, List.length_append, h.count_take a, ih (h.take a)]

/-- Who is counted in a run is pending at its beginning or subscribes later. -/
theorem mem_counted (h : r.AtRest) {steps : List (Step κ)} (hi : i ∈ r.counted steps) :
    i ∈ r.pending ∨ r.receivers.length ≤ i := by
  induction steps generalizing r with
  | nil => cases hi
  | cons a steps ih =>
    rcases List.mem_append.mp hi with hnow | hlater
    · exact .inl (h.pending_of_countedBy hnow)
    · -- Numbers are given in order, so a receiver that exists already did not come later.
      rcases Nat.lt_or_ge i r.receivers.length with hlt | hge
      · rcases ih (h.take a) hlater with hpending | hnew
        · exact .inl ((h.mem_pending_take hlt).mp hpending).2
        · exact absurd hlt (Nat.not_lt.mpr ((length_le_take r a).trans hnew))
      · exact .inr hge

/-- Nobody is counted twice. -/
theorem nodup_counted (h : r.AtRest) (steps : List (Step κ)) : (r.counted steps).Nodup := by
  induction steps generalizing r with
  | nil => exact .nil
  | cons a steps ih =>
    refine List.nodup_append.mpr ⟨h.nodup_countedBy a, ih (h.take a), ?_⟩
    rintro i hnow j hlater rfl
    -- A step that counts anybody leaves nobody pending, so those counted later are new.
    have hdrains : a.drains := by
      by_contra hnot
      rw [countedBy_of_not_drains (Bool.eq_false_iff.mpr hnot)] at hnow
      cases hnow
    have hlt : i < r.receivers.length :=
      isSome_receiver?.mp (h.consistent.exist i (h.pending_of_countedBy hnow))
    rcases mem_counted (h.take a) hlater with hpending | hnew
    · rw [h.pending_of_drains hdrains] at hpending
      cases hpending
    · exact absurd hlt (Nat.not_lt.mpr ((length_le_take r a).trans hnew))

end AtRest

theorem isHeld_run_of_not (hi : i < r.receivers.length) (hnot : r.isHeld i = false)
    (steps : List (Step κ)) : (r.run steps).isHeld i = false := by
  induction steps generalizing r with
  | nil => exact hnot
  | cons a steps ih =>
    refine ih (hi.trans_le (length_le_take r a)) (Bool.eq_false_iff.mpr fun hheld => ?_)
    exact Bool.eq_false_iff.mp hnot ((isHeld_take a hi).mp hheld).1

/-- A receiver that has been dropped is never held again. -/
theorem isHeld_run_of_dropped {before : List (Step κ)}
    (hi : i < (r.run before).receivers.length) (later : List (Step κ)) :
    (r.run (before ++ .drop i :: later)).isHeld i = false := by
  have hsplit : r.run (before ++ .drop i :: later) =
      ((r.run before).take (.drop i)).2.run later := by
    rw [run, List.foldl_append]
    rfl
  have hdropped : ((r.run before).take (.drop i)).2.isHeld i = false := by
    rw [Bool.eq_false_iff]
    intro hheld
    exact ((isHeld_take (.drop i) hi).mp hheld).2 rfl
  rw [hsplit]
  exact isHeld_run_of_not (hi.trans_le (length_le_take _ _)) hdropped later

/-! ### Who is left behind -/

theorem leftBehind_concat {steps : List (Step κ)} {a : Step κ} :
    LeftBehind (steps ++ [a]) i ↔
      a.drains = false ∧ LeftBehind steps i ∨
        a = .drop i ∧ ((empty : ChannelRegistry κ).run steps).isAwaited i := by
  constructor
  · rintro ⟨before, later, heq, hawaited, hlater⟩
    -- Either the receiver is dropped by the last step, or the last step comes later.
    rcases List.eq_nil_or_concat later with rfl | ⟨later, b, rfl⟩
    · obtain ⟨rfl, hab⟩ := List.append_inj' heq rfl
      exact .inr ⟨(List.cons.inj hab).1, hawaited⟩
    · rw [List.concat_eq_append] at heq hlater
      rw [← List.cons_append, ← List.append_assoc] at heq
      obtain ⟨rfl, hab⟩ := List.append_inj' heq rfl
      obtain rfl : a = b := (List.cons.inj hab).1
      refine .inl ⟨hlater a (by simp), before, later, rfl, hawaited, fun d hd => ?_⟩
      exact hlater d (by simp [hd])
  · rintro (⟨hdrains, before, later, rfl, hawaited, hlater⟩ | ⟨rfl, hawaited⟩)
    · refine ⟨before, later ++ [a], by simp, hawaited, fun d hd => ?_⟩
      rcases List.mem_append.mp hd with hd | hd
      · exact hlater d hd
      · rwa [List.mem_singleton.mp hd]
    · exact ⟨steps, [], rfl, hawaited, nofun⟩

/-- Dropping a receiver abandons it if its holder waits, and only publishing and
closing take it off the list again. -/
theorem AtRest.mem_abandoned_take (h : r.AtRest) (a : Step κ) :
    i ∈ (r.take a).2.abandoned ↔
      a.drains = false ∧ i ∈ r.abandoned ∨ a = .drop i ∧ r.isAwaited i := by
  rw [mem_abandoned, mem_abandoned, h.consistent.isAwaited_iff_pending]
  by_cases hi : i < r.receivers.length
  · have hheld : (r.take a).2.isHeld i = false ↔ ¬(r.isHeld i ∧ a ≠ .drop i) := by
      rw [← isHeld_take a hi, Bool.not_eq_true]
    rw [h.mem_pending_take hi, hheld]
    by_cases ha : a = .drop i
    · subst ha
      cases r.isHeld i <;> simp [Step.drains]
    · simp [ha, and_assoc]
  · -- A receiver that is new is held, and one that is newer is not there yet.
    have hnot : i ∉ r.pending := fun hmem => hi (isSome_receiver?.mp (h.consistent.exist i hmem))
    have hnew (hmem : i ∈ (r.take a).2.pending) : (r.take a).2.isHeld i :=
      isHeld_take_of_le (Nat.not_lt.mp hi)
        (isSome_receiver?.mp ((h.take a).consistent.exist i hmem))
    constructor
    · rintro ⟨hpending, hdropped⟩
      rw [hnew hpending] at hdropped
      cases hdropped
    · rintro (⟨-, hpending, -⟩ | ⟨-, hpending, -⟩) <;> exact absurd hpending hnot

/-- Those are left behind who are pending although they have been dropped. -/
theorem mem_abandoned_run (steps : List (Step κ)) :
    i ∈ ((empty : ChannelRegistry κ).run steps).abandoned ↔ LeftBehind steps i := by
  induction steps using List.reverseRecOn with
  | nil =>
    constructor
    · intro hi
      cases hi
    · rintro ⟨before, later, heq, -⟩
      cases (List.append_eq_nil_iff.mp heq.symm).2
  | append_singleton steps a ih =>
    rw [run_concat, (atRest_empty.run steps).mem_abandoned_take a, ih, leftBehind_concat]

/-! ### The main result -/

/-- In every run of a registry, publishing is refused exactly if a channel is
published already, and then it changes nothing.  Otherwise it counts those whom
it settles, each of whom held a receiver and waited and is sent the channel.
Closing counts those whom it settles, and besides those who were left behind.
Whoever has dropped a receiver is not settled any more, and nobody is counted
twice. -/
theorem counts_subscribers (steps : List (Step κ)) :
    let r := (empty : ChannelRegistry κ).run steps
    (r.published = none → ∀ c, ∃ r', r.publish c = .ok ((settled r r').length, r') ∧
      ∀ i ∈ settled r r', r'.receiver? i = some ⟨.sent c, true⟩) ∧
    (r.published.isSome → ∀ c, (∃ e, r.publish c = .error e) ∧
      r.take (.publish c) = (0, r)) ∧
    (r.close.1 = (settled r r.close.2).length + r.abandoned.length ∧
      ∀ i ∈ settled r r.close.2, r.close.2.receiver? i = some ⟨.closed, true⟩) ∧
    (r.abandoned.Nodup ∧ ∀ i, i ∈ r.abandoned ↔ LeftBehind steps i) ∧
    (∀ before later i, steps = before ++ .drop i :: later →
      i < ((empty : ChannelRegistry κ).run before).receivers.length → ∀ r', i ∉ settled r r') ∧
    ((empty : ChannelRegistry κ).counted steps).Nodup ∧
    (empty : ChannelRegistry κ).total steps =
      ((empty : ChannelRegistry κ).counted steps).length := by
  intro r
  have h : r.AtRest := atRest_empty.run steps
  refine ⟨?_, ?_, ⟨h.consistent.count_close, ?_⟩, ⟨h.consistent.nodup.filter _, ?_⟩, ?_,
    atRest_empty.nodup_counted steps, atRest_empty.total_eq steps⟩
  · intro hnone c
    let r' := ({ r with published := some c } : ChannelRegistry κ).deliver c
    refine ⟨r'.2, ?_, fun i hi => h.consistent.sent_of_awaited c (mem_settled.mp hi).1⟩
    rw [publish_of_none hnone c, ← h.consistent.count_publish c]
  · intro hsome c
    exact ⟨⟨_, publish_of_isSome hsome c⟩, take_publish_of_isSome hsome c⟩
  · intro i hi
    exact h.consistent.closed_of_awaited (mem_settled.mp hi).1
  · intro i
    exact mem_abandoned_run steps
  · rintro before later i rfl hlt r' hi
    have hheld : r.isHeld i := (h.consistent.isAwaited_iff_pending.mp (mem_settled.mp hi).1).2
    rw [show r.isHeld i = false from isHeld_run_of_dropped hlt later] at hheld
    cases hheld

/-- A receiver that was dropped is counted when the registry is closed, although
nobody is there to be released. -/
theorem not_close_counts_settled :
    ¬∀ steps : List (Step Channel),
      let r := (empty : ChannelRegistry Channel).run steps
      r.close.1 = (settled r r.close.2).length := by
  intro h
  have hcount : 1 = 0 := h [.subscribe, .drop 0]
  exact Nat.one_ne_zero hcount

end ExecutionLink.ChannelRegistry
