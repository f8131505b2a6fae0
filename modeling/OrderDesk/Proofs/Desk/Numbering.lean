import Mathlib.Data.List.Nodup
import OrderDesk.Proofs.ClientId.Generated
import OrderDesk.Proofs.Desk.Frame

/-!
# Ids that a desk generates

A desk generates an id when a submission of a complete order begins without one, and at no other
time.  It counts them, and each is made of the count, so that the ids generated in a run are those
of consecutive numbers, whatever else happens in between.  Until the count has gone round they are
all different, and desks at venues of different names never share one.
-/

namespace OrderDesk

/-- Whether the event is the beginning of a submission. -/
def DeskEvent.isSubmission : DeskEvent → Bool
  | .begin _ (.submit _ _) => true
  | _ => false

namespace Desk

variable {d d' : Desk} {e : DeskEvent} {t : Ticket} {id : ClientId} {order : Order}

/-- The id that the desk generates in an event. -/
def generated? (d : Desk) : DeskEvent → Option ClientId
  | .begin ticket (.submit order none) =>
    if d.task? ticket = none ∧ d.shared.call? ticket = none ∧ order.isComplete = true then
      some (d.resolveId none).2
    else none
  | _ => none

/-- The ids that the desk generates in a sequence of events, in order. -/
def generatedIds (d : Desk) : List DeskEvent → List ClientId
  | [] => []
  | e :: events => (d.generated? e).toList ++ (d.step e).1.generatedIds events

/-! ### The number of ids generated -/

theorem Keeps.sequence_eq (h : d.Keeps d') :
  d'.sequence = d.sequence
  := by
  obtain ⟨shared, audit, tasks, rfl⟩ := h
  rfl

theorem generated?_begin (fresh : d.task? t = none) (unasked : d.shared.call? t = none)
    (complete : order.isComplete = true) :
  d.generated? (.begin t (.submit order none)) = some (.generated d.venue.name (d.sequence + 1))
  := if_pos ⟨fresh, unasked, complete⟩

theorem generated?_eq_some (h : d.generated? e = some id) :
  id = .generated d.venue.name (d.sequence + 1)
    ∧ ∃ t order, e = .begin t (.submit order none) ∧ d.task? t = none
      ∧ d.shared.call? t = none ∧ order.isComplete = true
  := by
  unfold generated? at h
  split at h
  next t order =>
    rw [Option.ite_none_right_eq_some] at h
    obtain ⟨⟨fresh, unasked, complete⟩, hid⟩ := h
    exact ⟨(Option.some.inj hid).symm, t, order, rfl, fresh, unasked, complete⟩
  next => cases h

theorem isSubmission_of_generated (h : d.generated? e = some id) :
  e.isSubmission = true
  := by
  obtain ⟨-, t, order, rfl, -⟩ := generated?_eq_some h
  rfl

theorem sequence_submit (d : Desk) (t : Ticket) (clientId : Option ClientId)
    (complete : order.isComplete = true) :
  (d.submit t order clientId).1.sequence = (d.resolveId clientId).1.sequence
  := by
  rw [submit, if_pos complete, resolveId_eq]
  dsimp only
  split
  · rfl
  · exact (keeps_followCall _ _ _ _).sequence_eq

/-- A desk counts the ids that it generates. -/
theorem sequence_step_of_generated (h : d.generated? e = some id) :
  (d.step e).1.sequence = d.sequence + 1
  := by
  obtain ⟨-, t, order, rfl, fresh, unasked, complete⟩ := generated?_eq_some h
  rw [step, begin, fresh, unasked]
  exact d.sequence_submit t none complete

/-- It counts nothing else. -/
theorem sequence_step_of_none (h : d.generated? e = none) :
  (d.step e).1.sequence = d.sequence
  := by
  have supplied {t : Ticket} {order : Order} {clientId : Option ClientId}
      (fresh : d.task? t = none) (unasked : d.shared.call? t = none)
      (complete : order.isComplete = true)
      (heq : d.generated? (.begin t (.submit order clientId)) = none) :
      (d.resolveId clientId).1.sequence = d.sequence := by
    cases clientId with
    | some id => rfl
    | none =>
      rw [generated?_begin fresh unasked complete] at heq
      cases heq
  have m := d.step_move e
  generalize d.step e = p at m
  cases m with
  | reject fresh unasked rejects =>
    cases rejects with
    | incomplete => rfl
    | unbuilt complete => exact supplied fresh unasked complete h
    | unknown => rfl
    | untargeted => rfl
  | submit fresh unasked complete =>
    rw [(keeps_followCall _ _ _ _).sequence_eq]
    exact supplied fresh unasked complete h
  | @retry t task _ limiter shown next htask retries =>
    obtain ⟨stage, hstage⟩ := retries.exists_stage
    exact (keeps_follow { d with limiter } t hstage next).sequence_eq
  | accept => exact (settleSubmitted_ends _ _ _ _ _).keeps.sequence_eq
  | wake => exact (keeps_followCall _ _ _ _).sequence_eq
  | _ => rfl

/-- A desk generates an id only when a submission begins, and one at a time. -/
theorem sequence_step (d : Desk) (e : DeskEvent) :
  (d.step e).1.sequence = d.sequence
    ∨ e.isSubmission = true ∧ (d.step e).1.sequence = d.sequence + 1
  := by
  rcases h : d.generated? e with _ | id
  · exact .inl (sequence_step_of_none h)
  · exact .inr ⟨isSubmission_of_generated h, sequence_step_of_generated h⟩

/-! ### The ids of a run -/

/-- The ids generated in a run are those of consecutive numbers. -/
theorem exists_generatedIds_eq (d : Desk) (events : List DeskEvent) :
  ∃ n, n ≤ events.countP DeskEvent.isSubmission
    ∧ d.generatedIds events = (List.range n).map fun i =>
        .generated d.venue.name (d.sequence + UInt64.ofNat (i + 1))
  := by
  induction events generalizing d with
  | nil => exact ⟨0, Nat.le_refl 0, rfl⟩
  | cons e events ih =>
    obtain ⟨n, hle, hids⟩ := ih (d.step e).1
    rw [generatedIds, hids, venue_step]
    rcases h : d.generated? e with _ | id
    · refine ⟨n, Nat.le_trans hle (List.sublist_cons_self e events).countP_le, ?_⟩
      rw [sequence_step_of_none h]
      rfl
    · refine ⟨n + 1, ?_, ?_⟩
      · rw [List.countP_cons_of_pos (isSubmission_of_generated h)]
        exact Nat.succ_le_succ hle
      · obtain ⟨hid, -⟩ := generated?_eq_some h
        have hnext (i : Nat) : d.sequence + 1 + UInt64.ofNat (i + 1)
            = d.sequence + UInt64.ofNat (i + 1 + 1) := by
          rw [UInt64.ofNat_add (i + 1) 1, UInt64.add_comm (UInt64.ofNat (i + 1)), UInt64.add_assoc]
          rfl
        rw [sequence_step_of_generated h, List.range_succ_eq_map, List.map_cons, List.map_map, hid]
        simp only [hnext]
        rfl

/-- Generated ids tell the venue and the number, whatever the venue's name contains.  So in every
run of events with fewer submissions than there are numbers the ids that a desk generates are all
different; and no two desks at venues of different names ever generate the same id. -/
theorem generated_ids_are_distinct (venue venue' : VenueProfile) (retry retry' : RetryConfig)
    (limiter limiter' : RateLimiter) (token token' : Option Bool)
    (events events' : List DeskEvent) :
  let ids := (opened venue retry limiter token).generatedIds events
  let ids' := (opened venue' retry' limiter' token').generatedIds events'
  (∀ (v w : String) (m n : UInt64),
    ClientId.generated v m = ClientId.generated w n ↔ v = w ∧ m = n)
  ∧ (events.countP DeskEvent.isSubmission < UInt64.size → ids.Nodup)
  ∧ (venue.name ≠ venue'.name → ids.Disjoint ids')
  := by
  intro ids ids'
  obtain ⟨n, hle, (hids : ids = _)⟩ :=
    (opened venue retry limiter token).exists_generatedIds_eq events
  obtain ⟨n', -, (hids' : ids' = _)⟩ :=
    (opened venue' retry' limiter' token').exists_generatedIds_eq events'
  refine ⟨fun v w m n => ClientId.generated_eq_iff, ?_, ?_⟩
  · intro few
    rw [hids]
    apply List.nodup_range.map_on
    intro i hi j hj heq
    -- no number comes twice before the count has gone round
    rw [ClientId.generated_inj, UInt64.add_right_inj, ← UInt64.toNat_inj] at heq
    rw [List.mem_range] at hi hj
    rw [UInt64.toNat_ofNat_of_lt' (by omega), UInt64.toNat_ofNat_of_lt' (by omega)] at heq
    exact Nat.succ.inj heq
  · intro hne id hmem hmem'
    rw [hids, List.mem_map] at hmem
    rw [hids', List.mem_map] at hmem'
    obtain ⟨i, -, hid⟩ := hmem
    obtain ⟨i', -, hid'⟩ := hmem'
    rw [← hid', ClientId.generated_eq_iff] at hid
    exact hne hid.1

end Desk

end OrderDesk
