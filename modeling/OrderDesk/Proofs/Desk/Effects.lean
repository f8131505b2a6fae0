import OrderDesk.Proofs.Desk.Frame
import OrderDesk.Proofs.Desk.Tasks

/-!
# What a desk shows

A desk shows what each of its steps shows, one after the other.  A step that ends an operation or
begins a pause shows just that; permits and calls to the venue are shown only when a task makes
an attempt.
-/

namespace OrderDesk

/-- Whether an effect is neither the answer of the rate limiter nor a call to the venue. -/
def DeskEffect.isQuiet : DeskEffect → Bool
  | .paused _ _ => true
  | .finished _ _ => true
  | _ => false

namespace Desk

variable {d : Desk} {t : Ticket}

/-- What a sequence of events shows. -/
def shown (d : Desk) (events : List DeskEvent) : List DeskEffect := (d.steps events).2

theorem shown_nil (d : Desk) :
  d.shown [] = []
  := rfl

/-- What is shown first comes from the first event. -/
theorem shown_cons (d : Desk) (e : DeskEvent) (events : List DeskEvent) :
  d.shown (e :: events) = (d.step e).2 ++ (d.step e).1.shown events
  := by
  have leads (d : Desk) (before : List DeskEffect) :
      (events.foldl (fun p e => let q := p.1.step e; (q.1, p.2 ++ q.2)) (d, before)).2
        = before ++ d.shown events := by
    induction events generalizing d before with
    | nil => exact (List.append_nil before).symm
    | cons e events ih =>
      rw [shown, steps, List.foldl_cons, List.foldl_cons, ih, ih, List.append_assoc]
      rfl
  apply leads

/-- What is shown last comes from the last event. -/
theorem shown_concat (d : Desk) (events : List DeskEvent) (e : DeskEvent) :
  d.shown (events ++ [e]) = d.shown events ++ ((d.after events).step e).2
  := by
  rw [shown, steps, List.foldl_append]
  rfl

/-- What a run shows is shown in one of its events. -/
theorem exists_step_of_shown {x : DeskEffect} {events : List DeskEvent}
    (h : x ∈ d.shown events) :
  ∃ before e later, events = before ++ e :: later ∧ x ∈ ((d.after before).step e).2
  := by
  induction events generalizing d with
  | nil => cases h
  | cons e events ih =>
    rw [shown_cons, List.mem_append] at h
    obtain h | h := h
    · exact ⟨[], e, events, rfl, h⟩
    · obtain ⟨before, e', later, rfl, hshown⟩ := ih h
      refine ⟨e :: before, e', later, rfl, ?_⟩
      rw [after_cons]
      exact hshown

/-! ### Steps without a permit -/

/-- Nothing is shown but pauses and results. -/
def Quiet (effects : List DeskEffect) : Prop := ∀ x ∈ effects, x.isQuiet = true

theorem quiet_nil :
  Quiet []
  := nofun

theorem quiet_singleton {x : DeskEffect} (h : x.isQuiet = true) :
  Quiet [x]
  := by
  intro y hy
  rw [List.mem_singleton.1 hy]
  exact h

theorem Ends.quiet {p : Desk × List DeskEffect} (h : d.Ends t p) :
  Quiet p.2
  := by
  obtain ⟨audit, result, rfl⟩ := h
  exact quiet_singleton rfl

theorem quiet_followCall (d : Desk) (t : Ticket) (id : ClientId) (request : Payload) :
  Quiet (d.followCall t id request).2
  := by
  rw [followCall]
  split
  · exact quiet_nil
  · exact quiet_nil
  next outcome hcall => exact (d.returnSubmitted_ends t id request outcome).quiet
  · exact quiet_nil

theorem quiet_follow (d : Desk) (t : Ticket) {task : Task} {stage : RetryStage}
    (hstage : task.stage? = some stage) (next : RetryStep Empty) :
  Quiet (d.follow t task next).2
  := by
  cases next with
  | finish result =>
    cases result with
    | ok a => exact a.elim
    | error failure =>
      obtain ⟨id, request, rfl, hends⟩ | ⟨-, hends⟩ | ⟨-, heq⟩ := d.giveUp_cases t hstage failure
      · exact hends.quiet
      · exact hends.quiet
      · rw [follow, heq]
        exact quiet_nil
  | crash => exact quiet_nil
  | goOn stage' =>
    cases stage' with
    | ready => exact quiet_nil
    | running => exact quiet_nil
    | pausing => exact quiet_singleton rfl

end Desk

end OrderDesk
