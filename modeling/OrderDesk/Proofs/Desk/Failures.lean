import OrderDesk.Proofs.Desk.Attempts
import OrderDesk.Proofs.Desk.Endings
import OrderDesk.Proofs.Venue.Requests
import OrderDesk.Proofs.Venue.Responses

/-!
# Failing for want of a permit

An operation fails for want of a permit only in the step in which its last attempt is refused one,
unless it has waited for another operation, or the venue itself gives such a failure.  The known
venues do not: what they say of a failed call, of an order or of a cancel is always something else.
-/

namespace OrderDesk

/-- The venue itself gives the failure: as its judgement on a failed call, or because it can make
no request of an order or name no target for a cancel. -/
inductive VenueProfile.Raises (venue : VenueProfile) : Failure → Prop where
  | judged (failure : TransportFailure) : Raises venue (venue.judge failure)
  | unbuilt {id : ClientId} {order : Order} {failure : Failure}
      (request : venue.buildRequest id order = .error failure) : Raises venue failure
  | untargeted {id : ClientId} {response : Payload} {failure : Failure}
      (target : venue.cancelTarget id response = .error failure) : Raises venue failure

/-- The failure says that the limiter has refused a permit. -/
def Failure.isLimit : Failure → Bool
  | .retryable (.rateLimitExceeded _) => true
  | _ => false

/-- None of the known venues says that a permit was refused: only the limiter does. -/
theorem Venue.isLimit_of_raises {venue : Venue} {failure : Failure}
    (h : venue.profile.Raises failure) :
  failure.isLimit = false
  := by
  cases h with
  | judged raw =>
    change (venue.judge raw).isLimit = false
    rw [judge.eq_def]
    split
    · rfl
    · rfl
    · rfl
    · rfl
    · split
      · rfl
      · rfl
    · split
      · rfl
      · rfl
  | @unbuilt id order failure request =>
    change venue.buildRequest id order = .error failure at request
    obtain ⟨-, rfl⟩ := buildRequest_eq_error_iff.1 request
    rfl
  | untargeted target =>
    obtain ⟨-, -, rfl⟩ := cancelTarget_eq_error.1 target
    rfl

/-- A call that the cache answers with a failure is answered with a conflict. -/
theorem Cache.failure_of_answered {c : Cache} {t : Ticket} {id : ClientId}
    {fingerprint : Fingerprint} {failure : Failure}
    (h : (c.enter t id fingerprint).2 = .answered (.error failure)) :
  failure = .fatal (.orderConflict id)
  := by
  rw [Cache.enter] at h
  split at h
  · split at h
    · cases h
    · cases h
      rfl
  · split at h
    · cases h
    · cases h
      rfl
  · cases h

namespace Desk

variable {d : Desk} {e : DeskEvent} {t u : Ticket} {task : Task} {stage : RetryStage} {n : Nat}

/-! ### Refusals -/

/-- A permit is refused to a task with an attempt ahead. -/
theorem ready_of_refused {clock : Nat} (h : .refused t clock ∈ (d.step e).2) :
  ∃ task n, d.task? t = some task ∧ task.stage? = some (.ready n)
    ∧ (d.limiter.acquire d.clock).2 = false
  := by
  have noisy {effects : List DeskEffect} (quiet : Quiet effects) : .refused t clock ∉ effects := by
    intro hmem
    cases quiet _ hmem
  have m := d.step_move e
  generalize d.step e = p at m h
  cases m with
  | rest => cases h
  | reject => exact absurd h (noisy (finish_ends _ _ _).quiet)
  | submit => exact absurd h (noisy (quiet_followCall _ _ _ _))
  | cancelOrder => cases h
  | reconcile => cases h
  | call => simp at h
  | @retry u task _ limiter shown next htask retries =>
    obtain ⟨stage, hstage⟩ := retries.exists_stage
    obtain hshown | hfollow := List.mem_append.1 h
    · cases retries with
      | @refused n _ word hready running permit =>
        obtain ⟨rfl, -⟩ : t = u ∧ clock = d.clock := by simpa using hshown
        exact ⟨task, n, htask, hready, by rw [permit]⟩
      | _ => cases hshown
    · exact absurd hfollow (noisy (quiet_follow _ u hstage next))
  | accept => exact absurd h (noisy (settleSubmitted_ends _ _ _ _ _).quiet)
  | acknowledge => exact absurd h (noisy (acknowledge_ends _ _ _ _ _).quiet)
  | list => cases h
  | compare => exact absurd h (noisy (report_ends _ _ _).quiet)
  | wake => exact absurd h (noisy (quiet_followCall _ _ _ _))
  | abort => cases h
  | cancel => cases h
  | advance => cases h
  | update => cases h

/-! ### Operations that end without a permit -/

/-- An operation that fails for want of a permit is refused one at its last attempt, unless the
venue itself gives that failure, or the operation has waited for another one. -/
theorem of_limited {failure : Failure} (h : .finished t (.error failure) ∈ (d.step e).2)
    (hlimit : failure.isLimit = true) :
  d.venue.Raises failure
  ∨ (∃ id request, d.task? t = some (.waiting id request))
  ∨ ∃ clock task n, .refused t clock ∈ (d.step e).2 ∧ d.task? t = some task
      ∧ task.stage? = some (.ready n) ∧ d.retry.attempts ≤ n + 1
  := by
  have yields := yields_of_finished h
  generalize hresult : Except.error failure = result at yields
  cases yields with
  | rejected rejects =>
    cases hresult
    cases rejects with
    | incomplete => cases hlimit
    | unbuilt complete request => exact .inl (.unbuilt request)
    | unknown => cases hlimit
    | untargeted cached target => exact .inl (.untargeted target)
  | answered complete built answer =>
    rw [submitted_eq_error.1 hresult.symm] at answer
    rw [Cache.failure_of_answered answer] at hlimit
    cases hlimit
  | woken htask => exact .inr (.inl ⟨_, _, htask⟩)
  | accepted => cases submitted_eq_error.1 hresult.symm
  | acknowledged => cases hresult
  | compared => cases hresult
  | @failed task _ limiter shown _ htask retries hstep =>
    cases hresult
    generalize hnext : RetryStep.finish (Except.error failure) = next at retries
    cases retries with
    | stopped =>
      cases hnext
      cases hlimit
    | @refused n _ word hready =>
      cases RetryStage.aftermath hnext.symm with
      | withdrawn => cases hlimit
      | fails last =>
        refine .inr (.inr ⟨d.clock, task, n, ?_, htask, hready, last rfl⟩)
        rw [hstep]
        exact List.mem_cons_self
    | failed raw =>
      cases RetryStage.aftermath hnext.symm with
      | withdrawn => cases hlimit
      | fails => exact .inl (.judged raw)
    | rested => cases hnext
    | interrupted =>
      cases hnext
      cases hlimit

end Desk

end OrderDesk
