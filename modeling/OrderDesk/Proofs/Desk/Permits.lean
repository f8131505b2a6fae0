import OrderDesk.Proofs.Desk.Effects
import OrderDesk.Proofs.RateLimit.History

/-!
# The venue is called within the rate limit

The limiter of a desk is asked once for every attempt and for nothing else, and a permit goes with
the call to the venue in one step.  The calls are then made at the readings at which the limiter
admits one, of which no period contains more than the limit allows.
-/

namespace OrderDesk

namespace DeskEffect

/-- The effect is an answer of the rate limiter to the task under the ticket. -/
def answers (t : Ticket) : DeskEffect → Bool
  | .admitted u _ => u = t
  | .refused u _ => u = t
  | _ => false

/-- The effect is a call to the venue. -/
def isCall : DeskEffect → Bool
  | .called _ _ => true
  | _ => false

/-- What the limiter was asked if the effect is its answer. -/
def asked? : DeskEffect → Option LimiterCall
  | .admitted _ clock => some (.acquire clock)
  | .refused _ clock => some (.acquire clock)
  | _ => none

end DeskEffect

namespace Desk

variable {d : Desk} {e : DeskEvent} {t u : Ticket} {effects : List DeskEffect}
  {limiter : RateLimiter}

/-! ### Permits and calls -/

/-- What an event does with the limiter: the limiter after it, and what the event shows. -/
inductive Deals (d : Desk) : DeskEvent → RateLimiter → List DeskEffect → Prop where
  /-- A task gets a permit and calls the venue at once. -/
  | called {t : Ticket} {limiter : RateLimiter} (word : UInt64) (call : VenueCall)
      (granted : d.limiter.acquire d.clock = (limiter, true)) :
      Deals d (.resume t word) limiter [.admitted t d.clock, .called t call]
  /-- A task gets no permit and does not call the venue. -/
  | refused {t : Ticket} {limiter : RateLimiter} {effects : List DeskEffect} (word : UInt64)
      (denied : d.limiter.acquire d.clock = (limiter, false)) (quiet : Quiet effects) :
      Deals d (.resume t word) limiter (.refused t d.clock :: effects)
  /-- The limiter is not asked, and the venue is not called. -/
  | idle (e : DeskEvent) {effects : List DeskEffect} (quiet : Quiet effects) :
      Deals d e d.limiter effects

theorem Keeps.limiter_eq {d' : Desk} (h : d.Keeps d') :
  d'.limiter = d.limiter
  := by
  obtain ⟨shared, audit, tasks, rfl⟩ := h
  rfl

/-- Every event deals with the limiter in one of these ways. -/
theorem deals_step (d : Desk) (e : DeskEvent) :
  d.Deals e (d.step e).1.limiter (d.step e).2
  := by
  have m := d.step_move e
  generalize d.step e = p at m
  cases m with
  | rest => exact .idle _ quiet_nil
  | reject => exact .idle _ (finish_ends _ _ _).quiet
  | submit =>
    rw [(keeps_followCall _ _ _ _).limiter_eq]
    exact .idle _ (quiet_followCall _ _ _ _)
  | cancelOrder => exact .idle _ quiet_nil
  | reconcile => exact .idle _ quiet_nil
  | @call t task n call limiter word htask stage made running permit =>
    exact .called word call permit
  | @retry t task _ limiter shown next htask retries =>
    obtain ⟨stage, hstage⟩ := retries.exists_stage
    have quiet := quiet_follow { d with limiter } t hstage next
    rw [(keeps_follow _ _ hstage _).limiter_eq]
    cases retries with
    | stopped word => exact .idle _ quiet
    | refused word stage running permit => exact .refused word permit quiet
    | failed => exact .idle _ quiet
    | rested => exact .idle _ quiet
    | interrupted => exact .idle _ quiet
  | accept => exact .idle _ (settleSubmitted_ends _ _ _ _ _).quiet
  | acknowledge => exact .idle _ (acknowledge_ends _ _ _ _ _).quiet
  | list => exact .idle _ quiet_nil
  | compare => exact .idle _ (report_ends _ _ _).quiet
  | wake =>
    rw [(keeps_followCall _ _ _ _).limiter_eq]
    exact .idle _ (quiet_followCall _ _ _ _)
  | abort => exact .idle _ quiet_nil
  | cancel => exact .idle _ quiet_nil
  | advance => exact .idle _ quiet_nil
  | update => exact .idle _ quiet_nil

/-! ### The calls that the limiter answers -/

/-- What the limiter was asked for the effects to be shown. -/
def asked (effects : List DeskEffect) : List LimiterCall := effects.filterMap DeskEffect.asked?

/-- The readings of the clock at which the venue is called. -/
def callReadings (d : Desk) : List DeskEvent → List Nat
  | [] => []
  | e :: events =>
    List.replicate ((d.step e).2.countP DeskEffect.isCall) d.clock
      ++ (d.step e).1.callReadings events

theorem asked_of_quiet (h : Quiet effects) :
  asked effects = []
  := by
  rw [asked, List.filterMap_eq_nil_iff]
  intro x hx
  have hquiet := h x hx
  cases x with
  | admitted => cases hquiet
  | refused => cases hquiet
  | called => rfl
  | paused => rfl
  | finished => rfl

/-- A refusal is one answer of the limiter. -/
theorem asked_refused (h : Quiet effects) (t : Ticket) (clock : Nat) :
  asked (.refused t clock :: effects) = [.acquire clock]
  := congrArg (LimiterCall.acquire clock :: ·) (asked_of_quiet h)

theorem countP_of_quiet {p : DeskEffect → Bool} (hp : ∀ x, x.isQuiet = true → p x = false)
    (h : Quiet effects) :
  effects.countP p = 0
  := by
  rw [List.countP_eq_zero]
  intro x hx
  rw [hp x (h x hx)]
  apply Bool.false_ne_true

theorem isCall_of_isQuiet {x : DeskEffect} (h : x.isQuiet = true) :
  x.isCall = false
  := by
  cases x with
  | called => cases h
  | _ => rfl

theorem answers_of_isQuiet (t : Ticket) {x : DeskEffect} (h : x.isQuiet = true) :
  x.answers t = false
  := by
  cases x with
  | admitted => cases h
  | refused => cases h
  | _ => rfl

/-- An event leaves the limiter as the answers that it shows. -/
theorem Deals.limiter_eq (h : d.Deals e limiter effects) :
  limiter = d.limiter.after (asked effects)
  := by
  cases h with
  | called word call granted =>
    change limiter = (d.limiter.acquire d.clock).1
    rw [granted]
  | refused word denied quiet =>
    rw [asked_refused quiet]
    change limiter = (d.limiter.acquire d.clock).1
    rw [denied]
  | idle e quiet =>
    rw [asked_of_quiet quiet]
    rfl

/-- The venue is called as often as a permit is granted. -/
theorem Deals.admissions_eq (h : d.Deals e limiter effects) :
  d.limiter.admissions (asked effects)
    = List.replicate (effects.countP DeskEffect.isCall) d.clock
  := by
  cases h with
  | called word call granted =>
    change ((LimiterCall.acquire d.clock).admission?
      (.granted (d.limiter.acquire d.clock).2)).toList ++ [] = [d.clock]
    rw [granted]
    rfl
  | refused word denied quiet =>
    rw [asked_refused quiet, List.countP_cons_of_neg Bool.false_ne_true,
      countP_of_quiet (fun _ => isCall_of_isQuiet) quiet]
    change ((LimiterCall.acquire d.clock).admission?
      (.granted (d.limiter.acquire d.clock).2)).toList ++ [] = []
    rw [denied]
    rfl
  | idle e quiet =>
    rw [asked_of_quiet quiet, countP_of_quiet (fun _ => isCall_of_isQuiet) quiet]
    rfl

/-- In an event the limiter is asked once at most, at the reading of the clock. -/
theorem Deals.asked_cases (h : d.Deals e limiter effects) :
  asked effects = [] ∨ asked effects = [.acquire d.clock]
  := by
  cases h with
  | called word call granted => exact .inr rfl
  | refused word denied quiet => exact .inr (asked_refused quiet _ _)
  | idle e quiet => exact .inl (asked_of_quiet quiet)

theorem Deals.reading_eq (h : d.Deals e limiter effects) {call : LimiterCall}
    (hcall : call ∈ asked effects) :
  call.reading = d.clock
  := by
  obtain hasked | hasked := h.asked_cases
  · rw [hasked] at hcall
    cases hcall
  · rw [hasked] at hcall
    rw [List.mem_singleton.1 hcall]
    rfl

/-! ### Runs -/

theorem asked_append (effects effects' : List DeskEffect) :
  asked (effects ++ effects') = asked effects ++ asked effects'
  := List.filterMap_append

/-- The limiter is what the answers shown make of it. -/
theorem limiter_after (d : Desk) (events : List DeskEvent) :
  (d.after events).limiter = d.limiter.after (asked (d.shown events))
  := by
  induction events generalizing d with
  | nil => rfl
  | cons e events ih =>
    rw [after_cons, shown_cons, ih, asked_append, RateLimiter.after_append,
      (d.deals_step e).limiter_eq]

theorem limit_step (d : Desk) (e : DeskEvent) :
  (d.step e).1.limiter.limit = d.limiter.limit
  := by
  rw [(d.deals_step e).limiter_eq, RateLimiter.limit_after]

theorem limit_after (d : Desk) (events : List DeskEvent) :
  (d.after events).limiter.limit = d.limiter.limit
  := by
  rw [limiter_after, RateLimiter.limit_after]

/-- The venue is called at the readings at which the limiter admits a call. -/
theorem callReadings_eq (d : Desk) (events : List DeskEvent) :
  d.callReadings events = d.limiter.admissions (asked (d.shown events))
  := by
  induction events generalizing d with
  | nil => rfl
  | cons e events ih =>
    rw [callReadings, shown_cons, ih, asked_append, RateLimiter.admissions_append,
      (d.deals_step e).limiter_eq, (d.deals_step e).admissions_eq]

theorem Keeps.clock_eq {d' : Desk} (h : d.Keeps d') :
  d'.clock = d.clock
  := by
  obtain ⟨shared, audit, tasks, rfl⟩ := h
  rfl

/-- The clock never goes back. -/
theorem clock_step_le (d : Desk) (e : DeskEvent) :
  d.clock ≤ (d.step e).1.clock
  := by
  have kept {d₁ d₂ : Desk} (keeps : d₁.Keeps d₂) (same : d₁.clock = d.clock) :
      d.clock ≤ d₂.clock := Nat.le_of_eq (keeps.clock_eq.trans same).symm
  have m := d.step_move e
  generalize d.step e = p at m
  cases m with
  | submit => exact kept (keeps_followCall _ _ _ _) rfl
  | retry htask retries =>
    obtain ⟨stage, hstage⟩ := retries.exists_stage
    exact kept (keeps_follow _ _ hstage _) rfl
  | accept => exact kept (settleSubmitted_ends _ _ _ _ _).keeps rfl
  | wake => exact kept (keeps_followCall _ _ _ _) rfl
  | advance nanoseconds => apply Nat.le_add_right
  | _ => apply Nat.le_refl

/-- The limiter is asked at readings of the clock from now on. -/
theorem clock_le_reading (d : Desk) (events : List DeskEvent) :
  ∀ call ∈ asked (d.shown events), d.clock ≤ call.reading
  := by
  induction events generalizing d with
  | nil => exact nofun
  | cons e events ih =>
    intro call hcall
    rw [shown_cons, asked_append, List.mem_append] at hcall
    obtain hcall | hcall := hcall
    · apply Nat.le_of_eq ((d.deals_step e).reading_eq hcall).symm
    · apply Nat.le_trans (d.clock_step_le e)
      apply ih _ call hcall

theorem chronological_asked (d : Desk) (events : List DeskEvent) :
  LimiterCall.Chronological (asked (d.shown events))
  := by
  induction events generalizing d with
  | nil => exact List.Pairwise.nil
  | cons e events ih =>
    rw [shown_cons, asked_append]
    obtain hasked | hasked := (d.deals_step e).asked_cases
    · rw [hasked]
      apply ih
    · rw [hasked]
      apply List.pairwise_cons.2 ⟨?_, ih _⟩
      intro s hs
      obtain ⟨call, hcall, rfl⟩ := List.mem_map.1 hs
      apply Nat.le_trans (d.clock_step_le e)
      apply clock_le_reading _ _ call hcall

/-- No period contains more calls to the venue than the limit allows. -/
theorem bounded_callReadings (fresh : d.limiter.admitted = []) (events : List DeskEvent) :
  RateLimiter.Bounded d.limiter.limit (d.callReadings events)
  := by
  have none : RateLimiter.Bounded d.limiter.limit [] := fun _ => Nat.zero_le _
  rw [callReadings_eq]
  apply none.after (.fresh fresh) (d.chronological_asked events)
  intro call hcall
  apply Nat.zero_le

end Desk

end OrderDesk
