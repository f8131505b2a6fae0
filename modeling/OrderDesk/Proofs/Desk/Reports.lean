import OrderDesk.Proofs.Desk.Endings
import OrderDesk.Proofs.Desk.Precedence
import OrderDesk.Proofs.Desk.Separation
import OrderDesk.Proofs.Reconciliation.Difference

/-!
# What reconciliations report

A reconciliation asks the venue for its open orders first and looks at the cache after the answer,
in a step of its own.  An id is therefore missed at the venue only if it is resolved by then: it was
so when the venue answered, or an order under it has been accepted between the answer and the look
at the cache.  Since resolved ids are permanent, one that was resolved at any time before is never
taken for an order that the desk does not know.
-/

namespace OrderDesk

namespace Desk

variable {d : Desk} {e : DeskEvent} {t u : Ticket} {id : ClientId} {request : Payload}
  {orders : List Payload} {r : Reconciliation} {events : List DeskEvent}

/-! ### Comparisons -/

theorem text_mem_keys :
  id.text ∈ d.cache.keys.map ClientId.text ↔ d.IsResolved id
  := by
  rw [List.mem_map]
  constructor
  · rintro ⟨other, hmem, heq⟩
    obtain rfl := ClientId.text_inj.1 heq
    apply Cache.mem_keys.1 hmem
  · intro resolved
    exact ⟨id, Cache.mem_keys.2 resolved, rfl⟩

/-- An id is missing at the venue if it is resolved and no listed order has it for a token. -/
theorem mem_missingRemote_comparison :
  id.text ∈ (d.comparison orders).missingRemote
    ↔ d.IsResolved id ∧ ∀ order ∈ orders, d.venue.token? order ≠ some id.text
  := by
  rw [comparison, Reconciliation.mem_missingRemote_diff, text_mem_keys, List.mem_filterMap]
  simp only [not_exists, not_and, ne_eq]

/-- An id is untracked if a listed order has it for a token and it is not resolved. -/
theorem mem_untrackedRemote_comparison :
  id.text ∈ (d.comparison orders).untrackedRemote
    ↔ (∃ order ∈ orders, d.venue.token? order = some id.text) ∧ ¬d.IsResolved id
  := by
  rw [comparison, Reconciliation.mem_untrackedRemote_diff, text_mem_keys, List.mem_filterMap]

/-! ### Reports -/

/-- A reconciliation that has its listing compares what the desk remembers then with it. -/
theorem step_compare (htask : d.task? t = some (.comparing orders)) :
  (d.step (.compare t)).2 = [.finished t (.ok (.report (d.comparison orders)))]
  := by
  rw [step, htask]
  rfl

/-- Reports are returned in comparisons only. -/
theorem comparison_of_report (h : .finished t (.ok (.report r)) ∈ (d.step e).2) :
  e = .compare t ∧ ∃ orders, d.task? t = some (.comparing orders) ∧ r = d.comparison orders
  := by
  have yields := yields_of_finished h
  generalize hresult : Except.ok (Answer.report r) = result at yields
  cases yields with
  | rejected => cases hresult
  | answered => exact absurd hresult.symm submitted_ne_report
  | woken => exact absurd hresult.symm submitted_ne_report
  | accepted => exact absurd hresult.symm submitted_ne_report
  | acknowledged => cases hresult
  | compared htask =>
    cases hresult
    exact ⟨rfl, _, htask, rfl⟩
  | failed => cases hresult

/-! ### Listings -/

/-- A reconciliation that has its listing has been listed it while it called the venue, or goes on
with an empty one. -/
theorem listed_step (h : (d.step e).1.task? t = some (.comparing orders)) :
  d.task? t = some (.comparing orders)
  ∨ orders = []
  ∨ e = .listed t orders ∧ ∃ n, d.task? t = some (.reconciling (.running n))
  := by
  obtain same | ⟨task, htask, turn⟩ := d.turns_step e t
  · exact .inl (same.symm.trans h)
  · obtain rfl : Task.comparing orders = task := Option.some.inj (h.symm.trans htask)
    generalize heq : Task.comparing orders = task at turn
    cases turn with
    | compares e hbefore listed =>
      cases heq
      obtain empty | ⟨rfl, n, rfl⟩ := listed
      · exact .inr (.inl empty)
      · exact .inr (.inr ⟨rfl, n, hbefore⟩)
    | calls word hbefore hstage =>
      rw [Task.eq_atStage hstage heq] at hstage
      cases hstage
    | goesOn e hbefore hstage =>
      rw [Task.eq_atStage hstage heq] at hstage
      cases hstage
    | _ => cases heq

/-- In the run the venue lists the orders to the reconciliation under the ticket, whose call is
under way. -/
def ListedIn (d : Desk) (t : Ticket) (orders : List Payload) (events : List DeskEvent) : Prop :=
  ∃ earlier later n, events = earlier ++ .listed t orders :: later
    ∧ (d.after earlier).task? t = some (.reconciling (.running n))

theorem ListedIn.cons (h : (d.step e).1.ListedIn t orders events) :
  d.ListedIn t orders (e :: events)
  := by
  obtain ⟨earlier, later, n, rfl, htask⟩ := h
  refine ⟨e :: earlier, later, n, rfl, ?_⟩
  rw [after_cons]
  exact htask

theorem listed_after (h : (d.after events).task? t = some (.comparing orders)) :
  d.task? t = some (.comparing orders) ∨ orders = [] ∨ d.ListedIn t orders events
  := by
  induction events generalizing d with
  | nil => exact .inl h
  | cons e events ih =>
    rw [after_cons] at h
    obtain htask | empty | listed := ih h
    · obtain htask | empty | ⟨rfl, n, htask⟩ := listed_step htask
      · exact .inl htask
      · exact .inr (.inl empty)
      · exact .inr (.inr ⟨[], events, n, rfl, htask⟩)
    · exact .inr (.inl empty)
    · exact .inr (.inr listed.cons)

/-! ### Orders that are missing -/

/-- Only orders that are resolved by the comparison are missing.  Let the venue answer a
reconciliation in any state that a desk can come to, and let anything happen from then on but that
the reconciliation goes on or is dropped.  When it goes on it reports, and misses exactly the ids
that are resolved by then and that no listed order has for a token.  So it misses no id that a
submission still calls the venue for, and every id that it misses was resolved when the venue
answered, unless the venue has accepted an order under it, or a response has been put under it from
outside, between the answer and the comparison.  As long as no response is put in place from
outside, the ids that are resolved when the venue answers are those that it has accepted an order
under before. -/
theorem missing_orders_are_resolved_by_the_comparison (venue : VenueProfile)
    (retry : RetryConfig) (limiter : RateLimiter) (token : Option Bool)
    (before between : List DeskEvent) :
  let start := opened venue retry limiter token
  let d := start.after before
  ∀ t n orders, d.task? t = some (.reconciling (.running n)) →
    .abort t ∉ between → .compare t ∉ between →
      let answered := (d.step (.listed t orders)).1
      let now := answered.after between
      ∃ r, (now.step (.compare t)).2 = [.finished t (.ok (.report r))]
        ∧ (∀ id, id.text ∈ r.missingRemote
          ↔ now.IsResolved id ∧ ∀ order ∈ orders, venue.token? order ≠ some id.text)
        ∧ (∀ u id request stage, now.task? u = some (.submitting id request stage) →
          id.text ∉ r.missingRemote)
        ∧ (∀ id, id.text ∈ r.missingRemote →
          d.IsResolved id
          ∨ (∃ u request response, .accepted u id request response ∈ answered.grants between)
          ∨ ∃ response, .update id response ∈ between)
        ∧ ((∀ id response, .update id response ∉ before) → ∀ id,
          d.IsResolved id
            ↔ ∃ u request response, .accepted u id request response ∈ start.grants before)
  := by
  intro start d t n orders htask kept uncompared answered now
  have hd : d.Coupled := (coupled_opened venue retry limiter token).after before
  have hanswered : answered.Coupled := hd.step _
  have cancels : answered.CancelsResolved := by
    apply CancelsResolved.step _ hd
    apply CancelsResolved.after _ (coupled_opened venue retry limiter token)
    intro u id target stage hcancelling
    cases hcancelling
  have hstep : answered = d.setTask t (.comparing orders) := by
    dsimp only [answered]
    rw [step, htask]
  have hvenue : now.venue = venue := by
    rw [venue_after, venue_step, venue_after]
    rfl
  have comparing : now.task? t = some (.comparing orders) := by
    apply comparing_after _ kept uncompared
    rw [hstep, task?_setTask, if_pos rfl]
  have resolved {id : ClientId} (missing : id.text ∈ (now.comparison orders).missingRemote) :
      now.IsResolved id := (mem_missingRemote_comparison.1 missing).1
  refine ⟨now.comparison orders, step_compare comparing, ?_, ?_, ?_, ?_⟩
  · intro id
    rw [mem_missingRemote_comparison, hvenue]
  · intro u id request stage hsubmitting missing
    exact (resolved missing).not_submitting (hanswered.after between) hsubmitting
  · intro id missing
    obtain before | arrived := (resolved missing).of_after hanswered cancels
    · rw [hstep] at before
      exact .inl before
    · exact .inr arrived
  · intro operations id
    have recorded : d.Recorded (start.grants before) :=
      (recorded_opened venue retry limiter token).after operations
    rw [← recorded.isSome_get?_iff, Cache.get?, Option.isSome_map, Option.isSome_iff_exists]
    simp only [cache, Cache.entry?_eq_some]
    rfl

/-- While Alpaca is asked for its orders one order is accepted, and another one is sent and not
answered before the comparison: on an empty listing the first one is missing, as it was resolved
when the venue answered, and the other one is not. -/
theorem order_under_way_is_not_missing :
  let order : Order := .market "EUR" .buy ⟨false, 1, 0, by decide, by decide⟩
  let before : List DeskEvent := [
    .begin "b" .reconcile, .resume "b" 0,
    .begin "d" (.submit order (some ⟨"z"⟩)), .resume "d" 0, .accepted "d" .empty]
  let between : List DeskEvent := [.begin "c" (.submit order (some ⟨"y"⟩)), .resume "c" 0]
  let start := opened Venue.alpaca (.immediate 1) ⟨.perSecond 9, by decide, []⟩ none
  let d := start.after before
  let now := (d.step (.listed "b" [])).1.after between
  ∃ r, (now.step (.compare "b")).2 = [.finished "b" (.ok (.report r))]
    ∧ "y" ∉ r.missingRemote ∧ "z" ∈ r.missingRemote ∧ d.IsResolved ⟨"z"⟩
    ∧ ∃ u request response, .accepted u ⟨"z"⟩ request response ∈ start.grants before
  := by
  intro order before between start d now
  let request := (Venue.alpaca.buildRequest ⟨"y"⟩ order).toOption.getD .empty
  have reconciling : d.task? "b" = some (.reconciling (.running 0)) := by
    decide +kernel
  have underWay : now.task? "c" = some (.submitting ⟨"y"⟩ request (.running 0)) := by
    decide +kernel
  have resolved : d.IsResolved ⟨"z"⟩ := by
    apply Cache.mem_keys.1
    decide +kernel
  have resolved' : now.IsResolved ⟨"z"⟩ := by
    apply Cache.mem_keys.1
    decide +kernel
  have operations : ∀ id response, .update id response ∉ before := by
    intro id response
    simp [before]
  obtain ⟨r, reported, hmissing, hunderWay, -, haccepted⟩ :=
    missing_orders_are_resolved_by_the_comparison Venue.alpaca (.immediate 1)
      ⟨.perSecond 9, by decide, []⟩ none before between "b" 0 [] reconciling (by simp [between])
      (by simp [between])
  refine ⟨r, reported, ?_, ?_, resolved, ?_⟩
  · apply hunderWay "c" ⟨"y"⟩ request _ underWay
  · apply (hmissing ⟨"z"⟩).2
    exact ⟨resolved', nofun⟩
  · apply (haccepted operations ⟨"z"⟩).1 resolved

/-- Alpaca is sent an order and then asked for its orders.  It lists none and then accepts the
order, and only then does the reconciliation go on: the order is missing, though it was not resolved
when the venue answered with its listing. -/
theorem order_accepted_after_the_listing_is_missing :
  let order : Order := .market "EUR" .buy ⟨false, 1, 0, by decide, by decide⟩
  let before : List DeskEvent := [
    .begin "a" (.submit order (some ⟨"x"⟩)), .resume "a" 0,
    .begin "b" .reconcile, .resume "b" 0]
  let d := (opened Venue.alpaca (.immediate 1) ⟨.perSecond 9, by decide, []⟩ none).after before
  let answered := (d.step (.listed "b" [])).1
  let now := (answered.step (.accepted "a" .empty)).1
  d.task? "b" = some (.reconciling (.running 0))
  ∧ ¬d.IsResolved ⟨"x"⟩ ∧ ¬answered.IsResolved ⟨"x"⟩
  ∧ ∃ r, (now.step (.compare "b")).2 = [.finished "b" (.ok (.report r))]
    ∧ "x" ∈ r.missingRemote
  := by
  intro order before d answered now
  refine ⟨by decide +kernel, ?_, ?_, ⟨["x"], []⟩, by decide +kernel, List.mem_cons_self⟩
  · rw [IsResolved, ← Cache.mem_keys]
    decide +kernel
  · rw [IsResolved, ← Cache.mem_keys]
    decide +kernel

/-! ### Orders that are untracked -/

/-- A known order is never reported as untracked.  Once an id has been resolved at a desk, whatever
happens there from then on, no report that is returned has it among the untracked ids.  The report
compares what the venue has listed to the reconciliation at some time of the run, or the empty
listing after a failure; if one of these orders has the id for a token, in whatever order and
however often they are listed, the report has the id among the missing ones neither. -/
theorem known_orders_are_never_untracked (venue : VenueProfile) (retry : RetryConfig)
    (limiter : RateLimiter) (token : Option Bool) (before later : List DeskEvent) (id : ClientId) :
  let start := opened venue retry limiter token
  let d := start.after before
  let now := d.after later
  d.IsResolved id → ∀ e t r, .finished t (.ok (.report r)) ∈ (now.step e).2 →
    id.text ∉ r.untrackedRemote
    ∧ e = .compare t ∧ ∃ orders, now.task? t = some (.comparing orders)
      ∧ (orders = [] ∨ start.ListedIn t orders (before ++ later))
      ∧ ((∃ order ∈ orders, venue.token? order = some id.text) → id.text ∉ r.missingRemote)
  := by
  intro start d now resolved e t r reported
  have hd : d.Coupled := (coupled_opened venue retry limiter token).after before
  have hvenue : now.venue = venue := by
    rw [venue_after, venue_after]
    rfl
  have known : now.IsResolved id := resolved.after hd later
  obtain ⟨rfl, orders, comparing, rfl⟩ := comparison_of_report reported
  refine ⟨?_, rfl, orders, comparing, ?_, ?_⟩
  · intro untracked
    exact (mem_untrackedRemote_comparison.1 untracked).2 known
  · dsimp only [now, d] at comparing
    rw [← after_append] at comparing
    obtain unopened | listed := listed_after comparing
    · cases unopened
    · exact listed
  · rintro ⟨order, hmem, htoken⟩ missing
    rw [← hvenue] at htoken
    exact (mem_missingRemote_comparison.1 missing).2 order hmem htoken

/-- An order is accepted at Alpaca; while it is cancelled and another submission is dropped, the
venue lists it twice, along with an order of someone else: only that one is untracked. -/
theorem cancelled_order_is_not_untracked :
  let order : Order := .market "EUR" .buy ⟨false, 1, 0, by decide, by decide⟩
  let listed (id : String) := Payload.empty.insert "client_order_id" (.str id)
  let orders := [listed "x", listed "q", listed "x"]
  let before : List DeskEvent := [
    .begin "a" (.submit order (some ⟨"x"⟩)), .resume "a" 0, .accepted "a" .empty]
  let later : List DeskEvent := [
    .begin "b" .reconcile, .resume "b" 0, .begin "c" (.cancel ⟨"x"⟩), .resume "c" 0,
    .begin "d" (.submit order (some ⟨"y"⟩)), .resume "d" 0, .listed "b" orders, .abort "d",
    .acknowledged "c" none]
  let d := (opened Venue.alpaca (.immediate 1) ⟨.perSecond 9, by decide, []⟩ none).after before
  d.IsResolved ⟨"x"⟩
  ∧ ∃ r, .finished "b" (.ok (.report r)) ∈ ((d.after later).step (.compare "b")).2
    ∧ "x" ∉ r.untrackedRemote ∧ "x" ∉ r.missingRemote ∧ "q" ∈ r.untrackedRemote
  := by
  intro order listed orders before later d
  let r : Reconciliation := ⟨[], ["q"]⟩
  have resolved : d.IsResolved ⟨"x"⟩ := by
    apply Cache.mem_keys.1
    decide +kernel
  have reported : .finished "b" (.ok (.report r)) ∈ ((d.after later).step (.compare "b")).2 := by
    decide +kernel
  have comparing : (d.after later).task? "b" = some (.comparing orders) := by decide +kernel
  obtain ⟨untracked, -, orders', comparing', -, missing⟩ :=
    known_orders_are_never_untracked Venue.alpaca (.immediate 1)
      ⟨.perSecond 9, by decide, []⟩ none before later ⟨"x"⟩ resolved (.compare "b") "b" r reported
  cases comparing.symm.trans comparing'
  have token : ∃ order ∈ orders, Venue.alpaca.token? order = some "x" :=
    ⟨listed "x", List.mem_cons_self, by decide +kernel⟩
  exact ⟨resolved, r, reported, untracked, missing token, List.mem_singleton_self _⟩

end Desk

end OrderDesk
