import OrderDesk.Proofs.Desk.Listings
import OrderDesk.Proofs.Desk.Reports
import OrderDesk.Proofs.Retry.Termination

/-!
# How reconciliations end

A reconciliation whose retries are cancelled fails.  If they end otherwise it has orders to compare
with the cache, those that were listed or, after any other failure, none, and reports as soon as it
goes on.  All that it changes is the audit log, by the one report that it returns.
-/

namespace OrderDesk

/-- Whether a task is what can become of a reconciliation. -/
def Task.isListing : Task → Bool
  | .reconciling _ => true
  | .comparing _ => true
  | .finished _ => true
  | .dropped => true
  | _ => false

namespace Desk

variable {d : Desk} {e : DeskEvent} {t : Ticket} {task : Task} {p : Desk × List DeskEffect}
  {events : List DeskEvent}

/-! ### What reconciliations change -/

/-- The cache stays as it is, and the audit log changes only by the report that is returned under
the ticket. -/
structure ReadsOnly (d : Desk) (t : Ticket) (p : Desk × List DeskEffect) : Prop where
  shared : p.1.shared = d.shared
  audited {report : Reconciliation} (reported : .finished t (.ok (.report report)) ∈ p.2) :
    p.1.audit = d.audit.append .reconcile .empty report.toValue
  unaudited (silent : ∀ report, .finished t (.ok (.report report)) ∉ p.2) :
    p.1.audit = d.audit

theorem readsOnly_of_silent (shared : p.1.shared = d.shared) (audit : p.1.audit = d.audit)
    (silent : ∀ report, .finished t (.ok (.report report)) ∉ p.2) :
  d.ReadsOnly t p
  where
  shared
  audited reported := absurd reported (silent _)
  unaudited _ := audit

theorem readsOnly_report (d : Desk) (t : Ticket) (orders : List Payload) :
  d.ReadsOnly t (d.report t orders)
  where
  shared := rfl
  audited reported := by
    cases List.mem_singleton.1 reported
    rfl
  unaudited silent := absurd (List.mem_singleton_self _) (silent (d.comparison orders))

/-- Dropping an operation that has no call on the cache leaves the cache as it is. -/
theorem readsOnly_drop (unasked : d.shared.abort t = d.shared) (limiter : RateLimiter) :
  d.ReadsOnly t ({ d with limiter }.drop t)
  := readsOnly_of_silent unasked rfl fun _ => List.not_mem_nil

theorem readsOnly_follow (unasked : d.shared.abort t = d.shared) (limiter : RateLimiter)
    (stage : RetryStage) (next : RetryStep Empty) :
  d.ReadsOnly t ({ d with limiter }.follow t (.reconciling stage) next)
  := by
  cases next with
  | finish result =>
    cases result with
    | ok a => exact a.elim
    | error failure =>
      rw [follow, giveUp]
      split
      · apply readsOnly_of_silent
        · rfl
        · rfl
        · simp [finish]
      · exact readsOnly_of_silent rfl rfl fun _ => List.not_mem_nil
  | crash => exact readsOnly_drop unasked limiter
  | goOn stage' =>
    cases stage' with
    | ready => exact readsOnly_of_silent rfl rfl fun _ => List.not_mem_nil
    | running => exact readsOnly_of_silent rfl rfl fun _ => List.not_mem_nil
    | pausing => exact readsOnly_of_silent rfl rfl (by simp [follow])

/-- What is shown besides results makes no difference. -/
theorem ReadsOnly.prepend (h : d.ReadsOnly t p) {shown : List DeskEffect}
    (silent : ∀ u result, .finished u result ∉ shown) :
  d.ReadsOnly t (p.1, shown ++ p.2)
  where
  shared := h.shared
  audited reported := h.audited ((List.mem_append.1 reported).resolve_left (silent _ _))
  unaudited quiet := h.unaudited fun r hmem => quiet r (List.mem_append_right shown hmem)

/-- Nothing is left of a call on the cache that an operation could drop, unless the operation is a
submission. -/
theorem Fits.abort_eq {s : SharedCache} (h : Fits (some task) (s.call? t))
    (listing : task.isListing = true) :
  s.abort t = s ∨ ∃ result, task = .finished result
  := by
  rw [SharedCache.abort]
  generalize s.call? t = call at h
  cases h with
  | waiting => cases listing
  | submitting => cases listing
  | cancelling => cases listing
  | reconciling => exact .inl rfl
  | comparing => exact .inl rfl
  | finished result => exact .inr ⟨result, rfl⟩
  | returned result => exact .inr ⟨result, rfl⟩
  | dropped => exact .inl rfl
  | left => exact .inl rfl

/-- Whatever happens about a reconciliation once it has begun, it reads only. -/
theorem readsOnly_step (hd : d.Coupled) (htask : d.task? t = some task)
    (listing : task.isListing = true) (about : e.ticket? = some t) :
  d.ReadsOnly t (d.step e)
  := by
  -- the task is none that an operation of another kind would have
  have other {u : Ticket} {task' : Task} (htask' : d.task? u = some task')
      (unlike : task'.isListing = false) (hu : u = t) : False := by
    subst hu
    cases htask.symm.trans htask'
    cases unlike.symm.trans listing
  have fresh {u : Ticket} (unused : d.task? u = none) (hu : u = t) : False := by
    subst hu
    cases unused.symm.trans htask
  have unasked (unfinished : ∀ result, task ≠ .finished result) :
      d.shared.abort t = d.shared := by
    have hfits : Fits (some task) (d.shared.call? t) := htask ▸ hd.fits t
    obtain same | ⟨result, rfl⟩ := hfits.abort_eq listing
    · exact same
    · exact absurd rfl (unfinished result)
  have m := d.step_move e
  generalize d.step e = p at m
  cases m with
  | rest => exact readsOnly_of_silent rfl rfl fun _ => List.not_mem_nil
  | reject unused => cases about; exact (fresh unused rfl).elim
  | submit unused => cases about; exact (fresh unused rfl).elim
  | cancelOrder unused => cases about; exact (fresh unused rfl).elim
  | reconcile unused => cases about; exact (fresh unused rfl).elim
  | call => exact readsOnly_of_silent rfl rfl (by simp)
  | @retry u task' _ limiter shown next htask' retries =>
    obtain rfl : u = t := Option.some.inj (retries.ownEffects.2.symm.trans about)
    cases htask.symm.trans htask'
    obtain ⟨stage, hstage⟩ := retries.exists_stage
    cases task with
    | reconciling =>
      apply ReadsOnly.prepend _ retries.not_finished
      apply readsOnly_follow (unasked nofun)
    | comparing => cases hstage
    | finished => cases hstage
    | dropped => cases hstage
    | _ => cases listing
  | accept response htask' => exact (other htask' rfl (Option.some.inj about)).elim
  | acknowledge raw htask' => exact (other htask' rfl (Option.some.inj about)).elim
  | list => exact readsOnly_of_silent rfl rfl fun _ => List.not_mem_nil
  | compare htask' =>
    cases about
    apply readsOnly_report
  | wake htask' => exact (other htask' rfl (Option.some.inj about)).elim
  | @abort u task' htask' unfinished =>
    cases about
    cases htask.symm.trans htask'
    exact readsOnly_drop (unasked unfinished) d.limiter
  | cancel => cases about
  | advance => cases about
  | update => cases about

/-- A reconciliation goes on, returns or is dropped. -/
theorem isListing_step (htask : d.task? t = some task) (listing : task.isListing = true)
    (e : DeskEvent) :
  ∃ task', (d.step e).1.task? t = some task' ∧ task'.isListing = true
  := by
  have atStage {task' : Task} {stage : RetryStage} (htask' : d.task? t = some task')
      (hstage : task'.stage? = some stage) (next : RetryStage) :
      (task'.atStage next).isListing = true := by
    cases htask.symm.trans htask'
    cases task with
    | reconciling => rfl
    | comparing => cases hstage
    | finished => cases hstage
    | dropped => cases hstage
    | _ => cases listing
  have asked {id : ClientId} {request : Payload}
      (asking : d.task? t = none ∨ d.task? t = some (.waiting id request)) : False := by
    rw [htask] at asking
    obtain unused | waiting := asking
    · cases unused
    · cases waiting
      cases listing
  obtain same | ⟨task', htask', turn⟩ := d.turns_step e t
  · exact ⟨task, same.trans htask, listing⟩
  · refine ⟨task', htask', ?_⟩
    cases turn with
    | ends => rfl
    | leaves => rfl
    | crashes => rfl
    | compares => rfl
    | waits e asking => exact (asked asking).elim
    | resolves e asking => exact (asked asking).elim
    | cancels fresh => cases fresh.symm.trans htask
    | reconciles => rfl
    | calls word hbefore hstage => exact atStage hbefore hstage _
    | goesOn e hbefore hstage => exact atStage hbefore hstage _

theorem isListing_after (htask : d.task? t = some task) (listing : task.isListing = true)
    (events : List DeskEvent) :
  ∃ task', (d.after events).task? t = some task' ∧ task'.isListing = true
  := by
  refine after_induction
    (motive := fun d => ∃ task', d.task? t = some task' ∧ task'.isListing = true) ?_
    ⟨task, htask, listing⟩
  rintro e - d ⟨task', htask', listing'⟩
  apply isListing_step htask' listing'

/-! ### What reconciliations return -/

/-- The text is the token of an order that was listed as the retries ended. -/
def Listed (venue : VenueProfile) (outcome : Except Failure (List Payload)) (s : String) : Prop :=
  ∃ orders, outcome = .ok orders ∧ ∃ order ∈ orders, venue.token? order = some s

/-- The comparison that a desk makes is that of the resolved ids with the listed tokens. -/
theorem compares_comparison (d : Desk) (orders : List Payload) :
  (d.comparison orders).Compares (fun s => d.IsResolved ⟨s⟩) (Listed d.venue (.ok orders))
  := by
  have h := Reconciliation.compares_diff (d.cache.keys.map ClientId.text)
    (orders.filterMap d.venue.token?)
  have known (s : String) : s ∈ d.cache.keys.map ClientId.text ↔ d.IsResolved ⟨s⟩ :=
    (text_mem_keys : (ClientId.mk s).text ∈ _ ↔ _)
  have listed (s : String) :
      s ∈ orders.filterMap d.venue.token? ↔ Listed d.venue (.ok orders) s := by
    rw [List.mem_filterMap, Listed]
    simp
  simp only [known, listed] at h
  exact h

theorem compares_listing (d : Desk) (outcome : Except Failure (List Payload)) :
  (d.comparison (listing outcome)).Compares (fun s => d.IsResolved ⟨s⟩) (Listed d.venue outcome)
  := by
  cases outcome with
  | ok orders => exact compares_comparison d orders
  | error failure =>
    have none : Listed d.venue (.error failure) = Listed d.venue (.ok []) := by
      funext s
      simp [Listed]
    rw [none]
    exact compares_comparison d []

/-- A reconciliation that has orders to compare and is not dropped compares them when it goes on. -/
theorem exists_compare {orders : List Payload} (htask : d.task? t = some (.comparing orders))
    (kept : .abort t ∉ events) (resumed : .compare t ∈ events) :
  ∃ earlier later, events = earlier ++ .compare t :: later
    ∧ (d.after earlier).task? t = some (.comparing orders)
  := by
  obtain ⟨earlier, later, rfl, uncompared⟩ := List.eq_append_cons_of_mem resumed
  refine ⟨earlier, later, rfl, ?_⟩
  apply comparing_after htask _ uncompared
  intro hmem
  exact kept (List.mem_append_left _ hmem)

/-! ### Runs -/

theorem step_reconcile (hd : d.Coupled) (fresh : d.task? t = none) :
  d.step (.begin t .reconcile) = (d.setTask t (.reconciling .start), [])
  := by
  rw [step, begin, fresh, hd.call_of_fresh fresh]

/-- The retries of a reconciliation begin as its desk is set up. -/
theorem tracks_start {venue : VenueProfile} {retry : RetryConfig} {limiter : RateLimiter}
    (token : Option Bool) (before : List DeskEvent) (t : Ticket) :
  let d := (opened venue retry limiter token).after before
  (d.step (.begin t .reconcile)).1.Tracks (.start retry token.isSome d.isCancelled)
  := by
  intro d
  have hne : DeskEvent.begin t .reconcile ≠ .cancel := nofun
  have hlistens : d.token.isSome = token.isSome := isSome_token_after _ before
  constructor
  · rw [retry_step, retry_after]
    rfl
  · rw [isSome_token_step, hlistens]
    rfl
  · rw [isCancelled, isCancelled, (d.framed_step hne).token, ← hlistens]
    change (d.token.isSome && d.token == some true) = _
    cases d.token with
    | none => rfl
    | some cancelled => rfl

/-- What happens about a reconciliation, from its beginning on, reads only. -/
theorem readsOnly_of_run (hd : d.Coupled) (fresh : d.task? t = none)
    {earlier later : List DeskEvent}
    (hrun : .begin t .reconcile :: events = earlier ++ e :: later) (about : e.ticket? = some t) :
  (d.after earlier).ReadsOnly t ((d.after earlier).step e)
  := by
  cases earlier with
  | nil =>
    cases hrun
    change d.ReadsOnly t (d.step _)
    rw [step_reconcile hd fresh]
    exact readsOnly_of_silent rfl rfl fun _ => List.not_mem_nil
  | cons e' earlier =>
    cases hrun
    have hbegun : (d.step (.begin t .reconcile)).1.task? t = some (.reconciling .start) := by
      rw [step_reconcile hd fresh, task?_setTask, if_pos rfl]
    obtain ⟨task, htask, listing⟩ := isListing_after hbegun rfl earlier
    rw [after_cons]
    exact readsOnly_step ((hd.step _).after earlier) htask listing about

/-- Reconciling always comes to a result, and reads only.  Let a reconciliation begin in any state
that a desk can come to, and let anything happen from then on.  What happens about it leaves the
cache as it is and adds nothing to the audit log but the report that it returns.  Unless it is
dropped, its retries are a retried operation with the permits, failures and listings that it meets,
and end once these are enough for all its attempts; with a configuration that has no fault they do
not crash.  Until they end it goes on.  If they crash the reconciliation is gone with them, and if
they were cancelled it returns that in the event in which they end.  Otherwise, as soon as it goes
on after that, it returns, once and for all, the comparison in ascending order of the ids that are
resolved then with the tokens of the orders that the successful attempt has listed, and with none if
the last attempt has failed in whatever way. -/
theorem reconciling_is_total_and_reads_only (venue : VenueProfile) (retry : RetryConfig)
    (limiter : RateLimiter) (token : Option Bool) (before events : List DeskEvent) (t : Ticket)
    (fresh : ((opened venue retry limiter token).after before).task? t = none) :
  let d := (opened venue retry limiter token).after before
  let run := .begin t .reconcile :: events
  let met := (d.step (.begin t .reconcile)).1.retried t events
  let start := RetryRun.start retry token.isSome d.isCancelled
  (∀ earlier e later, run = earlier ++ e :: later → e.ticket? = some t →
    (d.after earlier).ReadsOnly t ((d.after earlier).step e))
  ∧ (.abort t ∉ events →
    (3 * retry.attempts ≤ start.met met + 1 →
      (∃ outcome, (start.steps met).status = .done outcome) ∨ (start.steps met).status = .crashed)
    ∧ (retry.fault? = none → (start.steps met).status ≠ .crashed)
    ∧ (∀ stage, (start.steps met).status = .active stage →
      (d.after run).task? t = some (.reconciling stage))
    ∧ ((start.steps met).status = .crashed → (d.after run).task? t = some .dropped)
    ∧ ((start.steps met).status = .done (.error .cancelled) →
      ∃ earlier e later, run = earlier ++ e :: later
        ∧ d.ReturnsOnce t (.error .cancelled) earlier e later
        ∧ ((d.after earlier).step e).1.audit = (d.after earlier).audit)
    ∧ ∀ outcome, outcome ≠ .error .cancelled → (start.steps met).status = .done outcome →
      ∃ earlier later report, run ++ [.compare t] = earlier ++ .compare t :: later
        ∧ d.ReturnsOnce t (.ok (.report report)) earlier (.compare t) later
        ∧ report.Compares (fun s => (d.after earlier).IsResolved ⟨s⟩) (Listed venue outcome)
        ∧ ((d.after earlier).step (.compare t)).1.audit
          = (d.after earlier).audit.append .reconcile .empty report.toValue)
  := by
  intro d run met start
  have hd : d.Coupled := (coupled_opened venue retry limiter token).after before
  have hstep := step_reconcile hd fresh
  refine ⟨fun earlier e later hrun about => readsOnly_of_run hd fresh hrun about, ?_⟩
  intro kept
  have hbegun : (d.step (.begin t .reconcile)).1.task? t = some (.reconciling .start) := by
    rw [hstep, task?_setTask, if_pos rfl]
  have tracks : (d.step (.begin t .reconcile)).1.Tracks start := tracks_start token before _
  obtain ⟨goesOn, ends⟩ := stands_after hbegun tracks rfl kept
  have ended {status : RetryStatus (List Payload)} (h : (start.steps met).status = status)
      (inactive : ∀ stage, status ≠ .active stage) :
      ∃ earlier e later, events = earlier ++ e :: later
        ∧ Stands t ((d.after (.begin t .reconcile :: earlier)).step e) status := by
    subst h
    obtain ⟨earlier, e, later, heq, stands⟩ := ends inactive
    refine ⟨earlier, e, later, heq, ?_⟩
    rw [after_cons]
    exact stands
  refine ⟨RetryRun.ended_of_met retry _ _, ?_, ?_, ?_, ?_, ?_⟩
  · intro faultless
    have valid : retry.Valid := RetryConfig.fault?_eq_none_iff.1 faultless
    exact RetryRun.status_steps_ne_crashed valid.overflows_eq_false (r := start) nofun met
  · intro stage active
    rw [after_cons]
    exact goesOn stage active
  · intro crashed
    obtain ⟨earlier, e, later, rfl, stands⟩ := ended crashed nofun
    cases stands with
    | crashes htask =>
      have hrun : run = (.begin t .reconcile :: earlier) ++ e :: later := rfl
      rw [hrun, after_append, after_cons]
      exact dropped_after htask later
  · intro stopped
    obtain ⟨earlier, e, later, rfl, stands⟩ := ended stopped nofun
    cases stands with
    | compares uncancelled => exact absurd rfl uncancelled
    | stops shown =>
      have hrun : run = (.begin t .reconcile :: earlier) ++ e :: later := rfl
      have reads := readsOnly_of_run hd fresh hrun (ticket?_of_shown shown)
      refine ⟨.begin t .reconcile :: earlier, e, later, hrun, returnsOnce_of_shown shown later, ?_⟩
      apply reads.unaudited
      intro report reported
      cases result_unique shown reported
  · intro outcome uncancelled done
    obtain ⟨earlier, e, later, rfl, stands⟩ := ended done nofun
    cases stands with
    | stops => exact absurd rfl uncancelled
    | compares _ htask =>
      have kept' : .abort t ∉ later ++ [.compare t] := by
        intro hmem
        apply kept
        apply List.mem_append_right
        apply List.mem_cons_of_mem
        simpa using hmem
      obtain ⟨between, rest, hrest, comparing⟩ :=
        exists_compare htask kept' (List.mem_append_right _ (List.mem_singleton_self _))
      let earlier' := (.begin t .reconcile :: earlier) ++ e :: between
      have hrun : run ++ [.compare t] = earlier' ++ .compare t :: rest := by
        simp [run, earlier', hrest]
      have comparing' : (d.after earlier').task? t = some (.comparing (listing outcome)) := by
        dsimp only [earlier']
        rw [after_append, after_cons]
        exact comparing
      have shown := step_compare comparing'
      have hvenue : (d.after earlier').venue = venue := by
        rw [venue_after, venue_after]
        rfl
      have compares := (d.after earlier').compares_listing outcome
      rw [hvenue] at compares
      refine ⟨earlier', rest, _, hrun, returnsOnce_of_shown ?_ rest, compares, ?_⟩
      · rw [shown]
        exact List.mem_singleton_self _
      · rw [step, comparing']
        rfl

/-- The first attempt gets no permit, the second one fails, and the third one lists an unknown order
twice, a known one and one without a token: the other known order is missing. -/
theorem third_listing_is_reported :
  let order : Order := .market "EUR" .buy ⟨false, 1, 0, by decide, by decide⟩
  let before : List DeskEvent := [
    .begin "a" (.submit order (some ⟨"x"⟩)), .resume "a" 0, .accepted "a" .empty,
    .begin "c" (.submit order (some ⟨"y"⟩)), .resume "c" 0, .accepted "c" .empty]
  let listed (id : String) := Payload.empty.insert "client_order_id" (.str id)
  let orders := [listed "q", listed "x", .empty, listed "q"]
  let events : List DeskEvent := [
    .resume "b" 0, .advance 1000000000, .resume "b" 0, .failed "b" (.timeout "slow") 0,
    .resume "b" 0, .listed "b" orders]
  let d := (opened Venue.alpaca (.immediate 3) ⟨.perSecond 2, by decide, []⟩ none).after before
  let met := (d.step (.begin "b" .reconcile)).1.retried "b" events
  let start := RetryRun.start (.immediate 3) false d.isCancelled
  let run := .begin "b" .reconcile :: events
  let report : Reconciliation := ⟨["y"], ["q"]⟩
  d.task? "b" = none
  ∧ (start.steps met).status = .done (.ok orders)
  ∧ (d.after (run ++ [.compare "b"])).task? "b" = some (.finished (.ok (.report report)))
  ∧ ∃ earlier later, run ++ [.compare "b"] = earlier ++ .compare "b" :: later
    ∧ d.ReturnsOnce "b" (.ok (.report report)) earlier (.compare "b") later
    ∧ report.Compares (fun s => (d.after earlier).IsResolved ⟨s⟩)
      (Listed Venue.alpaca (.ok orders))
    ∧ ((d.after earlier).step (.compare "b")).1.audit
      = (d.after earlier).audit.append .reconcile .empty report.toValue
  := by
  intro order before listed orders events d met start run report
  have fresh : d.task? "b" = none := by decide +kernel
  have done : (start.steps met).status = .done (.ok orders) := by decide +kernel
  have finished : (d.after (run ++ [.compare "b"])).task? "b"
      = some (.finished (.ok (.report report))) := by
    decide +kernel
  have kept : .abort "b" ∉ events := by simp [events]
  obtain ⟨-, -, -, -, -, reports⟩ := (reconciling_is_total_and_reads_only Venue.alpaca
    (.immediate 3) ⟨.perSecond 2, by decide, []⟩ none before events "b" fresh).2 kept
  obtain ⟨earlier, later, report', hrun, returns, compares, audit⟩ :=
    reports (.ok orders) nofun done
  have kept' := returns.kept
  rw [← hrun] at kept'
  cases finished.symm.trans kept'
  exact ⟨fresh, done, finished, earlier, later, hrun, returns, compares, audit⟩

end Desk

end OrderDesk
