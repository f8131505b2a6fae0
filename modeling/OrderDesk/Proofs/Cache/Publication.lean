import OrderDesk.Proofs.Cache.Calls

/-!
# Outcomes that are published late

A call that has resolved its id stores the outcome under the id and then publishes it on its
channel.  In a `SharedCache` these are one event.  In a `LateCache` they are two, and any others
may come in between: calls then find the outcome stored, or the id free again, while others still
wait for it.  Every run of a `LateCache` is matched by one of a `SharedCache` in which outcomes are
published at once, and in which the calls that look at a channel too early do not look.  So what is
true of the slots and the calls in all runs of the one is true in all runs of the other.
-/

namespace OrderDesk

/-- A shared cache with the outcomes that are stored and not published, under the tickets of their
calls. -/
structure LateCache where
  shared : SharedCache
  late : Table Outcome

/-- An event of a shared cache, or one half of a settlement. -/
inductive LateEvent where
  | whole (e : CacheEvent)
  /-- The call that resolves an id has its outcome and stores it. -/
  | store (ticket : Ticket) (outcome : Outcome)
  /-- The call publishes the outcome that it has stored. -/
  | publish (ticket : Ticket)

/-- The event by which an event is matched, if it is not matched by none. -/
def LateEvent.event? : LateEvent → Option CacheEvent
  | .whole e => some e
  | .store ticket outcome => some (.settle ticket outcome)
  | .publish _ => none

namespace LateCache

/-- No call has stored an outcome without publishing it. -/
def ofShared (s : SharedCache) : LateCache := ⟨s, .empty⟩

/-- The cache and its calls after an event. -/
def step (l : LateCache) : LateEvent → LateCache
  | .whole e => { l with shared := l.shared.step e }
  | .store ticket outcome =>
    match l.shared.call? ticket with
    | some ⟨id, request, .resolving⟩ =>
      { shared := (l.shared.setCache (l.shared.cache.store id (.of request) outcome)).setCall ticket
          ⟨id, request, .returned outcome⟩
        late := l.late.insert ticket outcome }
    | _ => l
  | .publish ticket =>
    match l.late.get? ticket with
    | some outcome =>
      { shared := l.shared.setCache (l.shared.cache.setChannel ticket (.settled outcome))
        late := l.late.erase ticket }
    | none => l

/-- The cache and its calls after a sequence of events. -/
def steps (l : LateCache) (events : List LateEvent) : LateCache := events.foldl step l

/-- The same calls and slots, and the same channels but for those on which an outcome has not been
published yet. -/
structure Matches (l : LateCache) (s : SharedCache) : Prop where
  sound : s.Sound
  call?_eq (t : Ticket) : l.shared.call? t = s.call? t
  slot?_eq (id : ClientId) : l.shared.cache.slot? id = s.cache.slot? id
  /-- An outcome is published unless it is late. -/
  prompt {t : Ticket} (h : l.late.get? t = none) :
    l.shared.cache.channel? t = s.cache.channel? t
  late {t : Ticket} {outcome : Outcome} (h : l.late.get? t = some outcome) :
    l.shared.cache.channel? t = some .unsettled ∧ s.cache.channel? t = some (.settled outcome)

namespace Matches

variable {l : LateCache} {s : SharedCache} {t : Ticket} {id : ClientId} {request : Payload}

theorem ofShared (h : s.Sound) :
  (LateCache.ofShared s).Matches s
  where
  sound := h
  call?_eq _ := rfl
  slot?_eq _ := rfl
  prompt _ := rfl
  late h := by cases h

/-- A channel that has come to its end is the same in both. -/
theorem channel?_eq (h : l.Matches s) {channel : Channel}
    (hch : l.shared.cache.channel? t = some channel) (hended : channel ≠ .unsettled) :
  s.cache.channel? t = some channel
  := by
  rcases hlate : l.late.get? t with _ | outcome
  · rw [← h.prompt hlate]
    exact hch
  · rw [(h.late hlate).1] at hch
    cases hch
    exact absurd rfl hended

/-- A call that is not returned has published whatever it has stored. -/
theorem late_eq_none (h : l.Matches s)
    (hcall : ∀ id request outcome, s.call? t ≠ some ⟨id, request, .returned outcome⟩) :
  l.late.get? t = none
  := by
  rcases hlate : l.late.get? t with _ | outcome
  · rfl
  · obtain ⟨⟨id, request, phase⟩, call, hrecord⟩ := h.sound.record (h.late hlate).2
    cases hrecord
    exact absurd call (hcall id request outcome)

theorem asks (h : l.Matches s) {e : CacheEvent} (asks : l.shared.Asks t id request e) :
  s.Asks t id request e
  := by
  cases asks with
  | first free =>
    rw [h.call?_eq] at free
    exact .first free
  | again waits closed =>
    rw [h.call?_eq] at waits
    exact .again waits (h.channel?_eq closed (by simp))

theorem asks_iff (h : l.Matches s) {e : CacheEvent} :
  l.shared.Asks t id request e ↔ s.Asks t id request e
  := by
  refine ⟨h.asks, ?_⟩
  intro asks
  cases asks with
  | first free => exact .first ((h.call?_eq t).trans free)
  | @again channel waits closed =>
    have prompt : l.late.get? channel = none := by
      rcases hlate : l.late.get? channel with _ | outcome
      · rfl
      · cases closed.symm.trans (h.late hlate).2
    exact .again ((h.call?_eq t).trans waits) ((h.prompt prompt).trans closed)

/-- A call gets on while the cache stays as it is. -/
theorem setCall (h : l.Matches s) {call : CacheCall} (sound : (s.setCall t call).Sound) :
  Matches ⟨l.shared.setCall t call, l.late⟩ (s.setCall t call)
  where
  sound := sound
  call?_eq u := by
    rw [SharedCache.call?_setCall, SharedCache.call?_setCall, h.call?_eq]
  slot?_eq := h.slot?_eq
  prompt := h.prompt
  late := h.late

/-- A call gets on while a slot and its own channel change. -/
theorem setCache (h : l.Matches s) {c c' : Cache} {call : CacheCall} (channel : Channel)
    (hlate : l.late.get? t = none) (sound : ((s.setCache c').setCall t call).Sound)
    (hslots : ∀ id, c.slot? id = c'.slot? id)
    (hc : ∀ u, c.channel? u = if u = t then some channel else l.shared.cache.channel? u)
    (hc' : ∀ u, c'.channel? u = if u = t then some channel else s.cache.channel? u) :
  Matches ⟨(l.shared.setCache c).setCall t call, l.late⟩ ((s.setCache c').setCall t call)
  where
  sound := sound
  call?_eq u := by
    rw [SharedCache.call?_setCall, SharedCache.call?_setCall]
    simp only [SharedCache.call?_setCache, h.call?_eq]
  slot?_eq := hslots
  prompt {u} hu := by
    apply Eq.trans (hc u)
    apply Eq.trans _ (hc' u).symm
    rw [h.prompt hu]
  late {u outcome} hu := by
    have hne : u ≠ t := by
      rintro rfl
      rw [hlate] at hu
      cases hu
    obtain ⟨hopen, hsettled⟩ := h.late hu
    constructor
    · apply Eq.trans (hc u)
      rw [if_neg hne, hopen]
    · apply Eq.trans (hc' u)
      rw [if_neg hne, hsettled]

theorem late_of_asks (h : l.Matches s) {e : CacheEvent} (asks : s.Asks t id request e) :
  l.late.get? t = none
  := by
  apply h.late_eq_none
  intro id' request' outcome call
  cases asks with
  | first free => cases free.symm.trans call
  | again waits => cases waits.symm.trans call

theorem late_of_resolving (h : l.Matches s)
    (call : s.call? t = some ⟨id, request, .resolving⟩) :
  l.late.get? t = none
  := by
  apply h.late_eq_none
  intro id' request' outcome call'
  cases call.symm.trans call'

/-- A call that finds its id free installs its slot in both. -/
theorem own (h : l.Matches s) {e : CacheEvent} (asks : s.Asks t id request e)
    (slot : s.cache.slot? id = none) :
  Matches ⟨(l.shared.setCache ((l.shared.cache.setSlot id (.pending (.of request) t)).setChannel t
    .unsettled)).setCall t ⟨id, request, .resolving⟩, l.late⟩ (s.step e)
  := by
  have sound := h.sound.step e
  have hstep : s.step e = (s.setCache ((s.cache.setSlot id (.pending (.of request) t)).setChannel
      t .unsettled)).setCall t ⟨id, request, .resolving⟩ := by
    rw [asks.step_eq, SharedCache.ask, Cache.enter_of_free slot]
    rfl
  rw [hstep] at sound ⊢
  apply h.setCache .unsettled (h.late_of_asks asks) sound
  · simp [h.slot?_eq]
  · simp
  · simp

theorem settle (h : l.Matches s) (call : s.call? t = some ⟨id, request, .resolving⟩)
    (outcome : Outcome) :
  Matches ⟨(l.shared.setCache (l.shared.cache.settle id (.of request) outcome)).setCall t
    ⟨id, request, .returned outcome⟩, l.late⟩ (s.step (.settle t outcome))
  := by
  have sound := h.sound.step (.settle t outcome)
  have hslot := h.sound.slot call
  have hslot' := (h.slot?_eq id).trans hslot
  rw [SharedCache.step_settle call] at sound ⊢
  apply h.setCache (.settled outcome) (h.late_of_resolving call) sound
  · simp [Cache.settle_of_pending hslot, Cache.settle_of_pending hslot', h.slot?_eq]
  · rw [Cache.settle_of_pending hslot']
    simp
  · rw [Cache.settle_of_pending hslot]
    simp

theorem abandon (h : l.Matches s) (call : s.call? t = some ⟨id, request, .resolving⟩) :
  Matches ⟨(l.shared.setCache (l.shared.cache.abandon id)).setCall t ⟨id, request, .dropped⟩,
    l.late⟩ (s.step (.abort t))
  := by
  have sound := h.sound.step (.abort t)
  have hslot := h.sound.slot call
  have hslot' := (h.slot?_eq id).trans hslot
  rw [SharedCache.step_abort_of_resolving call] at sound ⊢
  apply h.setCache .closed (h.late_of_resolving call) sound
  · simp [Cache.abandon_of_pending hslot, Cache.abandon_of_pending hslot', h.slot?_eq]
  · rw [Cache.abandon_of_pending hslot']
    simp
  · rw [Cache.abandon_of_pending hslot]
    simp

theorem update (h : l.Matches s) (id : ClientId) (response : Payload) :
  Matches ⟨l.shared.setCache (l.shared.cache.update id response), l.late⟩
    (s.step (.update id response))
  where
  sound := h.sound.step (.update id response)
  call?_eq := h.call?_eq
  slot?_eq other := by
    apply Eq.trans (Cache.slot?_update l.shared.cache id response other)
    rw [h.slot?_eq, h.slot?_eq]
    exact (Cache.slot?_update s.cache id response other).symm
  prompt {u} hu := by
    apply Eq.trans (Cache.channel?_update l.shared.cache id response u)
    rw [h.prompt hu]
    exact (Cache.channel?_update s.cache id response u).symm
  late {u outcome} hu := by
    obtain ⟨hopen, hsettled⟩ := h.late hu
    constructor
    · apply Eq.trans (Cache.channel?_update l.shared.cache id response u) hopen
    · apply Eq.trans (Cache.channel?_update s.cache id response u) hsettled

/-- An event that is whole is matched by itself, or by none if a call looks too early. -/
theorem whole (h : l.Matches s) (e : CacheEvent) :
  (l.step (.whole e)).Matches s ∨ (l.step (.whole e)).Matches (s.step e)
  := by
  have m := l.shared.step_move e
  rw [LateCache.step]
  generalize l.shared.step e = s' at m
  have sound := h.sound.step e
  cases m with
  | rest => exact .inl h
  | replay asks slot =>
    right
    rw [h.slot?_eq] at slot
    rw [(h.asks asks).step_eq, SharedCache.ask, Cache.enter_of_resolved slot] at sound ⊢
    apply h.setCall sound
  | conflict asks slot differs =>
    right
    rw [h.slot?_eq] at slot
    rw [(h.asks asks).step_eq, SharedCache.ask, Cache.enter_of_conflict slot differs] at sound ⊢
    apply h.setCall sound
  | join asks slot =>
    right
    rw [h.slot?_eq] at slot
    rw [(h.asks asks).step_eq, SharedCache.ask, Cache.enter_of_pending slot] at sound ⊢
    apply h.setCall sound
  | own asks slot =>
    right
    rw [h.slot?_eq] at slot
    apply h.own (h.asks asks) slot
  | settle outcome call =>
    right
    rw [h.call?_eq] at call
    apply h.settle call outcome
  | deliver call settled =>
    right
    rw [h.call?_eq] at call
    rw [SharedCache.step_wake_of_settled call (h.channel?_eq settled (by simp))] at sound ⊢
    apply h.setCall sound
  | abandon call =>
    right
    rw [h.call?_eq] at call
    apply h.abandon call
  | leave call =>
    right
    rw [h.call?_eq] at call
    rw [SharedCache.step_abort_of_waiting call] at sound ⊢
    apply h.setCall sound
  | update id response => exact .inr (h.update id response)

/-- Storing an outcome is matched by settling. -/
theorem store (h : l.Matches s) (t : Ticket) (outcome : Outcome) :
  (l.step (.store t outcome)).Matches s
    ∨ (l.step (.store t outcome)).Matches (s.step (.settle t outcome))
  := by
  rw [LateCache.step]
  split
  next id request call =>
    right
    rw [h.call?_eq] at call
    have sound := h.sound.step (.settle t outcome)
    have hslot := h.sound.slot call
    have hopen : l.shared.cache.channel? t = some .unsettled := by
      rw [h.prompt (h.late_of_resolving call)]
      exact h.sound.channel call
    rw [SharedCache.step_settle call, Cache.settle_of_pending hslot] at sound ⊢
    constructor
    case sound => exact sound
    case call?_eq => simp [h.call?_eq]
    case slot?_eq => simp [h.slot?_eq]
    case prompt =>
      intro u hu
      rw [Table.get?_insert] at hu
      split at hu
      · cases hu
      next hne => simp [hne, h.prompt hu]
    case late =>
      intro u outcome' hu
      rw [Table.get?_insert] at hu
      split at hu
      next heq =>
        cases hu
        simp [heq, hopen]
      next hne => simp [hne, h.late hu]
  next => exact .inl h

/-- Publishing an outcome brings its channel to where it is already. -/
theorem publish (h : l.Matches s) (t : Ticket) :
  (l.step (.publish t)).Matches s
  := by
  rw [LateCache.step]
  split
  next outcome hlate =>
    obtain ⟨-, hsettled⟩ := h.late hlate
    constructor
    case sound => exact h.sound
    case call?_eq => exact h.call?_eq
    case slot?_eq => exact h.slot?_eq
    case prompt =>
      intro u hu
      rw [Table.get?_erase] at hu
      split at hu
      next heq => simp [heq, hsettled]
      next hne => simp [hne, h.prompt hu]
    case late =>
      intro u outcome' hu
      rw [Table.get?_erase] at hu
      split at hu
      · cases hu
      next hne => simp [hne, h.late hu]
  next => exact h

/-- An event is matched by at most one event. -/
theorem step (h : l.Matches s) (e : LateEvent) :
  (l.step e).Matches s ∨ ∃ e', e.event? = some e' ∧ (l.step e).Matches (s.step e')
  := by
  cases e with
  | whole e =>
    obtain h | h := h.whole e
    · exact .inl h
    · exact .inr ⟨e, rfl, h⟩
  | store t outcome =>
    obtain h | h := h.store t outcome
    · exact .inl h
    · exact .inr ⟨.settle t outcome, rfl, h⟩
  | publish t => exact .inl (h.publish t)

theorem steps (h : l.Matches s) (events : List LateEvent) :
  ∃ events', events'.Sublist (events.filterMap LateEvent.event?)
    ∧ (l.steps events).Matches (s.steps events')
  := by
  induction events generalizing l s with
  | nil => exact ⟨[], List.Sublist.refl [], h⟩
  | cons e events ih =>
    obtain hstep | ⟨e', he', hstep⟩ := h.step e
    · obtain ⟨events', hsublist, hsteps⟩ := ih hstep
      refine ⟨events', hsublist.trans ?_, hsteps⟩
      exact (List.sublist_cons_self e events).filterMap _
    · obtain ⟨events', hsublist, hsteps⟩ := ih hstep
      refine ⟨e' :: events', ?_, hsteps⟩
      rw [List.filterMap_cons_some he']
      exact hsublist.cons_cons e'

theorem resolves_iff (h : l.Matches s) (t : Ticket) (id : ClientId) :
  l.shared.Resolves t id ↔ s.Resolves t id
  := by
  rw [SharedCache.Resolves, h.call?_eq, SharedCache.Resolves]

/-- A channel that has come to its end in the one may have its outcome still to be published in the
other. -/
theorem ended_cases (h : l.Matches s)
    (ended : (∃ outcome, s.cache.channel? t = some (.settled outcome))
      ∨ s.cache.channel? t = some .closed) :
  (∃ outcome, l.shared.cache.channel? t = some (.settled outcome) ∨ l.late.get? t = some outcome)
  ∨ l.shared.cache.channel? t = some .closed
  := by
  rcases hlate : l.late.get? t with _ | outcome
  · rw [h.prompt hlate]
    obtain ⟨outcome, settled⟩ | closed := ended
    · exact .inl ⟨outcome, .inl settled⟩
    · exact .inr closed
  · exact .inl ⟨outcome, .inr rfl⟩

/-- Once what a call has stored is published, its channel is the same in both. -/
theorem channel?_publish (h : l.Matches s) (t : Ticket) :
  (l.step (.publish t)).shared.cache.channel? t = s.cache.channel? t
  := by
  apply (h.publish t).prompt
  rw [LateCache.step]
  split
  · rw [Table.get?_erase, if_pos rfl]
  next unstored => exact unstored

end Matches

/-- Publishing late makes no difference.  Whatever events come between storing an outcome and
publishing it, the calls, the slots and the channels on which nothing is still to be published
are as after some of the events, in the same order, with every settlement whole. -/
theorem exists_matching_steps (events : List LateEvent) :
  ∃ events', events'.Sublist (events.filterMap LateEvent.event?)
    ∧ ((ofShared .empty).steps events).Matches (SharedCache.empty.steps events')
  := (Matches.ofShared SharedCache.sound_empty).steps events

end LateCache

/-! ### Slots and waiting calls -/

namespace SharedCache

/-- No slot and no waiting call is stranded.  In every state that a run of events leads to, an
id has a pending slot exactly if exactly one call resolves it, and the slot holds the channel of
that call.  A waiting call holds a channel that is in the pending slot of its id for its own
fingerprint, or on which an outcome has been published, or that has been closed.  While no call
resolves an id, no slot is pending, and every waiting call gets on when it looks at its
channel: it returns, or resolves its id itself.  The same is true if other events come between
storing and publishing an outcome, except that a waiting call may then hold a channel on which an
outcome is still to be published. -/
theorem no_call_is_stranded :
  (∀ events : List CacheEvent,
    let s := empty.steps events
    (∀ id, (∃ fingerprint ch, s.cache.slot? id = some (.pending fingerprint ch))
        ↔ ∃! t, s.Resolves t id)
    ∧ (∀ t id, s.Resolves t id
        ↔ ∃ fingerprint, s.cache.slot? id = some (.pending fingerprint t))
    ∧ (∀ t id request ch, s.call? t = some ⟨id, request, .waiting ch⟩ →
        s.cache.slot? id = some (.pending (.of request) ch)
          ∨ (∃ outcome, s.cache.channel? ch = some (.settled outcome))
          ∨ s.cache.channel? ch = some .closed)
    ∧ ((∀ t id, ¬s.Resolves t id) →
        (∀ id fingerprint ch, s.cache.slot? id ≠ some (.pending fingerprint ch))
        ∧ ∀ t id request ch, s.call? t = some ⟨id, request, .waiting ch⟩ →
          s.canWake t = true
          ∧ ∃ phase, (s.step (.wake t)).call? t = some ⟨id, request, phase⟩
            ∧ ∀ ch', phase ≠ .waiting ch'))
  ∧ ∀ events : List LateEvent,
    let l := (LateCache.ofShared empty).steps events
    (∀ id, (∃ fingerprint ch, l.shared.cache.slot? id = some (.pending fingerprint ch))
        ↔ ∃! t, l.shared.Resolves t id)
    ∧ (∀ t id, l.shared.Resolves t id
        ↔ ∃ fingerprint, l.shared.cache.slot? id = some (.pending fingerprint t))
    ∧ (∀ t id request ch, l.shared.call? t = some ⟨id, request, .waiting ch⟩ →
        l.shared.cache.slot? id = some (.pending (.of request) ch)
          ∨ (∃ outcome, l.shared.cache.channel? ch = some (.settled outcome)
            ∨ l.late.get? ch = some outcome)
          ∨ l.shared.cache.channel? ch = some .closed)
    ∧ ((∀ t id, ¬l.shared.Resolves t id) →
        (∀ id fingerprint ch, l.shared.cache.slot? id ≠ some (.pending fingerprint ch))
        ∧ ∀ t id request ch, l.shared.call? t = some ⟨id, request, .waiting ch⟩ →
          (l.step (.publish ch)).shared.canWake t = true)
  := by
  constructor
  · intro events s
    have h : s.Sound := sound_steps events
    refine ⟨h.pending_iff, h.resolves_iff, fun t id request ch call => h.waiting_cases call, ?_⟩
    intro idle
    have free := h.slot?_ne_pending idle
    refine ⟨free, ?_⟩
    intro t id request ch call
    obtain slot | ended := h.waiting_cases call
    · exact absurd slot (free id _ ch)
    · refine ⟨canWake_of_ended call ended, ?_⟩
      obtain ⟨outcome, settled⟩ | closed := ended
      · use .returned outcome
        rw [step_wake_of_settled call settled]
        simp
      · rw [(Asks.again call closed).step_eq]
        apply call?_ask_of_free (free id)
  · intro events l
    obtain ⟨events', -, h⟩ := LateCache.exists_matching_steps events
    have waits {t ch : Ticket} {id : ClientId} {request : Payload}
        (call : l.shared.call? t = some ⟨id, request, .waiting ch⟩) :=
      h.sound.waiting_cases ((h.call?_eq t).symm.trans call)
    simp only [l, h.resolves_iff, h.slot?_eq]
    refine ⟨h.sound.pending_iff, h.sound.resolves_iff, ?_, ?_⟩
    · intro t id request ch call
      obtain slot | ended := waits call
      · exact .inl slot
      · exact .inr (h.ended_cases ended)
    · intro idle
      have free := h.sound.slot?_ne_pending idle
      refine ⟨free, ?_⟩
      intro t id request ch call
      obtain slot | ended := waits call
      · exact absurd slot (free id _ ch)
      · apply canWake_of_ended (((h.publish ch).call?_eq t).trans ((h.call?_eq t).symm.trans call))
        rw [h.channel?_publish]
        exact ended

end SharedCache

end OrderDesk
