import Mathlib.Tactic.ByContra
import OrderDesk.Proofs.Cache.Publication

/-!
# One resolution, one outcome

A call that waits on a resolution returns the outcome with which the resolution settles, however
the other calls and the updates of the cache interleave, and it never runs a resolver of its own
unless the resolution is dropped.  A call runs its resolver at most once, and only if it found
no slot for its id.  None of this depends on whether other events come between storing an outcome
and publishing it.
-/

namespace OrderDesk

namespace SharedCache

variable {s : SharedCache} {t ch : Ticket} {id : ClientId} {request : Payload}

/-- In the event the call begins to wait on a channel. -/
def BeginsToWait (s : SharedCache) (e : CacheEvent) (t ch : Ticket) : Prop :=
  s.phase? t ≠ some (.waiting ch) ∧ (s.step e).phase? t = some (.waiting ch)

/-- In the event the call starts to run its resolver. -/
def StartsResolver (s : SharedCache) (e : CacheEvent) (t : Ticket) : Prop :=
  s.phase? t ≠ some .resolving ∧ (s.step e).phase? t = some .resolving

/-- A call whose phase changes is the one that the event is about. -/
theorem ticket?_of_phase?_ne {e : CacheEvent} {phase : CallPhase} (hold : s.phase? t ≠ some phase)
    (hnew : (s.step e).phase? t = some phase) :
  e.ticket? = some t
  := by
  by_contra hne
  rw [phase?, call?_step_of_ticket_ne hne] at hnew
  apply hold hnew

/-- Only a call that asks comes to wait or to resolve. -/
theorem asks_of_phase?_ne {e : CacheEvent} {phase : CallPhase} (hold : s.phase? t ≠ some phase)
    (hnew : (s.step e).phase? t = some phase) (hreturned : ∀ outcome, phase ≠ .returned outcome)
    (hdropped : phase ≠ .dropped) :
  ∃ id request, s.Asks t id request e
  := by
  have ht := ticket?_of_phase?_ne hold hnew
  have m := s.step_move e
  generalize s.step e = s' at m hnew
  cases m with
  | rest => exact absurd hnew hold
  | replay asks =>
    cases asks.ticket?_eq.symm.trans ht
    exact ⟨_, _, asks⟩
  | conflict asks =>
    cases asks.ticket?_eq.symm.trans ht
    exact ⟨_, _, asks⟩
  | join asks =>
    cases asks.ticket?_eq.symm.trans ht
    exact ⟨_, _, asks⟩
  | own asks =>
    cases asks.ticket?_eq.symm.trans ht
    exact ⟨_, _, asks⟩
  | settle =>
    cases ht
    rw [phase?_setCall, if_pos rfl] at hnew
    cases hnew
    apply absurd rfl (hreturned _)
  | deliver =>
    cases ht
    rw [phase?_setCall, if_pos rfl] at hnew
    cases hnew
    apply absurd rfl (hreturned _)
  | abandon =>
    cases ht
    rw [phase?_setCall, if_pos rfl] at hnew
    cases hnew
    apply absurd rfl hdropped
  | leave =>
    cases ht
    rw [phase?_setCall, if_pos rfl] at hnew
    cases hnew
    apply absurd rfl hdropped
  | update => cases ht

/-! ### Waiting -/

/-- A call begins to wait on the call that resolves its id for the same fingerprint. -/
theorem Sound.resolves_of_beginsToWait (h : s.Sound) {e : CacheEvent}
    (hb : s.BeginsToWait e t ch) :
  ∃ id request request', (s.step e).call? t = some ⟨id, request, .waiting ch⟩
    ∧ (s.step e).call? ch = some ⟨id, request', .resolving⟩
    ∧ Fingerprint.of request' = .of request
  := by
  obtain ⟨hold, hnew⟩ := hb
  obtain ⟨id, request, asks⟩ := asks_of_phase?_ne hold hnew nofun nofun
  have h' : (s.ask t id request).Sound := asks.step_eq ▸ h.step e
  rw [asks.step_eq] at *
  have hcall := s.call?_ask t id request
  rw [phase?_ask, Option.some.injEq] at hnew
  have slot := Cache.slot?_of_waits (phaseOf_eq_waiting.1 hnew)
  have slot' : (s.ask t id request).cache.slot? id = some (.pending (.of request) ch) := by
    rw [ask, cache_setCall, cache_setCache, Cache.enter_of_pending slot]
    exact slot
  obtain ⟨request', hf, howner⟩ := h'.owner slot'
  exact ⟨id, request, request', hnew ▸ hcall, howner, hf.symm⟩

/-- What has become of a call that was waiting on a channel: it waits as long as the channel is
unsettled, and it may have returned the outcome once there is one.  Nothing is said once the
channel is closed. -/
def Follows (s : SharedCache) (t ch : Ticket) : Prop :=
  ∃ channel, s.cache.channel? ch = some channel
    ∧ match channel with
      | .unsettled => s.phase? t = some (.waiting ch)
      | .settled outcome =>
        s.phase? t = some (.waiting ch) ∨ s.phase? t = some (.returned outcome)
      | .closed => True

/-- A call that waits on a channel follows it, whatever the channel has come to. -/
theorem follows_of_waiting {channel : Channel} (hch : s.cache.channel? ch = some channel)
    (hwait : s.phase? t = some (.waiting ch)) :
  s.Follows t ch
  := by
  refine ⟨channel, hch, ?_⟩
  cases channel with
  | unsettled => exact hwait
  | settled outcome => exact .inl hwait
  | closed => trivial

/-- A call that begins to wait on a channel follows it. -/
theorem Sound.follows_step (h : s.Sound) {e : CacheEvent} (hb : s.BeginsToWait e t ch) :
  (s.step e).Follows t ch
  := by
  obtain ⟨id, request, request', -, owner, -⟩ := h.resolves_of_beginsToWait hb
  apply follows_of_waiting ((h.step e).channel owner) hb.2

/-- A call that waits on an unsettled channel goes on waiting unless it is dropped. -/
theorem phase?_step_of_unsettled (hwait : s.phase? t = some (.waiting ch))
    (hch : s.cache.channel? ch = some .unsettled) {e : CacheEvent} (habort : e ≠ .abort t) :
  (s.step e).phase? t = some (.waiting ch)
  := by
  obtain ⟨id, request, call⟩ := phase?_eq_some.1 hwait
  by_cases hwake : e = .wake t
  · rw [hwake, step_wake_of_unsettled call hch]
    exact hwait
  · apply phase?_eq_some.2 ⟨id, request, call?_step_of_waiting call hwake habort⟩

/-- The channel of a call outlasts every event. -/
theorem Sound.exists_channel?_step (h : s.Sound) {channel : Channel}
    (hch : s.cache.channel? ch = some channel) (e : CacheEvent) :
  ∃ channel', (s.step e).cache.channel? ch = some channel'
  := by
  by_cases hended : channel = .unsettled
  · subst hended
    obtain ⟨⟨id, request, _⟩, call, rfl⟩ := h.record hch
    exact ⟨_, h.channel?_steps call [e]⟩
  · exact ⟨channel, h.channel?_step_of_ended hch hended e⟩

theorem Follows.step (hf : s.Follows t ch) (h : s.Sound) {e : CacheEvent} (habort : e ≠ .abort t) :
  (s.step e).Follows t ch
  := by
  obtain ⟨channel, hch, hphase⟩ := hf
  cases channel with
  | unsettled =>
    obtain ⟨channel', hch'⟩ := h.exists_channel?_step hch e
    apply follows_of_waiting hch' (phase?_step_of_unsettled hphase hch habort)
  | settled outcome =>
    have hch' := h.channel?_step_of_ended hch (by simp) e
    obtain hwait | hreturned := hphase
    · obtain ⟨id, request, call⟩ := phase?_eq_some.1 hwait
      by_cases hwake : e = .wake t
      · refine ⟨_, hch', .inr ?_⟩
        rw [hwake, step_wake_of_settled call hch]
        simp [phase?]
      · apply follows_of_waiting hch'
          (phase?_eq_some.2 ⟨id, request, call?_step_of_waiting call hwake habort⟩)
    · obtain ⟨id, request, call⟩ := phase?_eq_some.1 hreturned
      exact ⟨_, hch', .inr (phase?_eq_some.2
        ⟨id, request, ((hasEnded_of_returned call).step e).1⟩)⟩
  | closed => exact ⟨_, h.channel?_step_of_ended hch (by simp) e, trivial⟩

theorem Follows.steps (hf : s.Follows t ch) (h : s.Sound) {events : List CacheEvent}
    (habort : .abort t ∉ events) :
  (s.steps events).Follows t ch
  := by
  induction events generalizing s with
  | nil => exact hf
  | cons e events ih =>
    rw [List.mem_cons, not_or] at habort
    apply ih (hf.step h (Ne.symm habort.1)) (h.step e) habort.2

/-! ### Resolving -/

/-- A call that starts its resolver asks for an id without a slot. -/
theorem asks_of_startsResolver {e : CacheEvent} (hs : s.StartsResolver e t) :
  ∃ id request, s.Asks t id request e ∧ s.cache.slot? id = none
  := by
  obtain ⟨hold, hnew⟩ := hs
  obtain ⟨id, request, asks⟩ := asks_of_phase?_ne hold hnew nofun nofun
  refine ⟨id, request, asks, ?_⟩
  rw [asks.step_eq, phase?_ask, Option.some.injEq] at hnew
  apply Cache.slot?_of_resolves (phaseOf_eq_resolving.1 hnew)

/-- A call that has asked and does not wait. -/
def IsCommitted (s : SharedCache) (t : Ticket) : Prop :=
  ∃ call, s.call? t = some call ∧ ∀ ch, call.phase ≠ .waiting ch

/-- A call that starts its resolver does not wait. -/
theorem isCommitted_step {e : CacheEvent} (hs : s.StartsResolver e t) :
  (s.step e).IsCommitted t
  := by
  obtain ⟨id, request, call⟩ := phase?_eq_some.1 hs.2
  exact ⟨_, call, nofun⟩

/-- A call that does not wait never comes to wait again. -/
theorem IsCommitted.step (hc : s.IsCommitted t) (e : CacheEvent) :
  (s.step e).IsCommitted t
  := by
  obtain ⟨⟨id, request, phase⟩, call, hphase⟩ := hc
  by_cases hr : phase = .resolving
  · subst hr
    rcases he : endingOf t e with _ | channel
    · exact ⟨_, call?_step_of_resolving call he, nofun⟩
    · cases e with
      | settle u outcome =>
        obtain ⟨rfl, -⟩ : u = t ∧ Channel.settled outcome = channel := by
          simpa [endingOf] using he
        use ⟨id, request, .returned outcome⟩
        simp [step_settle call]
      | abort u =>
        obtain ⟨rfl, -⟩ : u = t ∧ Channel.closed = channel := by
          simpa [endingOf] using he
        use ⟨id, request, .dropped⟩
        simp [step_abort_of_resolving call]
      | remember => cases he
      | wake => cases he
      | update => cases he
  · have hended : s.HasEnded t ⟨id, request, phase⟩ := ⟨call, hr, hphase⟩
    exact ⟨_, (hended.step e).1, hphase⟩

theorem IsCommitted.steps (hc : s.IsCommitted t) (events : List CacheEvent) :
  (s.steps events).IsCommitted t
  := by
  induction events generalizing s with
  | nil => exact hc
  | cons e events ih => apply ih (hc.step e)

/-- A call that does not wait starts no resolver. -/
theorem IsCommitted.not_startsResolver (hc : s.IsCommitted t) (e : CacheEvent) :
  ¬s.StartsResolver e t
  := by
  intro hs
  obtain ⟨call, hcall, hphase⟩ := hc
  obtain ⟨id, request, asks, -⟩ := asks_of_startsResolver hs
  cases asks with
  | first free =>
    rw [free] at hcall
    cases hcall
  | again waits =>
    rw [waits] at hcall
    cases hcall
    apply hphase _ rfl

/-! ### The outcome of a resolution -/

/-- A call that follows a channel is at the end where the channel is. -/
theorem Follows.cases (hf : s.Follows t ch) {channel : Channel}
    (hch : s.cache.channel? ch = some channel) :
  (channel = .unsettled → s.phase? t = some (.waiting ch))
  ∧ (∀ outcome, channel = .settled outcome →
      (s.phase? t = some (.waiting ch) ∨ s.phase? t = some (.returned outcome))
      ∧ (s.step (.wake t)).phase? t = some (.returned outcome))
  ∧ (channel ≠ .closed → s.phase? t ≠ some .resolving)
  ∧ (s.phase? t = some (.waiting ch) →
      ((∃ id request, s.Asks t id request (.wake t)) ↔ channel = .closed))
  := by
  obtain ⟨channel', hch', hphase⟩ := hf
  cases hch.symm.trans hch'
  refine ⟨?_, ?_, ?_, ?_⟩
  · rintro rfl
    exact hphase
  · rintro outcome rfl
    refine ⟨hphase, ?_⟩
    obtain hwait | hreturned := hphase
    · obtain ⟨id, request, call⟩ := phase?_eq_some.1 hwait
      rw [step_wake_of_settled call hch]
      simp [phase?]
    · obtain ⟨id, request, call⟩ := phase?_eq_some.1 hreturned
      apply phase?_eq_some.2 ⟨id, request, ((hasEnded_of_returned call).step _).1⟩
  · intro hclosed
    cases channel with
    | unsettled => simp [hphase]
    | settled outcome =>
      obtain hwait | hreturned := hphase
      · simp [hwait]
      · simp [hreturned]
    | closed => exact absurd rfl hclosed
  · intro hwait
    obtain ⟨id, request, call⟩ := phase?_eq_some.1 hwait
    constructor
    · rintro ⟨id', request', asks⟩
      cases asks with
      | again waits closed =>
        rw [call] at waits
        cases waits
        apply Option.some.inj (hch.symm.trans closed)
    · rintro rfl
      exact ⟨id, request, .again call hch⟩

/-- A channel and the call that it belongs to are where the other is. -/
theorem Sound.phase?_iff (h : s.Sound) {channel : Channel}
    (hch : s.cache.channel? ch = some channel) :
  (s.phase? ch = some .resolving ↔ channel = .unsettled)
  ∧ (∀ outcome, s.phase? ch = some (.returned outcome) ↔ channel = .settled outcome)
  ∧ (s.phase? ch = some .dropped ↔ channel = .closed)
  := by
  obtain ⟨⟨id, request, phase⟩, call, records⟩ := h.record hch
  have hphase : s.phase? ch = some phase := by rw [phase?, call, Option.map_some]
  rw [hphase]
  cases channel with
  | unsettled =>
    obtain rfl : phase = .resolving := records
    simp
  | settled outcome =>
    obtain rfl : phase = .returned outcome := records
    simp [eq_comm]
  | closed =>
    obtain rfl : phase = .dropped := records
    simp

end SharedCache

/-! ### Late publication -/

namespace LateCache

variable {l : LateCache} {s : SharedCache} {t ch : Ticket} {e : LateEvent}

/-- The phase of a call. -/
def phase? (l : LateCache) (t : Ticket) : Option CallPhase := l.shared.phase? t

/-- In the event the call begins to wait on a channel. -/
def BeginsToWait (l : LateCache) (e : LateEvent) (t ch : Ticket) : Prop :=
  l.phase? t ≠ some (.waiting ch) ∧ (l.step e).phase? t = some (.waiting ch)

/-- In the event the call starts to run its resolver. -/
def StartsResolver (l : LateCache) (e : LateEvent) (t : Ticket) : Prop :=
  l.phase? t ≠ some .resolving ∧ (l.step e).phase? t = some .resolving

namespace Matches

theorem phase?_eq (h : l.Matches s) (t : Ticket) :
  l.phase? t = s.phase? t
  := by
  rw [phase?, SharedCache.phase?, h.call?_eq, SharedCache.phase?]

/-- An event in which a call gets on is matched by one in which it does. -/
theorem step_of_phase?_ne (h : l.Matches s) {phase : CallPhase} (hold : l.phase? t ≠ some phase)
    (hnew : (l.step e).phase? t = some phase) :
  ∃ e', e.event? = some e' ∧ (l.step e).Matches (s.step e')
    ∧ s.phase? t ≠ some phase ∧ (s.step e').phase? t = some phase
  := by
  obtain same | ⟨e', he, hstep⟩ := h.step e
  · rw [same.phase?_eq, ← h.phase?_eq] at hnew
    exact absurd hnew hold
  · rw [hstep.phase?_eq] at hnew
    rw [h.phase?_eq] at hold
    exact ⟨e', he, hstep, hold, hnew⟩

/-- A call that follows a channel follows it when what is still to be published there is. -/
theorem follows_publish (h : l.Matches s) (hf : s.Follows t ch) :
  (l.step (.publish ch)).shared.Follows t ch
  := by
  obtain ⟨channel, hch, hphase⟩ := hf
  have heq : (l.step (.publish ch)).shared.phase? t = s.phase? t := (h.publish ch).phase?_eq t
  refine ⟨channel, (h.channel?_publish ch).trans hch, ?_⟩
  rw [heq]
  exact hphase

/-- A call that follows a channel is at the end where the call is that the channel belongs to. -/
theorem follows_cases (h : l.Matches s) (hf : s.Follows t ch) :
  (l.phase? ch = some .resolving → l.phase? t = some (.waiting ch))
  ∧ (∀ outcome, l.phase? ch = some (.returned outcome) →
      (l.phase? t = some (.waiting ch) ∨ l.phase? t = some (.returned outcome))
      ∧ ((l.step (.publish ch)).step (.whole (.wake t))).phase? t = some (.returned outcome))
  ∧ (l.phase? ch ≠ some .dropped → l.phase? t ≠ some .resolving)
  ∧ (l.phase? t = some (.waiting ch) →
      ((∃ id request, l.shared.Asks t id request (.wake t)) ↔ l.phase? ch = some .dropped))
  := by
  have ⟨channel, hch, _⟩ := hf
  obtain ⟨resolving, returned, dropped⟩ := h.sound.phase?_iff hch
  obtain ⟨waits, returns, starts, asks⟩ := hf.cases hch
  simp only [h.phase?_eq, h.asks_iff, ne_eq, resolving, returned, dropped]
  refine ⟨waits, ?_, starts, asks⟩
  intro outcome settled
  refine ⟨(returns outcome settled).1, ?_⟩
  -- with the outcome published the call finds on the channel what it finds in the other cache
  have published := (h.channel?_publish ch).trans hch
  exact (((h.follows_publish hf).cases published).2.1 outcome settled).2

/-- A call that waits on a channel follows it as long as it is not dropped. -/
theorem follows_steps (h : l.Matches s) (hf : s.Follows t ch) {later : List LateEvent}
    (habort : .whole (.abort t) ∉ later) :
  ∃ s', (l.steps later).Matches s' ∧ s'.Follows t ch
  := by
  obtain ⟨later', hsublist, hsteps⟩ := h.steps later
  refine ⟨s.steps later', hsteps, hf.steps h.sound ?_⟩
  intro dropped
  obtain ⟨e, he, heq⟩ := List.mem_filterMap.1 (hsublist.subset dropped)
  cases e with
  | whole e =>
    cases heq
    exact habort he
  | store => cases heq
  | publish => cases heq

/-- A call that does not wait starts no resolver. -/
theorem not_startsResolver (h : l.Matches s) (hc : s.IsCommitted t) (e : LateEvent) :
  ¬l.StartsResolver e t
  := by
  rintro ⟨hold, hnew⟩
  obtain ⟨e', -, -, hstart⟩ := h.step_of_phase?_ne hold hnew
  exact hc.not_startsResolver e' hstart

end Matches

end LateCache

namespace SharedCache

/-- One resolution has one outcome.  A call that begins to wait, waits on a call that is
resolving the same id for the same fingerprint.  Let it not be dropped in what follows: as long
as that resolution neither settles nor is dropped, the call waits; once it has settled, the call
has returned the very outcome or waits and returns it when it looks, and up to then it has run
no resolver; and it asks again exactly if the resolution was dropped before it settled.  A call
starts its resolver at most once, and only if its id has no slot.  The same is true if other events
come between storing and publishing an outcome, except that a waiting call may then look in vain
until the outcome is published. -/
theorem one_resolution_one_outcome :
  (∀ (before : List CacheEvent) (e : CacheEvent) (t : Ticket),
    let s := empty.steps before
    (∀ ch, s.BeginsToWait e t ch →
      (∃ id request request', (s.step e).call? t = some ⟨id, request, .waiting ch⟩
        ∧ (s.step e).call? ch = some ⟨id, request', .resolving⟩
        ∧ Fingerprint.of request' = .of request)
      ∧ ∀ later, .abort t ∉ later →
        let now := (s.step e).steps later
        (channelAfter ch later = .unsettled → now.phase? t = some (.waiting ch))
        ∧ (∀ outcome, channelAfter ch later = .settled outcome →
            (now.phase? t = some (.waiting ch) ∨ now.phase? t = some (.returned outcome))
            ∧ (now.step (.wake t)).phase? t = some (.returned outcome))
        ∧ (channelAfter ch later ≠ .closed → now.phase? t ≠ some .resolving)
        ∧ (now.phase? t = some (.waiting ch) →
            ((∃ id request, now.Asks t id request (.wake t)) ↔ channelAfter ch later = .closed)))
    ∧ (s.StartsResolver e t →
      (∃ id request, s.Asks t id request e ∧ s.cache.slot? id = none)
      ∧ ∀ later e', ¬((s.step e).steps later).StartsResolver e' t))
  ∧ ∀ (before : List LateEvent) (e : LateEvent) (t : Ticket),
    let l := (LateCache.ofShared empty).steps before
    (∀ ch, l.BeginsToWait e t ch →
      (∃ id request request', (l.step e).shared.call? t = some ⟨id, request, .waiting ch⟩
        ∧ (l.step e).shared.call? ch = some ⟨id, request', .resolving⟩
        ∧ Fingerprint.of request' = .of request)
      ∧ ∀ later, .whole (.abort t) ∉ later →
        let now := (l.step e).steps later
        (now.phase? ch = some .resolving → now.phase? t = some (.waiting ch))
        ∧ (∀ outcome, now.phase? ch = some (.returned outcome) →
            (now.phase? t = some (.waiting ch) ∨ now.phase? t = some (.returned outcome))
            ∧ ((now.step (.publish ch)).step (.whole (.wake t))).phase? t
              = some (.returned outcome))
        ∧ (now.phase? ch ≠ some .dropped → now.phase? t ≠ some .resolving)
        ∧ (now.phase? t = some (.waiting ch) →
            ((∃ id request, now.shared.Asks t id request (.wake t))
              ↔ now.phase? ch = some .dropped)))
    ∧ (l.StartsResolver e t →
      (∃ id request e', e.event? = some e' ∧ l.shared.Asks t id request e'
        ∧ l.shared.cache.slot? id = none)
      ∧ ∀ later e', ¬((l.step e).steps later).StartsResolver e' t)
  := by
  constructor
  · intro before e t s
    have h : s.Sound := sound_steps before
    constructor
    · intro ch hb
      refine ⟨h.resolves_of_beginsToWait hb, ?_⟩
      intro later habort now
      obtain ⟨id, request, request', -, owner, -⟩ := h.resolves_of_beginsToWait hb
      have hfollows : now.Follows t ch := (h.follows_step hb).steps (h.step e) habort
      apply hfollows.cases ((h.step e).channel?_steps owner later)
    · intro hs
      refine ⟨asks_of_startsResolver hs, ?_⟩
      intro later e'
      exact ((isCommitted_step hs).steps later).not_startsResolver e'
  · intro before e t l
    obtain ⟨before', -, h⟩ := LateCache.exists_matching_steps before
    constructor
    · rintro ch ⟨hold, hnew⟩
      obtain ⟨e', -, hstep, hb⟩ := h.step_of_phase?_ne hold hnew
      constructor
      · simp only [l, hstep.call?_eq]
        exact h.sound.resolves_of_beginsToWait hb
      · intro later habort now
        obtain ⟨s', hnow, hfollows⟩ := hstep.follows_steps (h.sound.follows_step hb) habort
        exact hnow.follows_cases hfollows
    · rintro ⟨hold, hnew⟩
      obtain ⟨e', he, hstep, hs⟩ := h.step_of_phase?_ne hold hnew
      constructor
      · obtain ⟨id, request, asks, free⟩ := asks_of_startsResolver hs
        exact ⟨id, request, e', he, h.asks_iff.2 asks, (h.slot?_eq id).trans free⟩
      · intro later e''
        obtain ⟨later', -, hnow⟩ := hstep.steps later
        exact hnow.not_startsResolver ((isCommitted_step hs).steps later') e''

-- the id is given another response between the settlement and the look at the channel
example :
  (empty.steps [.remember "a" ⟨"order"⟩ .empty, .remember "b" ⟨"order"⟩ .empty,
    .settle "a" (.error .cancelled), .update ⟨"order"⟩ .empty, .wake "b"]).phase? "b"
    = some (.returned (.error .cancelled))
  := by
  decide +kernel

end SharedCache

end OrderDesk
