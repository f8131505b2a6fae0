import Mathlib.Data.List.Nodup
import Mathlib.Tactic.ByContra
import OrderDesk.Proofs.Cache.Calls

/-!
# How often a call asks

A call asks for its id when it begins, and once more each time that the resolution it waits on is
dropped without an outcome.  A channel is closed only by such a drop, stays closed, and is never
waited on again, so that the drops that a call waits through are different ones and bound the
number of times that it asks.
-/

namespace OrderDesk

/-- The channel that a call has to wait on. -/
def Entrance.awaited? : Entrance → Option Ticket
  | .waits channel => some channel
  | _ => none

namespace SharedCache

variable {s : SharedCache} {t u ch : Ticket} {id : ClientId} {request : Payload} {e : CacheEvent}
  {entrance : Entrance} {lost : List Ticket} {past : List Entrance}

/-- What a call finds if it asks for its id in the event, for the first time or again. -/
def pass? (s : SharedCache) (t : Ticket) : CacheEvent → Option Entrance
  | .remember u id request =>
    if u = t ∧ s.call? t = none then some (s.cache.enter t id (.of request)).2 else none
  | .wake u =>
    match s.call? t with
    | some ⟨id, request, .waiting channel⟩ =>
      if u = t ∧ s.cache.channel? channel = some .closed then
        some (s.cache.enter t id (.of request)).2
      else none
    | _ => none
  | _ => none

/-- What a call finds each time that it asks for its id in a sequence of events, in order. -/
def passes (s : SharedCache) (t : Ticket) : List CacheEvent → List Entrance
  | [] => []
  | e :: events => (s.pass? t e).toList ++ (s.step e).passes t events

/-- The call that is dropped in the event while it resolves the id of another one, which waits for
its outcome. -/
def loss? (s : SharedCache) (t : Ticket) : CacheEvent → Option Ticket
  | .abort u =>
    match s.call? t, s.call? u with
    | some ⟨id, _, .waiting channel⟩, some ⟨id', _, .resolving⟩ =>
      if channel = u ∧ id' = id then some u else none
    | _, _ => none
  | _ => none

/-- The calls that are dropped in a sequence of events while they resolve the id of another one,
which waits for their outcome, in order. -/
def losses (s : SharedCache) (t : Ticket) : List CacheEvent → List Ticket
  | [] => []
  | e :: events => (s.loss? t e).toList ++ (s.step e).losses t events

/-! ### Events -/

theorem pass?_eq_some :
  s.pass? t e = some entrance
    ↔ ∃ id request, s.Asks t id request e ∧ (s.cache.enter t id (.of request)).2 = entrance
  := by
  constructor
  · intro h
    unfold pass? at h
    split at h
    next u id request =>
      rw [Option.ite_none_right_eq_some] at h
      obtain ⟨⟨rfl, free⟩, hentrance⟩ := h
      exact ⟨id, request, .first free, Option.some.inj hentrance⟩
    next u =>
      split at h
      next id request channel call =>
        rw [Option.ite_none_right_eq_some] at h
        obtain ⟨⟨rfl, closed⟩, hentrance⟩ := h
        exact ⟨id, request, .again call closed, Option.some.inj hentrance⟩
      next => cases h
    next => cases h
  · rintro ⟨id, request, asks, rfl⟩
    cases asks with
    | first free => exact if_pos ⟨rfl, free⟩
    | again waits closed =>
      rw [pass?, waits]
      exact if_pos ⟨rfl, closed⟩

theorem loss?_eq_some :
  s.loss? t e = some u
    ↔ e = .abort u ∧ ∃ id request request', s.call? t = some ⟨id, request, .waiting u⟩
      ∧ s.call? u = some ⟨id, request', .resolving⟩
  := by
  constructor
  · intro h
    unfold loss? at h
    split at h
    next v =>
      split at h
      next id request channel id' request' waits resolves =>
        rw [Option.ite_none_right_eq_some] at h
        obtain ⟨⟨rfl, rfl⟩, heq⟩ := h
        cases heq
        exact ⟨rfl, id', request, request', waits, resolves⟩
      next => cases h
    next => cases h
  · rintro ⟨rfl, id, request, request', waits, resolves⟩
    rw [loss?, waits, resolves]
    exact if_pos ⟨rfl, rfl⟩

/-- No call asks in an event in which one is dropped. -/
theorem loss?_of_pass (h : s.pass? t e = some entrance) :
  s.loss? t e = none
  := by
  obtain ⟨id, request, asks, -⟩ := pass?_eq_some.1 h
  cases asks with
  | first => rfl
  | again => rfl

/-- A call that does not ask in an event stays as it is, or comes to its end. -/
theorem call?_step_of_not_pass (h : s.pass? t e = none) :
  (s.step e).call? t = s.call? t
    ∨ ∃ call call', s.call? t = some call ∧ (s.step e).call? t = some call'
      ∧ ∀ channel, call'.phase ≠ .waiting channel
  := by
  by_cases ht : e.ticket? = some t
  · have unasked {id : ClientId} {request : Payload} (asks : s.Asks t id request e) : False := by
      rw [pass?_eq_some.2 ⟨id, request, asks, rfl⟩] at h
      cases h
    have m := s.step_move e
    generalize s.step e = s' at m
    cases m with
    | rest => exact .inl rfl
    | replay asks =>
      cases asks.ticket?_eq.symm.trans ht
      exact (unasked asks).elim
    | conflict asks =>
      cases asks.ticket?_eq.symm.trans ht
      exact (unasked asks).elim
    | join asks =>
      cases asks.ticket?_eq.symm.trans ht
      exact (unasked asks).elim
    | own asks =>
      cases asks.ticket?_eq.symm.trans ht
      exact (unasked asks).elim
    | settle outcome call =>
      cases ht
      exact .inr ⟨_, _, call, (call?_setCall ..).trans (if_pos rfl), nofun⟩
    | deliver call =>
      cases ht
      exact .inr ⟨_, _, call, (call?_setCall ..).trans (if_pos rfl), nofun⟩
    | abandon call =>
      cases ht
      exact .inr ⟨_, _, call, (call?_setCall ..).trans (if_pos rfl), nofun⟩
    | leave call =>
      cases ht
      exact .inr ⟨_, _, call, (call?_setCall ..).trans (if_pos rfl), nofun⟩
    | update => cases ht
  · exact .inl (call?_step_of_ticket_ne ht)

/-- A call that comes to wait finds a channel that is still open. -/
theorem Sound.channel?_of_waits (h : s.Sound)
    (found : (s.cache.enter t id (.of request)).2 = .waits ch) :
  s.cache.channel? ch = some .unsettled
    ∧ (s.ask t id request).cache.channel? ch = some .unsettled
  := by
  have slot := Cache.slot?_of_waits found
  obtain ⟨request', -, owner⟩ := h.owner slot
  have hopen := h.channel owner
  refine ⟨hopen, ?_⟩
  rw [ask, cache_setCall, cache_setCache, Cache.enter_of_pending slot]
  exact hopen

/-- The channel that a call waits on is closed only when the call is dropped that resolves the
id. -/
theorem Sound.closed_of_step (h : s.Sound) (call : s.call? t = some ⟨id, request, .waiting ch⟩)
    (closed : (s.step e).cache.channel? ch = some .closed) :
  s.cache.channel? ch = some .closed ∨ s.loss? t e = some ch
  := by
  obtain ⟨request', phase, owner, -, channel, hch⟩ := h.waiter call
  by_cases hended : channel = .unsettled
  · right
    subst hended
    obtain ⟨call', hcall', hrecord⟩ := h.record hch
    cases owner.symm.trans hcall'
    obtain rfl : phase = .resolving := hrecord
    have hafter : (s.step e).cache.channel? ch = some (channelAfter ch [e]) :=
      h.channel?_steps owner [e]
    rw [hafter, Option.some.injEq, channelAfter, channelAfter] at closed
    cases e with
    | abort v =>
      obtain rfl : v = ch := by
        by_contra hne
        simp [endingOf, hne] at closed
      exact loss?_eq_some.2 ⟨rfl, id, request, request', call, owner⟩
    | settle v outcome =>
      rw [endingOf] at closed
      split at closed
      · cases closed
      · cases closed
    | remember => cases closed
    | wake => cases closed
    | update => cases closed
  · left
    rw [h.channel?_step_of_ended hch hended e] at closed
    rw [hch, closed]

/-! ### Runs -/

/-- The dropped calls are different ones, and their channels are closed. -/
structure Closed (s : SharedCache) (lost : List Ticket) : Prop where
  closed {u : Ticket} (h : u ∈ lost) : s.cache.channel? u = some .closed
  nodup : lost.Nodup

theorem Closed.step (hc : s.Closed lost) (h : s.Sound) (t : Ticket) (e : CacheEvent) :
  (s.step e).Closed (lost ++ (s.loss? t e).toList)
  := by
  have stays {u : Ticket} (hu : u ∈ lost) : (s.step e).cache.channel? u = some .closed :=
    h.channel?_step_of_ended (hc.closed hu) nofun e
  rcases hloss : s.loss? t e with _ | u
  · rw [Option.toList_none, List.append_nil]
    exact ⟨stays, hc.nodup⟩
  · obtain ⟨rfl, id, request, request', -, resolves⟩ := loss?_eq_some.1 hloss
    rw [Option.toList_some]
    constructor
    · intro v hv
      obtain hv | hv := List.mem_append.1 hv
      · exact stays hv
      · cases List.mem_singleton.1 hv
        exact h.channel?_step_of_ending resolves (by simp [endingOf])
    · rw [List.nodup_append]
      refine ⟨hc.nodup, List.nodup_singleton u, ?_⟩
      rintro v hv _ hu rfl
      cases List.mem_singleton.1 hu
      -- the channel of a call that resolves its id is open
      have hclosed := hc.closed hv
      rw [h.channel resolves] at hclosed
      cases hclosed

/-- What a call has found so far: each time but the last it had to wait, for a call that has been
dropped since. -/
inductive Passed (s : SharedCache) (t : Ticket) (lost : List Ticket) : List Entrance → Prop where
  | unasked (free : s.call? t = none) : Passed s t lost []
  | asked {call : CacheCall} {earlier : List Ticket} {last : Entrance}
      (asked : s.call? t = some call) (dropped : earlier.Sublist lost)
      (fresh : ∀ channel, last = .waits channel → channel ∉ earlier)
      (waits : ∀ channel, call.phase = .waiting channel → last = .waits channel
        ∧ (s.cache.channel? channel = some .closed → (earlier ++ [channel]).Sublist lost)) :
      Passed s t lost (earlier.map .waits ++ [last])

namespace Passed

/-- A call that asks has waited for a dropped call each time before. -/
theorem pass (hp : s.Passed t lost past) (hc : s.Closed lost) (h : s.Sound)
    (hpass : s.pass? t e = some entrance) :
  (s.step e).Passed t lost (past ++ [entrance])
  := by
  obtain ⟨id, request, asks, found⟩ := pass?_eq_some.1 hpass
  have hasked := s.call?_ask t id request
  rw [found, ← asks.step_eq] at hasked
  have waits (channel : Ticket) (hphase : phaseOf entrance = .waiting channel) :
      entrance = .waits channel ∧ (s.step e).cache.channel? channel = some .unsettled := by
    have hwaits := phaseOf_eq_waiting.1 hphase
    rw [asks.step_eq]
    exact ⟨hwaits, (h.channel?_of_waits (found.trans hwaits)).2⟩
  have fresh {earlier : List Ticket} (dropped : earlier.Sublist lost) (channel : Ticket)
      (hwaits : entrance = .waits channel) : channel ∉ earlier := by
    intro hmem
    have hclosed := hc.closed (dropped.subset hmem)
    rw [(h.channel?_of_waits (found.trans hwaits)).1] at hclosed
    cases hclosed
  have next {earlier : List Ticket} (dropped : earlier.Sublist lost) :
      (s.step e).Passed t lost (earlier.map .waits ++ [entrance]) := by
    apply Passed.asked hasked dropped (fresh dropped)
    intro channel hphase
    obtain ⟨hwaits, hopen⟩ := waits channel hphase
    refine ⟨hwaits, fun hclosed => ?_⟩
    rw [hopen] at hclosed
    cases hclosed
  cases asks with
  | first free =>
    cases hp with
    | unasked => exact next (List.nil_sublist lost)
    | asked asked => cases free.symm.trans asked
  | again waiting closed =>
    cases hp with
    | unasked free => cases free.symm.trans waiting
    | @asked _ earlier last asked dropped _ hwaits =>
      cases waiting.symm.trans asked
      obtain ⟨rfl, hlost⟩ := hwaits _ rfl
      have hnext := next (hlost closed)
      rwa [List.map_append, List.map_singleton] at hnext

/-- A call that does not ask waits on, for a call that may be dropped, or comes to its end. -/
theorem rest (hp : s.Passed t lost past) (h : s.Sound) (hpass : s.pass? t e = none) :
  (s.step e).Passed t (lost ++ (s.loss? t e).toList) past
  := by
  have hstep := call?_step_of_not_pass hpass
  cases hp with
  | unasked free =>
    obtain hsame | ⟨call, call', hcall, -⟩ := hstep
    · exact .unasked (hsame.trans free)
    · cases free.symm.trans hcall
  | @asked call earlier last asked dropped fresh waits =>
    have dropped' : earlier.Sublist (lost ++ (s.loss? t e).toList) :=
      dropped.trans (List.sublist_append_left lost _)
    obtain hsame | ⟨_, call', -, hcall', hover⟩ := hstep
    · apply Passed.asked (hsame.trans asked) dropped' fresh
      intro channel hphase
      obtain ⟨hlast, hlost⟩ := waits channel hphase
      refine ⟨hlast, fun hclosed => ?_⟩
      obtain ⟨id, request, phase⟩ := call
      obtain rfl : phase = .waiting channel := hphase
      obtain hbefore | hloss := h.closed_of_step asked hclosed
      · exact (hlost hbefore).trans (List.sublist_append_left lost _)
      · rw [hloss, Option.toList_some]
        exact dropped.append (List.Sublist.refl _)
    · exact .asked hcall' dropped' fresh fun channel hphase => absurd hphase (hover channel)

theorem step (hp : s.Passed t lost past) (hc : s.Closed lost) (h : s.Sound) (e : CacheEvent) :
  (s.step e).Passed t (lost ++ (s.loss? t e).toList) (past ++ (s.pass? t e).toList)
  := by
  rcases hpass : s.pass? t e with _ | entrance
  · rw [Option.toList_none, List.append_nil]
    exact hp.rest h hpass
  · rw [loss?_of_pass hpass, Option.toList_none, List.append_nil]
    exact hp.pass hc h hpass

theorem steps (hp : s.Passed t lost past) (hc : s.Closed lost) (h : s.Sound)
    (events : List CacheEvent) :
  (s.steps events).Passed t (lost ++ s.losses t events) (past ++ s.passes t events)
    ∧ (s.steps events).Closed (lost ++ s.losses t events)
  := by
  induction events generalizing s lost past with
  | nil =>
    rw [losses, SharedCache.passes, List.append_nil, List.append_nil]
    exact ⟨hp, hc⟩
  | cons e events ih =>
    rw [losses, SharedCache.passes, ← List.append_assoc, ← List.append_assoc]
    exact ih (hp.step hc h e) (hc.step h t e) (h.step e)

end Passed

/-- What is lost in a run is dropped in one of its events, and is another call. -/
theorem mem_losses {events : List CacheEvent} (h : u ∈ s.losses t events) :
  .abort u ∈ events ∧ u ≠ t
  := by
  induction events generalizing s with
  | nil => cases h
  | cons e events ih =>
    rw [losses, List.mem_append, Option.mem_toList] at h
    obtain h | h := h
    · obtain ⟨rfl, id, request, request', waits, resolves⟩ := loss?_eq_some.1 h
      refine ⟨List.mem_cons_self, ?_⟩
      rintro rfl
      cases waits.symm.trans resolves
    · obtain ⟨hmem, hne⟩ := ih h
      exact ⟨List.mem_cons_of_mem e hmem, hne⟩

/-- A call that has waited each time but the last for a dropped call has asked at most once more
often than calls were dropped, and has never waited on one channel twice. -/
theorem Passed.bounded (hp : s.Passed t lost past) (hc : s.Closed lost) :
  (past.filterMap Entrance.awaited?).Nodup
    ∧ (∃ (earlier : List Ticket) (last : Option Entrance),
      past = earlier.map .waits ++ last.toList ∧ earlier.Sublist lost)
    ∧ past.length ≤ lost.length + 1
  := by
  have awaited (earlier : List Ticket) :
      (earlier.map Entrance.waits).filterMap Entrance.awaited? = earlier := by
    rw [List.filterMap_map]
    exact List.filterMap_some
  cases hp with
  | unasked => exact ⟨List.nodup_nil, ⟨[], none, rfl, List.nil_sublist lost⟩, Nat.zero_le _⟩
  | @asked call earlier last asked dropped fresh waits =>
    refine ⟨?_, ⟨earlier, some last, rfl, dropped⟩, ?_⟩
    · have nodup : earlier.Nodup := hc.nodup.sublist dropped
      rw [List.filterMap_append, awaited]
      cases last with
      | waits channel =>
        change (earlier ++ [channel]).Nodup
        rw [← List.concat_eq_append]
        exact nodup.concat (fresh channel rfl)
      | answered outcome =>
        change (earlier ++ []).Nodup
        rwa [List.append_nil]
      | resolves =>
        change (earlier ++ []).Nodup
        rwa [List.append_nil]
    · rw [List.length_append, List.length_map, List.length_singleton]
      exact Nat.succ_le_succ dropped.length_le

/-- A call goes round its loop no more often than others are dropped.  In every run of events on an
empty cache, each time that a call has asked for its id but for the last it had to wait, for another
call that was resolving the id and was dropped before it had an outcome while the first one waited
for it.  These are different calls, so it asks at most once more often than that; it never waits on
the same channel twice; and if no other call is dropped in the run, it asks only once. -/
theorem calls_ask_again_only_after_drops (events : List CacheEvent) (t : Ticket) :
  let passes := empty.passes t events
  let lost := empty.losses t events
  lost.Nodup
  ∧ (∀ u ∈ lost, .abort u ∈ events ∧ u ≠ t)
  ∧ (passes.filterMap Entrance.awaited?).Nodup
  ∧ (∃ (earlier : List Ticket) (last : Option Entrance),
      passes = earlier.map .waits ++ last.toList ∧ earlier.Sublist lost)
  ∧ passes.length ≤ lost.length + 1
  ∧ ((∀ u, u ≠ t → .abort u ∉ events) → passes.length ≤ 1)
  := by
  intro passes lost
  have unasked : empty.Passed t [] [] := .unasked rfl
  have nothing : empty.Closed [] := ⟨fun h => absurd h List.not_mem_nil, List.nodup_nil⟩
  obtain ⟨passed, closed⟩ := unasked.steps nothing sound_empty events
  obtain ⟨different, waited, few⟩ := passed.bounded closed
  refine ⟨closed.nodup, fun u hu => mem_losses hu, different, waited, few, ?_⟩
  intro undropped
  have none_lost : lost = [] := by
    apply List.eq_nil_iff_forall_not_mem.2
    intro u hu
    obtain ⟨hmem, hne⟩ := mem_losses hu
    exact undropped u hne hmem
  have few : passes.length ≤ lost.length + 1 := few
  rwa [none_lost] at few

-- two calls are dropped one after the other while a third one waits for them
example :
  let events : List CacheEvent := [.remember "a" ⟨"order"⟩ .empty, .remember "b" ⟨"order"⟩ .empty,
    .abort "a", .remember "c" ⟨"order"⟩ .empty, .wake "b", .abort "c", .wake "b"]
  empty.passes "b" events = [.waits "a", .waits "c", .resolves]
    ∧ empty.losses "b" events = ["a", "c"]
  := by
  decide +kernel

end SharedCache

end OrderDesk
