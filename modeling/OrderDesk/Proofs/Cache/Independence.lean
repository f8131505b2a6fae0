import OrderDesk.Proofs.Cache.Calls
import OrderDesk.Proofs.Cache.Names

/-!
# Ids do not interfere

All that is done with a shared cache is about one id: a call asks for one, a response is put under
one, and one is looked up.  An event reads and writes only the slot of its id, and the calls on it
with their channels.  What is left of a run when only the actions about one id are kept is therefore
a run again, and in it the same is seen of each of these actions: no call on an id is blocked,
failed or altered by what goes on under other ids.
-/

namespace OrderDesk

/-- What is done with a shared cache. -/
inductive CacheAction where
  /-- A call gets on, or a response is put in place. -/
  | event (e : CacheEvent)
  /-- An id is looked up. -/
  | look (id : ClientId)

/-- What is seen of an action. -/
inductive CacheSight where
  /-- The phase that a call has come to. -/
  | phase (ticket : Ticket) (phase : Option CallPhase)
  /-- The entry of an id. -/
  | entry (entry : Option CacheEntry)
  | nothing
deriving DecidableEq

namespace SharedCache

/-- The id that an action is about. -/
def about? (s : SharedCache) : CacheAction → Option ClientId
  | .event (.remember _ id _) => some id
  | .event (.settle ticket _) => (s.call? ticket).map CacheCall.id
  | .event (.wake ticket) => (s.call? ticket).map CacheCall.id
  | .event (.abort ticket) => (s.call? ticket).map CacheCall.id
  | .event (.update id _) => some id
  | .look id => some id

/-- Whether an action can be taken: a call that begins has a ticket of its own, and any other event
finds the call in a phase from which it gets on. -/
def canTake (s : SharedCache) : CacheAction → Bool
  | .event (.remember ticket _ _) => (s.call? ticket).isNone
  | .event (.settle ticket _) => s.phase? ticket == some .resolving
  | .event (.wake ticket) => s.canWake ticket
  | .event (.abort ticket) =>
    match s.phase? ticket with
    | some .resolving => true
    | some (.waiting _) => true
    | _ => false
  | .event (.update _ _) => true
  | .look _ => true

/-- The cache and its calls after an action. -/
def take (s : SharedCache) : CacheAction → SharedCache
  | .event e => s.step e
  | .look _ => s

/-- What is seen of an action. -/
def sight (s : SharedCache) : CacheAction → CacheSight
  | .event e =>
    match e.ticket? with
    | some ticket => .phase ticket ((s.step e).phase? ticket)
    | none => .nothing
  | .look id => .entry (s.cache.entry? id)

/-- Whether the actions can be taken one after the other. -/
def canRun (s : SharedCache) : List CacheAction → Bool
  | [] => true
  | a :: run => s.canTake a && (s.take a).canRun run

/-- The cache and its calls after a run. -/
def run (s : SharedCache) (actions : List CacheAction) : SharedCache := actions.foldl take s

/-- The actions of a run that are about an id, with what is seen of each. -/
def account (s : SharedCache) (id : ClientId) : List CacheAction → List (CacheAction × CacheSight)
  | [] => []
  | a :: run =>
    if s.about? a = some id then (a, s.sight a) :: (s.take a).account id run
    else (s.take a).account id run

/-- The actions of a run that are about an id. -/
def own (s : SharedCache) (id : ClientId) (run : List CacheAction) : List CacheAction :=
  (s.account id run).map Prod.fst

variable {s s' : SharedCache} {a : CacheAction} {e : CacheEvent} {t u : Ticket}
  {id k : ClientId} {request : Payload}

/-! ### What an event changes -/

/-- Nothing has changed but the slot of the id, and the calls on it with their channels. -/
structure Confined (s s' : SharedCache) (id : ClientId) : Prop where
  slot {other : ClientId} (hne : other ≠ id) : s'.cache.slot? other = s.cache.slot? other
  call (t : Ticket) :
    (s'.call? t = s.call? t ∧ s'.cache.channel? t = s.cache.channel? t)
    ∨ (∀ call, s.call? t = some call → call.id = id)
      ∧ ∃ request phase, s'.call? t = some ⟨id, request, phase⟩

theorem Confined.refl (s : SharedCache) (id : ClientId) :
  s.Confined s id
  := ⟨fun _ => rfl, fun _ => .inl ⟨rfl, rfl⟩⟩

/-- A call on the id gets on while nothing changes but the slot of the id and its own channel. -/
theorem confined_setCall {c : Cache} {phase : CallPhase}
    (before : ∀ call, s.call? t = some call → call.id = id)
    (slots : ∀ other, other ≠ id → c.slot? other = s.cache.slot? other)
    (channels : ∀ u, u ≠ t → c.channel? u = s.cache.channel? u) :
  s.Confined ((s.setCache c).setCall t ⟨id, request, phase⟩) id
  := by
  constructor
  · intro other hne
    apply slots other hne
  · intro u
    rw [call?_setCall, call?_setCache]
    by_cases heq : u = t
    · right
      rw [if_pos heq, heq]
      exact ⟨before, request, phase, rfl⟩
    · left
      rw [if_neg heq]
      exact ⟨rfl, channels u heq⟩

theorem id_of_call? {call call' : CacheCall} (hcall : s.call? t = some call)
    (hcall' : s.call? t = some call') :
  call'.id = call.id
  := by
  cases hcall.symm.trans hcall'
  rfl

/-- A call that asks for an id is new, or has asked for that id before. -/
theorem Asks.id_of_call? (h : s.Asks t id request e) {call : CacheCall}
    (hcall : s.call? t = some call) :
  call.id = id
  := by
  cases h with
  | first free => cases free.symm.trans hcall
  | again waits => apply SharedCache.id_of_call? waits hcall

theorem Asks.about?_eq (h : s.Asks t id request e) :
  s.about? (.event e) = some id
  := by
  cases h with
  | first => rfl
  | again waits => simp [about?, waits]

/-- An event changes nothing but what belongs to the id that it is about. -/
theorem Sound.confined_step (h : s.Sound) (about : s.about? (.event e) = some id) :
  s.Confined (s.step e) id
  := by
  have m := s.step_move e
  generalize s.step e = s' at m
  cases m with
  | rest => exact .refl s id
  | replay asks =>
    cases asks.about?_eq.symm.trans about
    exact confined_setCall (c := s.cache) (fun _ => asks.id_of_call?) (fun _ _ => rfl)
      (fun _ _ => rfl)
  | conflict asks =>
    cases asks.about?_eq.symm.trans about
    exact confined_setCall (c := s.cache) (fun _ => asks.id_of_call?) (fun _ _ => rfl)
      (fun _ _ => rfl)
  | join asks =>
    cases asks.about?_eq.symm.trans about
    exact confined_setCall (c := s.cache) (fun _ => asks.id_of_call?) (fun _ _ => rfl)
      (fun _ _ => rfl)
  | own asks =>
    cases asks.about?_eq.symm.trans about
    apply confined_setCall (fun _ => asks.id_of_call?)
    · intro other hne
      simp [hne]
    · intro u hne
      simp [hne]
  | @settle t other request outcome call =>
    obtain rfl : other = id := by simpa [about?, call] using about
    rw [Cache.settle_of_pending (h.slot call)]
    apply confined_setCall (fun _ => id_of_call? call)
    · intro other hne
      simp [hne]
    · intro u hne
      simp [hne]
  | @deliver t other request channel outcome call =>
    obtain rfl : other = id := by simpa [about?, call] using about
    exact confined_setCall (c := s.cache) (fun _ => id_of_call? call) (fun _ _ => rfl)
      (fun _ _ => rfl)
  | @abandon t other request call =>
    obtain rfl : other = id := by simpa [about?, call] using about
    rw [Cache.abandon_of_pending (h.slot call)]
    apply confined_setCall (fun _ => id_of_call? call)
    · intro other hne
      simp [hne]
    · intro u hne
      simp [hne]
  | @leave t other request channel call =>
    obtain rfl : other = id := by simpa [about?, call] using about
    exact confined_setCall (c := s.cache) (fun _ => id_of_call? call) (fun _ _ => rfl)
      (fun _ _ => rfl)
  | update other response =>
    cases about
    constructor
    · intro other hne
      rw [cache_setCache, Cache.slot?_update, if_neg hne]
    · intro u
      left
      simp

/-! ### Two caches that agree on an id -/

/-- The second cache has the slot of the id and the calls on it with their channels as the first
one has them, and every ticket that is free at the first one is free at the second one. -/
structure Agrees (k : ClientId) (s s' : SharedCache) : Prop where
  slot : s'.cache.slot? k = s.cache.slot? k
  call {t : Ticket} {request : Payload} {phase : CallPhase} :
    s'.call? t = some ⟨k, request, phase⟩ ↔ s.call? t = some ⟨k, request, phase⟩
  channel {t : Ticket} {request : Payload} {phase : CallPhase}
    (h : s.call? t = some ⟨k, request, phase⟩) : s'.cache.channel? t = s.cache.channel? t
  free {t : Ticket} (h : s.call? t = none) : s'.call? t = none

namespace Agrees

theorem refl (k : ClientId) (s : SharedCache) :
  Agrees k s s
  := ⟨rfl, .rfl, fun _ => rfl, id⟩

/-- What is done at the first cache about another id has no bearing. -/
theorem other (h : Agrees k s s') {r : SharedCache} (confined : s.Confined r id) (hne : id ≠ k) :
  Agrees k r s'
  := by
  have onOther {t : Ticket} {request : Payload} {phase : CallPhase}
      (hcall : ∃ request phase, r.call? t = some ⟨id, request, phase⟩) :
      r.call? t ≠ some ⟨k, request, phase⟩ := by
    obtain ⟨request', phase', hcall⟩ := hcall
    rw [hcall]
    rintro ⟨⟩
    exact hne rfl
  constructor
  · rw [h.slot, confined.slot hne.symm]
  · intro t request phase
    rw [h.call]
    obtain ⟨hcall, -⟩ | ⟨before, after⟩ := confined.call t
    · rw [hcall]
    · constructor
      · intro hcall
        exact absurd (before _ hcall).symm hne
      · intro hcall
        exact absurd hcall (onOther after)
  · intro t request phase hcall
    obtain ⟨hsame, hchannel⟩ | ⟨-, after⟩ := confined.call t
    · rw [hsame] at hcall
      rw [h.channel hcall, hchannel]
    · exact absurd hcall (onOther after)
  · intro t hfree
    obtain ⟨hsame, -⟩ | ⟨-, request, phase, after⟩ := confined.call t
    · rw [hsame] at hfree
      apply h.free hfree
    · cases hfree.symm.trans after

/-- A call on the id gets on at both caches, while its slot comes to be the same at both and no
channel changes but its own. -/
theorem setCall (h : Agrees k s s') {c c' : Cache} {request : Payload} {phase : CallPhase}
    (hslot : c'.slot? k = c.slot? k) (hchannel : c'.channel? t = c.channel? t)
    (others : ∀ u, u ≠ t → c.channel? u = s.cache.channel? u)
    (others' : ∀ u, u ≠ t → c'.channel? u = s'.cache.channel? u) :
  Agrees k ((s.setCache c).setCall t ⟨k, request, phase⟩)
    ((s'.setCache c').setCall t ⟨k, request, phase⟩)
  := by
  constructor
  · exact hslot
  · intro u request' phase'
    simp only [call?_setCall, call?_setCache]
    split
    · rfl
    · apply h.call
  · intro u request' phase' hcall
    simp only [call?_setCall, call?_setCache] at hcall
    rw [cache_setCall, cache_setCall, cache_setCache, cache_setCache]
    split at hcall
    next heq => rw [heq, hchannel]
    next hne => rw [others' u hne, others u hne, h.channel hcall]
  · intro u hfree
    simp only [call?_setCall, call?_setCache] at hfree ⊢
    split at hfree
    · cases hfree
    next hne =>
      rw [if_neg hne]
      apply h.free hfree

/-- A call on the id gets on at both caches, which stay as they are. -/
theorem setCall_same (h : Agrees k s s') {request : Payload} {phase : CallPhase}
    (hchannel : s'.cache.channel? t = s.cache.channel? t) :
  Agrees k (s.setCall t ⟨k, request, phase⟩) (s'.setCall t ⟨k, request, phase⟩)
  := by
  apply h.setCall h.slot hchannel
  · intro u _
    rfl
  · intro u _
    rfl

/-- A call asks for the id at both caches and finds the same. -/
theorem ask (h : Agrees k s s') (hchannel : s'.cache.channel? t = s.cache.channel? t)
    (request : Payload) :
  Agrees k (s.ask t k request) (s'.ask t k request)
  := by
  rw [SharedCache.ask, SharedCache.ask]
  rcases hslot : s.cache.slot? k with _ | ⟨fingerprint, channel⟩ | entry
  · have hslot' := h.slot.trans hslot
    rw [Cache.enter_of_free hslot, Cache.enter_of_free hslot']
    apply h.setCall
    · simp
    · simp
    · intro u hne
      simp [hne]
    · intro u hne
      simp [hne]
  · have hslot' := h.slot.trans hslot
    by_cases hf : fingerprint = .of request
    · subst hf
      rw [Cache.enter_of_pending hslot, Cache.enter_of_pending hslot']
      apply h.setCall_same hchannel
    · rw [Cache.enter_of_conflict hslot hf, Cache.enter_of_conflict hslot' hf]
      apply h.setCall_same hchannel
  · have hslot' := h.slot.trans hslot
    rw [Cache.enter_of_resolved hslot, Cache.enter_of_resolved hslot']
    apply h.setCall_same hchannel

/-- The call that resolves the id gets on at both caches. -/
theorem settle (h : Agrees k s s') (hs : s.Sound)
    (call : s.call? t = some ⟨k, request, .resolving⟩) (outcome : Outcome) :
  Agrees k (s.step (.settle t outcome)) (s'.step (.settle t outcome))
  := by
  have hslot := hs.slot call
  rw [step_settle call, step_settle (h.call.2 call), Cache.settle_of_pending hslot,
    Cache.settle_of_pending (h.slot.trans hslot)]
  apply h.setCall
  · simp
  · simp
  · intro u hne
    simp [hne]
  · intro u hne
    simp [hne]

theorem abandon (h : Agrees k s s') (hs : s.Sound)
    (call : s.call? t = some ⟨k, request, .resolving⟩) :
  Agrees k (s.step (.abort t)) (s'.step (.abort t))
  := by
  have hslot := hs.slot call
  rw [step_abort_of_resolving call, step_abort_of_resolving (h.call.2 call),
    Cache.abandon_of_pending hslot, Cache.abandon_of_pending (h.slot.trans hslot)]
  apply h.setCall
  · simp
  · simp
  · intro u hne
    simp [hne]
  · intro u hne
    simp [hne]

/-- A response is put under the id at both caches. -/
theorem update (h : Agrees k s s') (response : Payload) :
  Agrees k (s.step (.update k response)) (s'.step (.update k response))
  := by
  constructor
  · simp only [step, SharedCache.update, cache_setCache, Cache.slot?_update, if_pos, h.slot]
  · intro t request phase
    apply h.call
  · intro t request phase hcall
    simp only [step, SharedCache.update, cache_setCache, Cache.channel?_update]
    apply h.channel hcall
  · intro t hfree
    apply h.free hfree

end Agrees

/-! ### Actions about the id -/

theorem exists_call?_of_id (about : (s.call? t).map CacheCall.id = some k) :
  ∃ request phase, s.call? t = some ⟨k, request, phase⟩
  := by
  obtain ⟨⟨_, request, phase⟩, call, rfl⟩ := Option.map_eq_some_iff.1 about
  exact ⟨request, phase, call⟩

theorem call?_of_phase? {phase : CallPhase} (about : (s.call? t).map CacheCall.id = some k)
    (hphase : s.phase? t = some phase) :
  ∃ request, s.call? t = some ⟨k, request, phase⟩
  := by
  obtain ⟨request, phase', call⟩ := exists_call?_of_id about
  rw [phase?, call] at hphase
  cases hphase
  exact ⟨request, call⟩

/-- After an event that is about an id its call is one on the id. -/
theorem Sound.exists_call?_step (h : s.Sound) (about : s.about? (.event e) = some k)
    (possible : s.canTake (.event e) = true) (ticket : e.ticket? = some t) :
  ∃ request phase, (s.step e).call? t = some ⟨k, request, phase⟩
  := by
  obtain ⟨same, -⟩ | ⟨-, after⟩ := (h.confined_step about).call t
  · cases e with
    | remember u id request =>
      cases ticket
      cases about
      have asks : s.Asks t k request (.remember t k request) := by
        apply Asks.first
        simpa [canTake] using possible
      rw [asks.step_eq]
      exact ⟨request, _, s.call?_ask t k request⟩
    | settle =>
      cases ticket
      rw [same]
      apply exists_call?_of_id about
    | wake =>
      cases ticket
      rw [same]
      apply exists_call?_of_id about
    | abort =>
      cases ticket
      rw [same]
      apply exists_call?_of_id about
    | update => cases ticket
  · exact after

/-- A call gets on when it looks at its channel only if it waits on one that has come to its
end. -/
theorem waiting_of_canWake (h : s.canWake t = true) :
  ∃ channel, s.phase? t = some (.waiting channel) ∧ s.cache.channel? channel ≠ some .unsettled
  := by
  rw [canWake] at h
  split at h
  next id request channel call =>
    use channel
    constructor
    · rw [phase?, call]
      rfl
    · intro unsettled
      simp [unsettled] at h
  · cases h

/-- A call that can be dropped resolves its id or waits. -/
theorem phase?_of_canTake_abort (h : s.canTake (.event (.abort t)) = true) :
  s.phase? t = some .resolving ∨ ∃ channel, s.phase? t = some (.waiting channel)
  := by
  rw [canTake] at h
  split at h
  next hphase => exact .inl hphase
  next channel hphase => exact .inr ⟨channel, hphase⟩
  · cases h

namespace Agrees

/-- A call on the id holds a channel that is the same at both caches. -/
theorem channel_of_waiting (h : Agrees k s s') (hs : s.Sound) {channel : Ticket}
    (call : s.call? t = some ⟨k, request, .waiting channel⟩) :
  s'.cache.channel? channel = s.cache.channel? channel
  := by
  obtain ⟨request', phase, owner, -⟩ := hs.waiter call
  apply h.channel owner

theorem phase?_eq (h : Agrees k s s') {phase : CallPhase}
    (call : s.call? t = some ⟨k, request, phase⟩) :
  s'.phase? t = s.phase? t
  := by
  rw [phase?, phase?, call, h.call.2 call]

/-- A call on the id gets on at the one cache if it does at the other. -/
theorem canWake_eq (h : Agrees k s s') (hs : s.Sound) {phase : CallPhase}
    (call : s.call? t = some ⟨k, request, phase⟩) :
  s'.canWake t = s.canWake t
  := by
  rw [canWake, canWake, call, h.call.2 call]
  cases phase with
  | waiting channel => simp only [h.channel_of_waiting hs call]
  | resolving => rfl
  | returned => rfl
  | dropped => rfl

/-- A waiting call on the id looks at its channel at both caches. -/
theorem wake (h : Agrees k s s') (hs : s.Sound) {channel : Ticket}
    (call : s.call? t = some ⟨k, request, .waiting channel⟩)
    (ended : s.cache.channel? channel ≠ some .unsettled) :
  Agrees k (s.step (.wake t)) (s'.step (.wake t))
  := by
  have call' := h.call.2 call
  have hchannel := h.channel_of_waiting hs call
  obtain ⟨-, -, -, -, state, hstate⟩ := hs.waiter call
  cases state with
  | unsettled => exact absurd hstate ended
  | settled outcome =>
    rw [step_wake_of_settled call hstate, step_wake_of_settled call' (hchannel.trans hstate)]
    apply h.setCall_same (h.channel call)
  | closed =>
    have asks : s.Asks t k request (.wake t) := .again call hstate
    have asks' : s'.Asks t k request (.wake t) := .again call' (hchannel.trans hstate)
    rw [asks.step_eq, asks'.step_eq]
    apply h.ask (h.channel call)

/-- An action about the id is about it at both caches. -/
theorem about?_eq (h : Agrees k s s') (about : s.about? a = some k) :
  s'.about? a = some k
  := by
  have ofCall {t : Ticket} (hcall : (s.call? t).map CacheCall.id = some k) :
      (s'.call? t).map CacheCall.id = some k := by
    obtain ⟨request, phase, call⟩ := exists_call?_of_id hcall
    rw [h.call.2 call]
    rfl
  cases a with
  | look => exact about
  | event e =>
    cases e with
    | remember => exact about
    | settle => exact ofCall about
    | wake => exact ofCall about
    | abort => exact ofCall about
    | update => exact about

/-- An action about the id that can be taken at the first cache can be taken at the second one. -/
theorem canTake (h : Agrees k s s') (hs : s.Sound) (about : s.about? a = some k)
    (possible : s.canTake a = true) :
  s'.canTake a = true
  := by
  cases a with
  | look => rfl
  | event e =>
    cases e with
    | remember t id request =>
      have free : s.call? t = none := by simpa [SharedCache.canTake] using possible
      simp [SharedCache.canTake, h.free free]
    | settle t outcome =>
      obtain ⟨request, phase, call⟩ := exists_call?_of_id about
      rw [SharedCache.canTake, h.phase?_eq call]
      exact possible
    | wake t =>
      obtain ⟨request, phase, call⟩ := exists_call?_of_id about
      rw [SharedCache.canTake, h.canWake_eq hs call]
      exact possible
    | abort t =>
      obtain ⟨request, phase, call⟩ := exists_call?_of_id about
      rw [SharedCache.canTake, h.phase?_eq call]
      exact possible
    | update => rfl

/-- An action about the id that is taken at both caches does the same to it. -/
theorem take (h : Agrees k s s') (hs : s.Sound) (hs' : s'.Sound) (about : s.about? a = some k)
    (possible : s.canTake a = true) :
  Agrees k (s.take a) (s'.take a)
  := by
  cases a with
  | look => exact h
  | event e =>
    cases e with
    | remember t id request =>
      cases about
      have free : s.call? t = none := by simpa [SharedCache.canTake] using possible
      have asks : s.Asks t k request (.remember t k request) := .first free
      have asks' : s'.Asks t k request (.remember t k request) := .first (h.free free)
      rw [SharedCache.take, SharedCache.take, asks.step_eq, asks'.step_eq]
      apply h.ask
      rw [hs.channel?_of_free free, hs'.channel?_of_free (h.free free)]
    | settle t outcome =>
      have hphase : s.phase? t = some .resolving := by simpa [SharedCache.canTake] using possible
      obtain ⟨request, call⟩ := call?_of_phase? about hphase
      apply h.settle hs call outcome
    | wake t =>
      obtain ⟨channel, hphase, ended⟩ := waiting_of_canWake possible
      obtain ⟨request, call⟩ := call?_of_phase? about hphase
      apply h.wake hs call ended
    | abort t =>
      obtain hphase | ⟨channel, hphase⟩ := phase?_of_canTake_abort possible
      · obtain ⟨request, call⟩ := call?_of_phase? about hphase
        apply h.abandon hs call
      · obtain ⟨request, call⟩ := call?_of_phase? about hphase
        rw [SharedCache.take, SharedCache.take, step_abort_of_waiting call,
          step_abort_of_waiting (h.call.2 call)]
        apply h.setCall_same (h.channel call)
    | update id response =>
      cases about
      apply h.update response

/-- The same is seen of an action about the id at both caches. -/
theorem sight_eq (h : Agrees k s s') (hs : s.Sound) (hs' : s'.Sound)
    (about : s.about? a = some k) (possible : s.canTake a = true) :
  s'.sight a = s.sight a
  := by
  have after := h.take hs hs' about possible
  cases a with
  | look id =>
    cases about
    rw [sight, sight, Cache.entry?, Cache.entry?, h.slot]
  | event e =>
    rw [sight, sight]
    rcases ticket : e.ticket? with _ | t
    · rfl
    · obtain ⟨request, phase, call⟩ := hs.exists_call?_step about possible ticket
      exact congrArg (CacheSight.phase t) (after.phase?_eq call)

end Agrees

/-! ### Runs -/

theorem Sound.take (h : s.Sound) (a : CacheAction) :
  (s.take a).Sound
  := by
  cases a with
  | event e => apply h.step e
  | look => exact h

theorem Sound.run (h : s.Sound) (actions : List CacheAction) :
  (s.run actions).Sound
  := by
  induction actions generalizing s with
  | nil => exact h
  | cons a rest ih => apply ih (h.take a)

/-- Every action that can be taken is about an id. -/
theorem exists_about? (possible : s.canTake a = true) :
  ∃ id, s.about? a = some id
  := by
  have ofPhase {t : Ticket} {phase : CallPhase} (hphase : s.phase? t = some phase) :
      ∃ id, (s.call? t).map CacheCall.id = some id := by
    obtain ⟨id, request, call⟩ := phase?_eq_some.1 hphase
    exact ⟨id, by rw [call]; rfl⟩
  cases a with
  | look id => exact ⟨id, rfl⟩
  | event e =>
    cases e with
    | remember _ id => exact ⟨id, rfl⟩
    | settle t outcome =>
      have hphase : s.phase? t = some .resolving := by simpa [canTake] using possible
      apply ofPhase hphase
    | wake t =>
      obtain ⟨channel, hphase, -⟩ := waiting_of_canWake possible
      apply ofPhase hphase
    | abort t =>
      obtain hphase | ⟨channel, hphase⟩ := phase?_of_canTake_abort possible
      · apply ofPhase hphase
      · apply ofPhase hphase
    | update id => exact ⟨id, rfl⟩

/-- An action about another id that is taken at the first cache has no bearing. -/
theorem Agrees.take_other (h : Agrees k s s') (hs : s.Sound) (possible : s.canTake a = true)
    (about : s.about? a ≠ some k) :
  Agrees k (s.take a) s'
  := by
  cases a with
  | look => exact h
  | event e =>
    obtain ⟨id, hid⟩ := exists_about? possible
    apply h.other (hs.confined_step hid)
    rintro rfl
    exact about hid

/-- The actions of a run about the id can be taken at the second cache without the others; the same
is then seen of them, and the caches agree afterwards. -/
theorem Agrees.run (h : Agrees k s s') (hs : s.Sound) (hs' : s'.Sound)
    {actions : List CacheAction} (possible : s.canRun actions = true) :
  s'.canRun (s.own k actions) = true
  ∧ s'.account k (s.own k actions) = s.account k actions
  ∧ Agrees k (s.run actions) (s'.run (s.own k actions))
  := by
  induction actions generalizing s s' with
  | nil => exact ⟨rfl, rfl, h⟩
  | cons a rest ih =>
    obtain ⟨hfirst, hrest⟩ := Bool.and_eq_true_iff.1 possible
    by_cases about : s.about? a = some k
    · have hown : s.own k (a :: rest) = a :: (s.take a).own k rest := by
        rw [own, account, if_pos about]
        rfl
      have about' := h.about?_eq about
      obtain ⟨hcan, haccount, hrun⟩ :=
        ih (h.take hs hs' about hfirst) (hs.take a) (hs'.take a) hrest
      rw [hown]
      refine ⟨?_, ?_, hrun⟩
      · rw [canRun, h.canTake hs about hfirst, hcan]
        rfl
      · rw [account, account, if_pos about, if_pos about', haccount,
          h.sight_eq hs hs' about hfirst]
    · have hown : s.own k (a :: rest) = (s.take a).own k rest := by
        rw [own, account, if_neg about]
        rfl
      rw [hown, account, if_neg about]
      exact ih (h.take_other hs hfirst about) (hs.take a) hs' hrest

/-- Ids do not interfere.  In a run of any calls, updates and lookups on a shared cache, whatever
has happened there before, the actions about one id can be taken one after the other without all
the others.  The same is then seen of each of them: every call on the id comes to the same phases
in the same steps, so that it waits, runs its resolver and returns as it did, and every lookup of
the id finds the same entry.  Afterwards the slot of the id is the same, the calls on it are the
same, and those that wait get on or are held up as they were. -/
theorem ids_do_not_interfere (earlier : List CacheEvent) (k : ClientId)
    (actions : List CacheAction) :
  let s := empty.steps earlier
  let alone := s.own k actions
  let now := s.run actions
  let nowAlone := s.run alone
  s.canRun actions = true →
    s.canRun alone = true
    ∧ s.account k alone = s.account k actions
    ∧ nowAlone.cache.slot? k = now.cache.slot? k
    ∧ (∀ t request phase, nowAlone.call? t = some ⟨k, request, phase⟩
        ↔ now.call? t = some ⟨k, request, phase⟩)
    ∧ ∀ t request phase, now.call? t = some ⟨k, request, phase⟩ →
        nowAlone.canWake t = now.canWake t
  := by
  intro s alone now nowAlone possible
  have hs : s.Sound := sound_steps earlier
  obtain ⟨hcan, haccount, agrees⟩ := (Agrees.refl k s).run hs hs possible
  refine ⟨hcan, haccount, agrees.slot, fun t request phase => agrees.call, ?_⟩
  intro t request phase call
  have hnow : now.Sound := hs.run actions
  apply agrees.canWake_eq hnow call

/-- While one call resolves an id and another one waits for it, a call on a second id is dropped,
one that conflicts with it fails, and a response is put under it.  The two calls on the first id
get on in the same way without all that. -/
theorem calls_return_alone_as_among_others :
  let x : ClientId := ⟨"x"⟩
  let y : ClientId := ⟨"y"⟩
  let request := Payload.empty.insert "qty" (.str "1")
  let response := Payload.empty.insert "status" (.str "accepted")
  let actions : List CacheAction := [
    .event (.remember "a" x request), .event (.remember "b" y request),
    .event (.remember "c" x request), .event (.remember "d" y .empty), .event (.abort "b"),
    .look y, .event (.settle "a" (.ok response)), .event (.update y .empty),
    .event (.wake "c"), .look x]
  empty.canRun actions = true
  ∧ (empty.account x (empty.own x actions)).map Prod.snd = [
    .phase "a" (some .resolving), .phase "c" (some (.waiting "a")),
    .phase "a" (some (.returned (.ok response))), .phase "c" (some (.returned (.ok response))),
    .entry (some ⟨.of request, response⟩)]
  := by
  intro x y request response actions
  have possible : empty.canRun actions = true := by decide +kernel
  obtain ⟨-, haccount, -⟩ := ids_do_not_interfere [] x actions possible
  constructor
  · exact possible
  · apply Eq.trans (congrArg (List.map Prod.snd) haccount)
    decide +kernel

end SharedCache

end OrderDesk
