import OrderDesk.Proofs.Cache.Moves

/-!
# The ids that a cache knows

A shared cache knows the ids that have a slot and those that calls on it have asked for.  It comes
to know an id only when a new call asks for it or a response is put in its place.
-/

namespace OrderDesk

/-- The id that an event brings to a cache. -/
def CacheEvent.id? : CacheEvent → Option ClientId
  | .remember _ id _ => some id
  | .update id _ => some id
  | _ => none

namespace Cache

variable {c : Cache} {id other : ClientId}

theorem slot?_settle_of_ne (hne : other ≠ id) (fingerprint : Fingerprint) (outcome : Outcome) :
  (c.settle id fingerprint outcome).slot? other = c.slot? other
  := by
  rw [settle]
  split
  · rw [slot?_setChannel, slot?_store, if_neg hne]
  · rw [slot?_store, if_neg hne]

theorem slot?_abandon_of_ne (hne : other ≠ id) :
  (c.abandon id).slot? other = c.slot? other
  := by
  rw [abandon]
  split
  · rw [slot?_setChannel, slot?_freeSlot, if_neg hne]
  · rfl

end Cache

namespace SharedCache

variable {s : SharedCache} {t : Ticket} {id other : ClientId} {request : Payload}
  {phase : CallPhase} {e : CacheEvent}

/-- The id has a slot, or a call has asked for it. -/
inductive Knows (s : SharedCache) (id : ClientId) : Prop where
  | slot {slot : Slot} (h : s.cache.slot? id = some slot) : Knows s id
  | call {t : Ticket} {request : Payload} {phase : CallPhase}
      (h : s.call? t = some ⟨id, request, phase⟩) : Knows s id

/-- A call and a slot for one id make no other one known. -/
theorem knows_of_setCall {cache : Cache}
    (slots : ∀ other, other ≠ id → cache.slot? other = s.cache.slot? other)
    (h : ((s.setCache cache).setCall t ⟨id, request, phase⟩).Knows other) :
  other = id ∨ s.Knows other
  := by
  by_cases hne : other = id
  · exact .inl hne
  · right
    cases h with
    | slot h =>
      rw [cache_setCall, cache_setCache, slots other hne] at h
      exact .slot h
    | call h =>
      rw [call?_setCall, call?_setCache] at h
      split at h
      · cases h
        exact absurd rfl hne
      · exact .call h

/-- An id that a call asks for is brought by the event, or the call has asked for it before. -/
theorem Asks.knows (h : s.Asks t id request e) :
  s.Knows id ∨ e.id? = some id
  := by
  cases h with
  | first free => exact .inr rfl
  | again waits closed => exact .inl (.call waits)

/-- A cache comes to know only ids that are brought to it. -/
theorem Knows.of_step (h : (s.step e).Knows other) :
  s.Knows other ∨ e.id? = some other
  := by
  have known {id : ClientId} (hid : s.Knows id ∨ e.id? = some id)
      (heq : other = id ∨ s.Knows other) : s.Knows other ∨ e.id? = some other := by
    obtain rfl | hbefore := heq
    · exact hid
    · exact .inl hbefore
  have m := s.step_move e
  generalize s.step e = s' at m h
  cases m with
  | rest => exact .inl h
  | replay asks slot => exact known (.inl (.slot slot)) (knows_of_setCall (fun _ _ => rfl) h)
  | conflict asks slot => exact known (.inl (.slot slot)) (knows_of_setCall (fun _ _ => rfl) h)
  | join asks slot => exact known (.inl (.slot slot)) (knows_of_setCall (fun _ _ => rfl) h)
  | own asks =>
    apply known asks.knows
    apply knows_of_setCall _ h
    intro other hne
    rw [Cache.slot?_setChannel, Cache.slot?_setSlot, if_neg hne]
  | settle outcome call =>
    apply known (.inl (.call call))
    exact knows_of_setCall (fun _ hne => Cache.slot?_settle_of_ne hne _ outcome) h
  | deliver call => exact known (.inl (.call call)) (knows_of_setCall (fun _ _ => rfl) h)
  | abandon call =>
    apply known (.inl (.call call))
    exact knows_of_setCall (fun _ hne => Cache.slot?_abandon_of_ne hne) h
  | leave call => exact known (.inl (.call call)) (knows_of_setCall (fun _ _ => rfl) h)
  | update id response =>
    by_cases heq : other = id
    · exact .inr (congrArg some heq.symm)
    · left
      cases h with
      | slot h =>
        rw [cache_setCache, Cache.slot?_update, if_neg heq] at h
        exact .slot h
      | call h => exact .call h

end SharedCache

end OrderDesk
