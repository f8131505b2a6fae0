import OrderDesk.Proofs.Cache.Ownership

/-!
# Where outcomes come from

A call returns what is stored under its id, a conflict on it, or the outcome with which it, or the
call that it has waited for, has settled.  What holds of all of these holds of every outcome that a
call has ever returned, also of one that is picked up from a channel long after the settlement.
-/

namespace OrderDesk

namespace SharedCache

variable {W : ClientId → Outcome → Prop} {s : SharedCache} {t : Ticket} {id : ClientId}
  {request : Payload}

/-- Every outcome that a call has returned is warranted under its id. -/
def Warranted (W : ClientId → Outcome → Prop) (s : SharedCache) : Prop :=
  ∀ t id request outcome, s.call? t = some ⟨id, request, .returned outcome⟩ → W id outcome

theorem warranted_empty :
  empty.Warranted W
  := by
  intro t id request outcome call
  cases call

/-- A call may return an outcome that is warranted. -/
theorem Warranted.setCall (h : s.Warranted W) {call : CacheCall}
    (hcall : ∀ outcome, call.phase = .returned outcome → W call.id outcome) :
  (s.setCall t call).Warranted W
  := by
  intro u id request outcome hu
  rw [call?_setCall] at hu
  split at hu
  · cases hu
    exact hcall outcome rfl
  · exact h u id request outcome hu

/-- What is stored and what is published is warranted, if settlements are and conflicts. -/
theorem Warranted.step (h : s.Warranted W) (hs : s.Sound) {e : CacheEvent}
    (stored : ∀ id entry, s.cache.slot? id = some (.resolved entry) → W id (.ok entry.response))
    (conflict : ∀ id, W id (.error (.fatal (.orderConflict id))))
    (settled : ∀ t id request outcome, e = .settle t outcome →
      s.call? t = some ⟨id, request, .resolving⟩ → W id outcome) :
  (s.step e).Warranted W
  := by
  have m := s.step_move e
  generalize s.step e = s' at m
  cases m with
  | rest => exact h
  | @replay t id request _ entry asks slot =>
    apply h.setCall
    intro outcome heq
    cases heq
    rw [CacheEntry.answer]
    split
    · exact stored id entry slot
    · exact conflict id
  | conflict =>
    apply h.setCall
    intro outcome heq
    cases heq
    exact conflict _
  | join => exact h.setCall (by rintro outcome ⟨⟩)
  | own => exact Warranted.setCall h (by rintro outcome ⟨⟩)
  | settle outcome call =>
    apply Warranted.setCall h
    intro outcome' heq
    cases heq
    exact settled _ _ _ outcome rfl call
  | @deliver t id request channel outcome call found =>
    -- the channel belongs to a call for the same id, which has returned the outcome
    obtain ⟨request', phase, howner, -⟩ := hs.waiter call
    obtain ⟨call', hcall, hrecord⟩ := hs.record found
    rw [howner] at hcall
    cases hcall
    obtain rfl : phase = .returned outcome := hrecord
    apply h.setCall
    intro outcome' heq
    cases heq
    exact h channel id request' outcome howner
  | abandon => exact Warranted.setCall h (by rintro outcome ⟨⟩)
  | leave => exact h.setCall (by rintro outcome ⟨⟩)
  | update => exact h

end SharedCache

end OrderDesk
