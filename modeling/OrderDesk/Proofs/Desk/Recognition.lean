import OrderDesk.Proofs.Desk.Reconciling
import OrderDesk.Proofs.Venue.Annotations

/-!
# Orders are recognised by their ids

A listed order is recognised by the first usable id that it shows, and the first place looked at is
the one where an annotation puts the client id.  So an order that had nothing there before it was
annotated is recognised by the id that it was submitted under, whatever else it shows; and a venue
that lists such orders for the known ids, and no others, agrees with the desk.
-/

namespace OrderDesk

namespace Venue

variable {venue : Venue} {id : ClientId} {order : Payload} {s : String}

/-- An order that carries a usable client id is recognised by it. -/
theorem token?_of_clientToken? (h : venue.clientToken? order = some s) :
  venue.token? order = some s
  := by
  obtain ⟨paths, hpaths⟩ : ∃ paths, venue.tokenPaths = venue.clientIdPath :: paths := by
    cases venue with
    | _ => exact ⟨_, rfl⟩
  rw [clientToken?] at h
  rw [token?, Payload.firstId?, hpaths, List.findSome?_cons, h]

/-- An annotated order is recognised by the id, if it carried nothing for the client id before. -/
theorem token?_annotate {response : Payload} (nonempty : id.text ≠ "")
    (unlabelled : response.lookup? venue.clientIdPath = none) (request : Payload) :
  venue.token? (venue.annotate id request response) = some id.text
  := by
  apply token?_of_clientToken?
  rw [clientToken?, lookup?_clientIdPath_annotate, unlabelled]
  exact if_neg nonempty

/-- The order has been annotated for an id that is not empty, and carried nothing for the client id
before. -/
def AnnotatedFor (venue : Venue) (id : ClientId) (order : Payload) : Prop :=
  id.text ≠ "" ∧ ∃ request response, response.lookup? venue.clientIdPath = none
    ∧ order = venue.annotate id request response

theorem AnnotatedFor.token? (h : venue.AnnotatedFor id order) :
  venue.token? order = some id.text
  := by
  obtain ⟨nonempty, request, response, unlabelled, rfl⟩ := h
  apply token?_annotate nonempty unlabelled

end Venue

namespace Desk

/-- A listing agrees with the desk if the tokens of its orders are the known ids. -/
theorem isClean_comparison_iff {d : Desk} {orders : List Payload} :
  (d.comparison orders).isClean = true
    ↔ ∀ id, d.IsResolved id ↔ ∃ order ∈ orders, d.venue.token? order = some id.text
  := by
  have listed (s : String) :
      Listed d.venue (.ok orders) s ↔ ∃ order ∈ orders, d.venue.token? order = some s := by
    simp [Listed]
  rw [(d.compares_comparison orders).isClean_iff]
  simp only [listed]
  constructor
  · rintro same ⟨s⟩
    exact same s
  · intro same s
    exact same ⟨s⟩

/-- Orders are recognised by the ids that they were submitted under.  An annotated response is
recognised by the id that it was annotated for if that is not empty and the response carried nothing
for the client id, whatever other names it has and whatever stands under them.  So when a
reconciliation has been listed such orders for all ids that are resolved as it compares, and no
other orders, in whatever order and however often, its report is clean. -/
theorem orders_are_recognised_by_their_ids (venue : Venue) :
  (∀ id request response, id.text ≠ "" → response.lookup? venue.clientIdPath = none →
    venue.token? (venue.annotate id request response) = some id.text)
  ∧ ∀ retry limiter token before t orders,
      let d := (opened venue retry limiter token).after before
      d.task? t = some (.comparing orders) →
      (∀ order ∈ orders, ∃ id, d.IsResolved id ∧ venue.AnnotatedFor id order) →
      (∀ id, d.IsResolved id → ∃ order ∈ orders, venue.AnnotatedFor id order) →
        ∃ r, (d.step (.compare t)).2 = [.finished t (.ok (.report r))] ∧ r.isClean = true
  := by
  constructor
  · intro id request response nonempty unlabelled
    apply Venue.token?_annotate nonempty unlabelled
  · intro retry limiter token before t orders d htask known listed
    have hvenue : d.venue = venue := venue_after _ before
    refine ⟨d.comparison orders, step_compare htask, ?_⟩
    rw [isClean_comparison_iff, hvenue]
    intro id
    constructor
    · intro resolved
      obtain ⟨order, hmem, annotated⟩ := listed id resolved
      exact ⟨order, hmem, annotated.token?⟩
    · rintro ⟨order, hmem, htoken⟩
      obtain ⟨id', resolved, annotated⟩ := known order hmem
      obtain rfl : id = id' := by
        apply ClientId.text_inj.1
        exact Option.some.inj (htoken.symm.trans annotated.token?)
      exact resolved

/-- OANDA has accepted two orders and lists the second one twice, with a text in place of the client
extensions and the other client id for an order id, and the first one with a tag in its client
extensions: the report is clean. -/
theorem orders_with_other_ids_are_recognised :
  let order : Order := .market "EUR_USD" .buy ⟨false, 1, 0, by decide, by decide⟩
  let first := Payload.ofList [("clientExtensions", .obj (.ofList [("tag", .str "t")]))]
  let second := Payload.ofList [("clientExtensions", .str "none"), ("id", .str "x")]
  let listed (id : String) (response : Payload) := Venue.oanda.annotate ⟨id⟩ .empty response
  let orders := [listed "y" second, listed "x" first, listed "y" second]
  let before : List DeskEvent := [
    .begin "a" (.submit order (some ⟨"x"⟩)), .resume "a" 0, .accepted "a" .empty,
    .begin "c" (.submit order (some ⟨"y"⟩)), .resume "c" 0, .accepted "c" .empty,
    .begin "b" .reconcile, .resume "b" 0, .listed "b" orders]
  let d := (opened Venue.oanda (.immediate 1) ⟨.perSecond 9, by decide, []⟩ none).after before
  d.task? "b" = some (.comparing orders)
  ∧ second.lookup? Venue.oanda.clientIdPath = none
  ∧ Venue.oanda.token? (listed "y" second) = some "y"
  ∧ (∀ id, d.IsResolved id ↔ id = ⟨"x"⟩ ∨ id = ⟨"y"⟩)
  ∧ (∀ order ∈ orders, ∃ id, d.IsResolved id ∧ Venue.oanda.AnnotatedFor id order)
  ∧ ∃ r, (d.step (.compare "b")).2 = [.finished "b" (.ok (.report r))] ∧ r.isClean = true
  := by
  intro order first second listed orders before d
  have comparing : d.task? "b" = some (.comparing orders) := by decide +kernel
  have resolved (id : ClientId) : d.IsResolved id ↔ id = ⟨"x"⟩ ∨ id = ⟨"y"⟩ := by
    have hkeys : d.cache.keys = [⟨"x"⟩, ⟨"y"⟩] := by decide +kernel
    rw [IsResolved, ← Cache.mem_keys, ← cache, hkeys]
    simp
  have unlabelled : second.lookup? Venue.oanda.clientIdPath = none := by decide +kernel
  have forX : Venue.oanda.AnnotatedFor ⟨"x"⟩ (listed "x" first) :=
    ⟨by decide, .empty, first, by decide +kernel, rfl⟩
  have forY : Venue.oanda.AnnotatedFor ⟨"y"⟩ (listed "y" second) :=
    ⟨by decide, .empty, second, unlabelled, rfl⟩
  have known : ∀ order ∈ orders, ∃ id, d.IsResolved id ∧ Venue.oanda.AnnotatedFor id order := by
    simp only [orders, List.forall_mem_cons, List.not_mem_nil, false_implies, implies_true,
      and_true]
    exact ⟨⟨⟨"y"⟩, (resolved _).2 (.inr rfl), forY⟩, ⟨⟨"x"⟩, (resolved _).2 (.inl rfl), forX⟩,
      ⟨"y"⟩, (resolved _).2 (.inr rfl), forY⟩
  obtain ⟨recognised, reconciles⟩ := orders_are_recognised_by_their_ids .oanda
  refine ⟨comparing, unlabelled, ?_, resolved, known, ?_⟩
  · exact recognised ⟨"y"⟩ .empty second (by decide) unlabelled
  · apply reconciles (.immediate 1) ⟨.perSecond 9, by decide, []⟩ none before "b" orders
      comparing known
    intro id hid
    obtain rfl | rfl := (resolved id).1 hid
    · exact ⟨_, List.mem_cons_of_mem _ List.mem_cons_self, forX⟩
    · exact ⟨_, List.mem_cons_self, forY⟩

end Desk

end OrderDesk
