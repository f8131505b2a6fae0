/-!
# The last of the values that steps give

Where every step of a sequence writes the value that it gives to one place, if it gives one, and
otherwise leaves the place alone, the place holds the last of these values in the end.
-/

namespace OrderDesk

variable {α β σ : Type}

/-- The last of the values that steps give. -/
def lastGiven? (given : α → Option β) (steps : List α) : Option β :=
  (steps.filterMap given).getLast?

/-- The first step has its say only if no later one gives a value. -/
theorem lastGiven?_cons (given : α → Option β) (a : α) (steps : List α) :
  lastGiven? given (a :: steps) = (lastGiven? given steps).or (given a)
  := by
  rw [lastGiven?, lastGiven?]
  rcases h : given a with _ | value
  · rw [List.filterMap_cons_none h, Option.or_none]
  · rw [List.filterMap_cons_some h, List.getLast?_cons, Option.or_some]

/-- A place in which every step puts the value that it gives, if any, holds the last one in the
end. -/
theorem foldl_of_written {step : σ → α → σ} (place : σ → Option β) {given : α → Option β}
    (written : ∀ s a, place (step s a) = (given a).or (place s)) (s : σ) (steps : List α) :
  place (steps.foldl step s) = (lastGiven? given steps).or (place s)
  := by
  induction steps generalizing s with
  | nil => rfl
  | cons a steps ih =>
    calc place (steps.foldl step (step s a))
      _ = (lastGiven? given steps).or (place (step s a)) := ih _
      _ = (lastGiven? given steps).or ((given a).or (place s)) := by rw [written]
      _ = (lastGiven? given (a :: steps)).or (place s) := by rw [lastGiven?_cons, Option.or_assoc]

end OrderDesk
