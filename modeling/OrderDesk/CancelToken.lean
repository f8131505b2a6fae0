import OrderDesk.Fields

/-!
# Cancel tokens

A cancel token is a name for a signal.  Clones of a token are further names for its signal, so
that cancelling one cancels all of them, for good.  A task may wait for a signal; it is
released once the signal is given, whatever has become of the names in the meantime.
-/

namespace OrderDesk

/-- The tokens in use, the signals that were given and the tasks that wait for one. -/
structure CancelTokens where
  /-- The signal each token stands for. -/
  signalOf : Table Nat
  /-- How many signals there have been. -/
  signals : Nat
  /-- The signals that were given. -/
  given : List Nat
  /-- The signal each waiting task waits for. -/
  waiting : Table Nat

/-- What is done with a cancel token. -/
inductive TokenStep where
  | new (token : String)
  | clone (token copy : String)
  | drop (token : String)
  | cancel (token : String)
  | wait (task token : String)

namespace CancelTokens

/-- No tokens, no tasks. -/
def empty : CancelTokens := ⟨.empty, 0, [], .empty⟩

/-- The tokens after a step; a step on an unknown token changes nothing. -/
def step (t : CancelTokens) : TokenStep → CancelTokens
  | .new token => { t with signalOf := t.signalOf.insert token t.signals, signals := t.signals + 1 }
  | .clone token copy =>
    match t.signalOf.get? token with
    | some signal => { t with signalOf := t.signalOf.insert copy signal }
    | none => t
  | .drop token => { t with signalOf := t.signalOf.erase token }
  | .cancel token =>
    match t.signalOf.get? token with
    | some signal => { t with given := signal :: t.given }
    | none => t
  | .wait task token =>
    match t.signalOf.get? token with
    | some signal => { t with waiting := t.waiting.insert task signal }
    | none => t

/-- The tokens with whether each one is cancelled. -/
def states (t : CancelTokens) : List (String × Bool) :=
  t.signalOf.entries.map fun p => (p.1, t.given.contains p.2)

/-- The tasks whose signal has been given. -/
def released (t : CancelTokens) : List String :=
  (t.waiting.entries.filter fun p => t.given.contains p.2).map Prod.fst

/-- The tokens once the released tasks have gone. -/
def release (t : CancelTokens) : CancelTokens :=
  { t with waiting := t.released.foldl Table.erase t.waiting }

/-- The tasks that still wait. -/
def pending (t : CancelTokens) : List String := t.waiting.entries.map Prod.fst

end CancelTokens

end OrderDesk
