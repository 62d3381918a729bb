import ProfileControls.Dispatch.Request

/-!
# Lanes and the calls in them

Requests in one lane take turns. A lane knows its calls by their tickets: the one that has the
turn, the ones that wait for it in the order of their arrival, and how many have entered the lane
and not left it.
-/

namespace ProfileControls.Dispatch

/-- What a call goes by. No two calls of a run have the same ticket. -/
abbrev Ticket := Nat

/-- How far a call has come. -/
inductive Phase where
  /-- in the queue of its lane -/
  | waiting
  /-- its turn has come, but it has not gone on yet -/
  | granted
  /-- its request is with the server -/
  | running
deriving DecidableEq, Repr

/-- A call without an outcome as yet. -/
structure Call where
  request : Request
  lane : LaneKey
  phase : Phase
deriving DecidableEq, Repr

/-- A lane: who has the turn, who waits for it, and how many calls have entered and not left. -/
structure Lane where
  turn : Option Ticket := none
  queue : List Ticket := []
  handles : Nat := 0
deriving DecidableEq, Repr

/-- The lane when the turn is given up: it goes to the first in the queue. -/
def Lane.passTurn (l : Lane) : Lane :=
  { l with turn := l.queue.head?, queue := l.queue.tail }

end ProfileControls.Dispatch
