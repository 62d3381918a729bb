import ProfileControls.Dispatch.Gate

/-!
# Runs of the gate

What can happen to a gate, one event at a time: calls arrive, go on when their turn has come, and
get replies, in any order that the outside chooses. A run is a list of events.
-/

namespace ProfileControls.Dispatch

/-- What can happen to a gate. A new call comes with the ticket that it goes by from then on. -/
inductive Event where
  | dispatch (ticket : Ticket) (approved : Approved) (target : Target)
  | tryDispatch (ticket : Ticket) (approved : Approved) (target : Target)
  | resume (ticket : Ticket)
  | reply (ticket : Ticket) (r : Reply)
  | reconcile (p : Pair) (r : Relationship)

/-- The ticket of the call that an event starts. -/
def Event.newTicket? : Event → Option Ticket
  | .dispatch ticket _ _ | .tryDispatch ticket _ _ => some ticket
  | .resume _ | .reply _ _ | .reconcile _ _ => none

namespace Gate

/-- The gate after an event, and what the event brings about. -/
def step (g : Gate) : Event → Gate × List Effect
  | .dispatch ticket approved target => g.dispatch ticket approved target
  | .tryDispatch ticket approved target => g.tryDispatch ticket approved target
  | .resume ticket => g.resume ticket
  | .reply ticket r => g.reply ticket r
  | .reconcile p r => (g.reconcile p r, [])

/-- The gate after a run of events, and all that the run brings about, in order. -/
def run (g : Gate) : List Event → Gate × List Effect
  | [] => (g, [])
  | e :: events =>
    let (g, now) := g.step e
    let (g, later) := g.run events
    (g, now ++ later)

end Gate

end ProfileControls.Dispatch
