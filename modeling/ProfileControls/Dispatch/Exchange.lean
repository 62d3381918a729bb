import ProfileControls.Dispatch.Gate
import ProfileControls.Dispatch.Server

/-!
# A gate and its server

A gate connected to a server in memory, by a line on which requests can be held back. A request
that reaches the line while it holds is parked there and goes on to the server only when it is
released; lifting the hold releases nothing. Everything that can go on without a held request does
so at once.
-/

namespace ProfileControls.Dispatch

/-- A request that is held back, under the name of its call. -/
structure Parked where
  ticket : Ticket
  request : Request
deriving DecidableEq, Repr

/-- A gate, its server, and the line between them. -/
structure Exchange where
  gate : Gate := {}
  server : Server := {}
  holding : Bool := false
  parked : List Parked := []

/-- A call that has ended. -/
structure Ended where
  ticket : Ticket
  outcome : Outcome

namespace Exchange

/-- The request of a call passes the server and comes back. -/
def passOn (x : Exchange) (p : Parked) : Exchange × List Effect :=
  let (reply, server) := x.server.perform p.request
  let (gate, effects) := x.gate.reply p.ticket reply
  ({ x with gate := gate, server := server }, effects)

/-- What one effect of the gate leads to: more effects, or the end of a call. -/
def follow (x : Exchange) : Effect → Exchange × List Effect × List Ended
  | .sent t request =>
    if x.holding then ({ x with parked := x.parked ++ [⟨t, request⟩] }, [], [])
    else
      let (x, effects) := x.passOn ⟨t, request⟩
      (x, effects, [])
  | .woken t =>
    let (gate, effects) := x.gate.resume t
    ({ x with gate := gate }, effects, [])
  | .ended t outcome => (x, [], [⟨t, outcome⟩])

/-- What a row of effects leads to, as far as `fuel` reaches, with the calls that end on the way. -/
def followAll : Nat → Exchange → List Effect → Exchange × List Ended
  | 0, x, _ => (x, [])
  | _, x, [] => (x, [])
  | fuel + 1, x, e :: effects =>
    let (x, more, ended) := x.follow e
    let (x, later) := followAll fuel x (effects ++ more)
    (x, ended ++ later)

/-- Each call is woken, sends its request and ends at most once, so this fuel always suffices. -/
def settle (x : Exchange) (effects : List Effect) : Exchange × List Ended :=
  followAll (effects.length + 3 * x.gate.calls.size) x effects

/-- Something happens at the gate, and all that can go on goes on. -/
def after (x : Exchange) (result : Gate × List Effect) : Exchange × List Ended :=
  ({ x with gate := result.1 } : Exchange).settle result.2

/-- Carry out an action, in its turn. -/
def dispatch (x : Exchange) (t : Ticket) (approved : Approved) (target : Target) :
    Exchange × List Ended :=
  x.after (x.gate.dispatch t approved target)

/-- Carry out an action at once or not at all. -/
def tryDispatch (x : Exchange) (t : Ticket) (approved : Approved) (target : Target) :
    Exchange × List Ended :=
  x.after (x.gate.tryDispatch t approved target)

/-- Release the parked request at a position, if there is one. -/
def release (x : Exchange) (position : Nat) : Option Request × Exchange × List Ended :=
  match x.parked[position]? with
  | none => (none, x, [])
  | some p =>
    let (x, effects) := ({ x with parked := x.parked.eraseIdx position } : Exchange).passOn p
    let (x, ended) := x.settle effects
    (some p.request, x, ended)

/-- Tell the gate a relationship that was fetched anew. -/
def reconcile (x : Exchange) (p : Pair) (r : Relationship) : Exchange :=
  { x with gate := x.gate.reconcile p r }

/-- Give the server a relationship. -/
def seed (x : Exchange) (p : Pair) (r : Relationship) : Exchange :=
  { x with server := x.server.seed p r }

/-- Let the server fail once more. -/
def failNext (x : Exchange) (fault : TransportFault) : Exchange :=
  { x with server := x.server.failNext fault }

/-- Begin or end to hold requests back. -/
def hold (x : Exchange) (on : Bool) : Exchange :=
  { x with holding := on }

end Exchange

end ProfileControls.Dispatch
