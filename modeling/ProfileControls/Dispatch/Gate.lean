import ProfileControls.Dispatch.Entry
import ProfileControls.Dispatch.Lane
import ProfileControls.Dispatch.Table

/-!
# The gate

The gate stands between approved actions and the server. Requests in one lane take turns in the
order of their arrival, while lanes do not wait for each other. A call enters its lane, takes the
turn or waits for it, and leaves the lane when it has its outcome; a lane exists as long as some
call has entered and not left it.

While a request is with the server, the relationship is shown as if it had been granted. A reply
replaces what is shown by what the server says, a failure takes it back to what was last confirmed.

Each operation gives the gate after it together with its effects on the outside: requests that go
to the server, calls that can go on, and outcomes.
-/

namespace ProfileControls.Dispatch

/-- The gate: its lanes, the calls in them, and what is known of each pair. -/
structure Gate where
  lanes : Table LaneKey Lane := {}
  calls : Table Ticket Call := {}
  store : Table Pair Entry := {}

/-- What an operation of the gate brings about outside of it. -/
inductive Effect where
  /-- the request goes to the server -/
  | sent (ticket : Ticket) (request : Request)
  /-- the turn has come to a call that waited -/
  | woken (ticket : Ticket)
  /-- the call has ended -/
  | ended (ticket : Ticket) (outcome : Outcome)

namespace Gate

/-- The relationship to show for a pair. -/
def shown (g : Gate) (p : Pair) : Option Relationship :=
  (g.store.get? p).bind (·.shown)

/-- The relationship last confirmed for a pair. -/
def confirmed (g : Gate) (p : Pair) : Option Relationship :=
  (g.store.get? p).bind (·.confirmed)

/-- A lane, which is empty if there is none. -/
def lane (g : Gate) (k : LaneKey) : Lane :=
  (g.lanes.get? k).getD {}

/-- Some call has the turn in the lane. -/
def isInFlight (g : Gate) (k : LaneKey) : Bool :=
  (g.lanes.get? k).any (·.turn.isSome)

/-- The gate with a lane changed. -/
def withLane (g : Gate) (k : LaneKey) (l : Lane) : Gate :=
  { g with lanes := g.lanes.put k l }

/-- The gate with a call changed. -/
def withCall (g : Gate) (t : Ticket) (c : Call) : Gate :=
  { g with calls := g.calls.put t c }

/-- A call enters a lane, which comes into being if it is not there. -/
def enter (g : Gate) (k : LaneKey) : Gate :=
  let l := g.lane k
  g.withLane k { l with handles := l.handles + 1 }

/-- A call leaves a lane, which goes if that call was the last. -/
def leave (g : Gate) (k : LaneKey) : Gate :=
  let l := g.lane k
  if l.handles ≤ 1 then { g with lanes := g.lanes.erase k }
  else g.withLane k { l with handles := l.handles - 1 }

/-- What is known of a pair after one of its requests has gone to the server. -/
def expect (g : Gate) (request : Request) : Gate :=
  let p := request.target.pair
  { g with store := g.store.put p (((g.store.get? p).getD {}).expecting request) }

/-- What is known of a pair after one of its requests has come back. -/
def settle (g : Gate) (p : Pair) (reply : Reply) : Gate :=
  match reply with
  | .ok r => { g with store := g.store.put p (.settled r) }
  | .error _ =>
    match g.store.get? p with
    | none => g
    | some e => { g with store := g.store.put p e.rolledBack }

/-- A call that has the turn in its lane sends its request. -/
def send (g : Gate) (t : Ticket) (k : LaneKey) (request : Request) : Gate × List Effect :=
  ((g.withCall t ⟨request, k, .running⟩).expect request, [.sent t request])

/-- A call takes the free turn of its lane and sends its request. -/
def takeTurn (g : Gate) (t : Ticket) (k : LaneKey) (request : Request) : Gate × List Effect :=
  (g.withLane k { g.lane k with turn := some t }).send t k request

/-- A call lines up in its lane. -/
def lineUp (g : Gate) (t : Ticket) (k : LaneKey) (request : Request) : Gate :=
  let l := g.lane k
  (g.withLane k { l with queue := l.queue ++ [t] }).withCall t ⟨request, k, .waiting⟩

/-- Carry out an action, after all that is already in its lane. -/
def dispatch (g : Gate) (t : Ticket) (approved : Approved) (target : Target) :
    Gate × List Effect :=
  let request : Request := ⟨target, approved.action⟩
  match request.laneKey? with
  | none => (g, [.ended t (.error (.notRelational approved.action))])
  | some k =>
    let g := g.enter k
    if (g.lane k).turn.isNone then g.takeTurn t k request else (g.lineUp t k request, [])

/-- Carry out an action if its lane is free, and give up if it is not. -/
def tryDispatch (g : Gate) (t : Ticket) (approved : Approved) (target : Target) :
    Gate × List Effect :=
  let request : Request := ⟨target, approved.action⟩
  match request.laneKey? with
  | none => (g, [.ended t (.error (.notRelational approved.action))])
  | some k =>
    let g := g.enter k
    if (g.lane k).turn.isNone then g.takeTurn t k request
    else (g.leave k, [.ended t (.error .inFlight)])

/-- A call whose turn has come goes on. Other calls stay where they are. -/
def resume (g : Gate) (t : Ticket) : Gate × List Effect :=
  match g.calls.get? t with
  | some ⟨request, k, .granted⟩ => g.send t k request
  | _ => (g, [])

/-- The turn of a lane passes on, and the call that it comes to can go on. -/
def passTurn (g : Gate) (k : LaneKey) : Gate × List Effect :=
  let l := (g.lane k).passTurn
  let g := g.withLane k l
  match l.turn with
  | none => (g, [])
  | some t =>
    match g.calls.get? t with
    | none => (g, [])
    | some c => (g.withCall t { c with phase := .granted }, [.woken t])

/-- The reply to the request of a call ends that call. Other calls have no reply to get. -/
def reply (g : Gate) (t : Ticket) (r : Reply) : Gate × List Effect :=
  match g.calls.get? t with
  | some ⟨request, k, .running⟩ =>
    let g := { g.settle request.target.pair r with calls := g.calls.erase t }
    let (g, woken) := g.passTurn k
    (g.leave k, .ended t r.outcome :: woken)
  | _ => (g, [])

/-- A relationship that was fetched anew counts as confirmed. -/
def reconcile (g : Gate) (p : Pair) (r : Relationship) : Gate :=
  { g with store := g.store.put p (.settled r) }

/-- The gate in numbers: how many lanes there are, and of how many pairs something is known. -/
def summary (g : Gate) : String :=
  "ActionGate \x7b pending_keys: " ++ toString g.lanes.size ++ ", relationships: " ++
    toString g.store.size ++ " \x7d"

end Gate

end ProfileControls.Dispatch
