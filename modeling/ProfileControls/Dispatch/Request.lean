import ProfileControls.Selection

/-!
# Requests

What is asked of the server in a viewer's name, and what can go wrong on the way. Requests are told
apart by their lane: the pair of accounts and the field of the relationship that they change.
-/

namespace ProfileControls.Dispatch

/-- A viewer and a subject. -/
structure Pair where
  viewer : AccountId
  subject : AccountId
deriving DecidableEq, Repr

/-- Whom an action is aimed at, and whether that account is locked. -/
structure Target where
  pair : Pair
  locked : Bool := false
deriving DecidableEq, Repr

/-- The subject as the target of the session's viewer, who has to be signed in. -/
def Target.ofSession? (session : Session) (subject : AccountId) : Option Target :=
  if session.signedIn then session.viewer.map fun viewer => { pair := ⟨viewer, subject⟩ } else none

/-- A request to the server. -/
structure Request where
  target : Target
  action : Action
deriving DecidableEq, Repr

/-- The pair of accounts and the field that requests have to take turns on. -/
structure LaneKey where
  pair : Pair
  field : RelationshipField
deriving DecidableEq, Repr

/-- The lane of a request that changes the relationship. -/
def Request.laneKey? (r : Request) : Option LaneKey :=
  r.action.field.map (⟨r.target.pair, ·⟩)

/-- Why a request came back without a relationship. -/
inductive TransportFault where
  /-- the server refused it -/
  | rejected (reason : String)
  /-- it did not arrive, or its reply was lost -/
  | network (reason : String)
deriving DecidableEq, Repr

/-- The wording of the fault. -/
def TransportFault.message : TransportFault → String
  | .rejected reason => "request rejected: " ++ reason
  | .network reason => "network failure: " ++ reason

/-- What comes back for a request: the relationship as the server has it now, or a fault. -/
abbrev Reply := Except TransportFault Relationship

/-- Why an action was not carried out. -/
inductive DispatchError where
  | notRelational (action : Action)
  | inFlight
  | transport (fault : TransportFault)
  | signedOut
deriving DecidableEq, Repr

/-- The wording of the error. -/
def DispatchError.message : DispatchError → String
  | .notRelational action => "action " ++ action.label ++ " does not change a relationship"
  | .inFlight => "a request for this relationship field is already in flight"
  | .transport fault => "transport failed: " ++ fault.message
  | .signedOut => "viewer is signed out"

/-- How a call ended. -/
abbrev Outcome := Except DispatchError Relationship

/-- The outcome of a call whose request got a reply. -/
def Reply.outcome (r : Reply) : Outcome :=
  r.mapError .transport

end ProfileControls.Dispatch
