import ProfileControls.ActionEffect
import ProfileControls.Dispatch.Request

/-!
# What is known of a pair

Of each pair the gate knows the relationship that the server last confirmed and the one to show.
The two differ only while requests are with the server.
-/

namespace ProfileControls.Dispatch

/-- What is known of a pair: the relationship last confirmed, and the one to show. -/
structure Entry where
  confirmed : Option Relationship := none
  shown : Option Relationship := none
deriving DecidableEq, Repr

/-- The entry of a relationship that the server has just confirmed. -/
def Entry.settled (r : Relationship) : Entry :=
  ⟨some r, some r⟩

/-- The entry while a request is with the server. An unknown relationship stays unknown. -/
def Entry.expecting (e : Entry) (request : Request) : Entry :=
  { e with shown := e.shown.map (·.after request.action request.target.locked) }

/-- The entry after a request has failed. -/
def Entry.rolledBack (e : Entry) : Entry :=
  { e with shown := e.confirmed }

end ProfileControls.Dispatch
