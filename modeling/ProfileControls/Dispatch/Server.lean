import ProfileControls.Dispatch.Request
import ProfileControls.Dispatch.Table
import ProfileControls.ActionEffect

/-!
# A server in memory

A server that keeps one relationship per pair and grants every request, except while failures are
queued: each queued failure is taken by one request, whichever comes next. It remembers all
requests it received.
-/

namespace ProfileControls.Dispatch

/-- A server: its relationships, the failures it still has to report, and the requests so far. -/
structure Server where
  relationships : Table Pair Relationship := {}
  failures : List TransportFault := []
  log : List Request := []

namespace Server

/-- The relationship of a pair. Pairs that the server never heard of are unrelated. -/
def relationship (s : Server) (p : Pair) : Relationship :=
  (s.relationships.get? p).getD .unrelated

/-- The server with a given relationship for a pair. -/
def seed (s : Server) (p : Pair) (r : Relationship) : Server :=
  { s with relationships := s.relationships.put p r }

/-- The server with one more failure to report. -/
def failNext (s : Server) (fault : TransportFault) : Server :=
  { s with failures := s.failures ++ [fault] }

/-- The reply to a request, and the server after it. -/
def perform (s : Server) (request : Request) : Reply × Server :=
  let s := { s with log := s.log ++ [request] }
  match s.failures with
  | fault :: failures => (.error fault, { s with failures := failures })
  | [] =>
    let p := request.target.pair
    let r := (s.relationship p).after request.action request.target.locked
    (.ok r, s.seed p r)

end Server

end ProfileControls.Dispatch
