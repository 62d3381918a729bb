import ProfileControls.Record.Account
import ProfileControls.Relationship
import ProfileControls.Session

/-!
# Viewers as records

The JSON form of relationships, sessions and permissions. A relationship that may be unknown is
written as a tagged value, since an unknown relationship is not a record without flags.
-/

namespace ProfileControls

open Json (Value)

namespace Relationship

/-- The fields of a relationship in their declared order. -/
def keys : List String :=
  ["following", "requested", "followed_by", "requested_by", "blocking", "blocked_by", "muting",
    "muting_notifications", "domain_blocking", "showing_reblogs", "notifying", "endorsed", "note"]

def ofJson? (v : Value) : Option Relationship := do
  let fields ← Record.fields? keys v
  let following ← fields.flag "following"
  let requested ← fields.flag "requested"
  let followedBy ← fields.flag "followed_by"
  let requestedBy ← fields.flag "requested_by"
  let blocking ← fields.flag "blocking"
  let blockedBy ← fields.flag "blocked_by"
  let muting ← fields.flag "muting"
  let mutingNotifications ← fields.flag "muting_notifications"
  let domainBlocking ← fields.flag "domain_blocking"
  let showingReblogs ← fields.flag "showing_reblogs"
  let notifying ← fields.flag "notifying"
  let endorsed ← fields.flag "endorsed"
  let note ← fields.orDefault "note" "" Value.string?
  some { following, requested, followedBy, requestedBy, blocking, blockedBy, muting,
         mutingNotifications, domainBlocking, showingReblogs, notifying, endorsed, note }

end Relationship

/-- The members of a record that gives the flags, without any other field. -/
def Ties.members (t : Ties) : List (String × Value) :=
  [("following", .bool t.following),
    ("requested", .bool t.requested),
    ("followed_by", .bool t.followedBy),
    ("requested_by", .bool t.requestedBy),
    ("blocking", .bool t.blocking),
    ("blocked_by", .bool t.blockedBy),
    ("muting", .bool t.muting),
    ("muting_notifications", .bool t.mutingNotifications),
    ("domain_blocking", .bool t.domainBlocking),
    ("showing_reblogs", .bool t.showingReblogs),
    ("notifying", .bool t.notifying),
    ("endorsed", .bool t.endorsed)]

namespace Relationship

def toJson (r : Relationship) : Value :=
  .object (r.toTies.members ++ [("note", .string r.note)])

/-- The relationship, or that it is unknown, from a value that nests at most `room` deep. -/
def stateOfJson? (room : Nat) (v : Value) : Option (Option Relationship) := do
  let ⟨tag, content⟩ ← Record.tagged? "status" "relationship" room v
  match ← Record.name? tag with
  | "unknown" => (Record.noContent? content).map fun _ => none
  | "loaded" => (content >>= ofJson?).map some
  | _ => none

/-- The relationship, or that it is unknown. -/
def stateToJson : Option Relationship → Value
  | none => .object [("status", .string "unknown")]
  | some r => .object [("status", .string "loaded"), ("relationship", r.toJson)]

end Relationship

namespace Permissions

/-- A mask is written as a plain number of at most 64 bits. -/
def ofJson? (v : Value) : Option Permissions := do
  let n ← v.nat?
  if n < UInt64.size then some ⟨UInt64.ofNat n⟩ else none

def toJson (p : Permissions) : Value :=
  .nat p.bits.toNat

end Permissions

namespace Session

/-- The fields of a session in their declared order. -/
def keys : List String :=
  ["signed_in", "viewer_account_id", "permissions"]

def ofJson? (v : Value) : Option Session := do
  let fields ← Record.fields? keys v
  let signedIn ← fields.flag "signed_in"
  let viewer ← fields.optional "viewer_account_id" AccountId.ofJson?
  let permissions ← fields.orDefault "permissions" {} Permissions.ofJson?
  some { signedIn, viewer, permissions }

def toJson (s : Session) : Value :=
  .object [
    ("signed_in", .bool s.signedIn),
    ("viewer_account_id", .orNull AccountId.toJson s.viewer),
    ("permissions", s.permissions.toJson)]

end Session

end ProfileControls
