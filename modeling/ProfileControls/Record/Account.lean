import ProfileControls.Account
import ProfileControls.Record.Fields

/-!
# Accounts as records

The JSON form of accounts and of what belongs to them. Every type has a reader `ofJson?` and a
writer `toJson`; a writer gives every field in its declared order.
-/

namespace ProfileControls

open Json (Value)

namespace AccountId

def ofJson? (v : Value) : Option AccountId :=
  v.string?.map AccountId.mk

def toJson (id : AccountId) : Value :=
  .string id.text

end AccountId

namespace Handle

/-- An array has to give the domain too, if only as `null`. -/
def ofJson? (v : Value) : Option Handle := do
  let fields ← Record.fields? ["username", "domain"] v
  let username ← fields.required "username" Value.string?
  let domain ← fields.optional "domain" Value.string?
  match v with
  | .array [_] => none
  | _ => some ⟨username, domain⟩

def toJson (h : Handle) : Value :=
  .object [("username", .string h.username), ("domain", .orNull .string h.domain)]

end Handle

namespace Account

/-- The fields of an account in their declared order. -/
def keys : List String :=
  ["id", "username", "acct", "display_name", "url", "locked", "bot", "group", "suspended", "moved",
    "noindex", "memorial"]

def ofJson? (v : Value) : Option Account := do
  let fields ← Record.fields? keys v
  let id ← fields.required "id" AccountId.ofJson?
  let username ← fields.required "username" Value.string?
  let handleText ← fields.required "acct" Value.string?
  let displayName ← fields.orDefault "display_name" "" Value.string?
  let url ← fields.optional "url" Value.string?
  let locked ← fields.flag "locked"
  let bot ← fields.flag "bot"
  let group ← fields.flag "group"
  let suspended ← fields.flag "suspended"
  let moved ← fields.optional "moved" AccountId.ofJson?
  let noindex ← fields.flag "noindex"
  let memorial ← fields.flag "memorial"
  some { id, username, handleText, displayName, url, locked, bot, group, suspended, moved, noindex,
         memorial }

def toJson (a : Account) : Value :=
  .object [
    ("id", a.id.toJson),
    ("username", .string a.username),
    ("acct", .string a.handleText),
    ("display_name", .string a.displayName),
    ("url", .orNull .string a.url),
    ("locked", .bool a.locked),
    ("bot", .bool a.bot),
    ("group", .bool a.group),
    ("suspended", .bool a.suspended),
    ("moved", .orNull AccountId.toJson a.moved),
    ("noindex", .bool a.noindex),
    ("memorial", .bool a.memorial)]

end Account

namespace Lifecycle

/-- The value nests at most `room` deep around its content. -/
def ofJson? (room : Nat) (v : Value) : Option Lifecycle := do
  let ⟨tag, content⟩ ← Record.tagged? "state" "target" room v
  match ← Record.name? tag with
  | "active" => (Record.noContent? content).map fun _ => .active
  | "suspended" => (Record.noContent? content).map fun _ => .suspended
  | "moved" => (content >>= AccountId.ofJson?).map .moved
  | "suspended_and_moved" => (content >>= AccountId.ofJson?).map .suspendedAndMoved
  | _ => none

def toJson : Lifecycle → Value
  | .active => .object [("state", .string "active")]
  | .suspended => .object [("state", .string "suspended")]
  | .moved target => .object [("state", .string "moved"), ("target", target.toJson)]
  | .suspendedAndMoved target =>
    .object [("state", .string "suspended_and_moved"), ("target", target.toJson)]

end Lifecycle

end ProfileControls
