import ProfileControls.Decision
import ProfileControls.Record.Viewer

/-!
# Inputs as records

The JSON form of configurations, of complete inputs, and of the constants that requests name.
-/

namespace ProfileControls

open Json (Value)

namespace Action

def ofJson? : Value → Option Action :=
  Record.named? all name

def toJson (a : Action) : Value :=
  .string a.name

end Action

namespace RelationshipField

def ofJson? : Value → Option RelationshipField :=
  Record.named? all name

def toJson (f : RelationshipField) : Value :=
  .string f.name

end RelationshipField

namespace RowDefault

def ofJson? : Value → Option RowDefault :=
  Record.named? all name

def toJson (d : RowDefault) : Value :=
  .string d.name

end RowDefault

namespace Config

/-- The fields of a configuration in their declared order. -/
def keys : List String :=
  ["local_domain", "admin_path_prefix"]

def ofJson? (v : Value) : Option Config := do
  let fields ← Record.fields? keys v
  let standard : Config := {}
  let localDomain ← fields.orDefault "local_domain" standard.localDomain Value.string?
  let adminPathPrefix ← fields.orDefault "admin_path_prefix" standard.adminPathPrefix Value.string?
  some { localDomain, adminPathPrefix }

def toJson (c : Config) : Value :=
  .object [
    ("local_domain", .string c.localDomain),
    ("admin_path_prefix", .string c.adminPathPrefix)]

end Config

namespace ProfileInput

/-- The fields of an input in their declared order. -/
def keys : List String :=
  ["account", "relationship", "session", "hidden"]

/-- The input that a value nesting at most `room` deep around relationships writes. -/
def ofJson? (room : Nat) (v : Value) : Option ProfileInput := do
  let fields ← Record.fields? keys v
  let account ← fields.required "account" Account.ofJson?
  let relationship ← fields.orDefault "relationship" none (Relationship.stateOfJson? room)
  let session ← fields.orDefault "session" {} Session.ofJson?
  let hidden ← fields.flag "hidden"
  some { account, relationship, session, hidden }

def toJson (input : ProfileInput) : Value :=
  .object [
    ("account", input.account.toJson),
    ("relationship", Relationship.stateToJson input.relationship),
    ("session", input.session.toJson),
    ("hidden", .bool input.hidden)]

end ProfileInput

end ProfileControls
