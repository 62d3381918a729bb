import ProfileControls.Dispatch.Exchange
import ProfileControls.Record.Answer

/-!
# Selections and requests as records

The JSON form of what selecting a control yields and of what is asked of the server.
-/

namespace ProfileControls

open Json (Value)

namespace PromptKind

/-- The kind with the given name. -/
def ofName? (s : String) : Option PromptKind :=
  all.find? (·.name == s)

end PromptKind

def Selection.toJson : Selection → Value
  | .ready approved =>
    .object [
      ("kind", .string "ready"),
      ("action", approved.action.toJson),
      ("approved", approved.action.toJson)]
  | .needsConfirmation pending =>
    .object [
      ("kind", .string "needs_confirmation"),
      ("action", pending.action.toJson),
      ("prompt", pending.prompt.toJson),
      ("approved", pending.confirm.action.toJson)]

def Dispatch.Request.toJson (r : Request) : Value :=
  .object [
    ("viewer", r.target.pair.viewer.toJson),
    ("subject", r.target.pair.subject.toJson),
    ("action", r.action.toJson),
    ("locked", .bool r.target.locked),
    ("field", .orNull RelationshipField.toJson r.action.field)]

end ProfileControls
