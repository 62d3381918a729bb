import ProfileControls.Action
import ProfileControls.Visibility

/-!
# The primary action

The one principal control of a profile. A block wins over everything else that could be offered,
then a pending request is offered for withdrawal, and what is left is to follow or to unfollow. A
subject that moved is offered to its followers only.
-/

namespace ProfileControls

/-- The principal control of a profile. -/
inductive PrimaryAction where
  | unblock
  | withdrawRequest
  | followToggle (following requiresApproval : Bool)
deriving DecidableEq, Repr

namespace PrimaryAction

/-- What activating the control asks for. -/
def action : PrimaryAction → Action
  | .unblock => .unblock
  | .withdrawRequest => .withdrawRequest
  | .followToggle true _ => .unfollow
  | .followToggle false _ => .follow

/-- The principal control for known ties, where `moved` tells whether the subject has moved. -/
def ofTies (t : Ties) (moved locked : Bool) : Option PrimaryAction :=
  if t.blocking then some .unblock
  else if moved && !t.following then none
  else if t.requested then some .withdrawRequest
  else some (.followToggle t.following locked)

/-- The principal control of a profile, if it has one. -/
def resolve (account : Account) (s : Standing) (v : Visibility) (session : Session) :
    Option PrimaryAction :=
  if !session.signedIn || s.isSelf || v.redacted then none
  else s.ties.bind fun t => ofTies t s.lifecycle.movedTo.isSome account.locked

end PrimaryAction

end ProfileControls
