import ProfileControls.Action
import ProfileControls.Visibility

/-!
# Toggles

The two switches of a profile header: the bell, for viewers who follow or asked to, and the
visibility of boosts, for viewers who follow and do not mute.
-/

namespace ProfileControls

/-- A switch: its present state, and the action that flips it. -/
structure Toggle where
  action : Action
  active : Bool
deriving DecidableEq, Repr

/-- The switches of a profile header. -/
structure Toggles where
  notify : Option Toggle := none
  reblogs : Option Toggle := none
deriving DecidableEq, Repr

namespace Toggles

def isEmpty (t : Toggles) : Bool :=
  t.notify.isNone && t.reblogs.isNone

/-- The switches for known ties. -/
def ofTies (t : Ties) : Toggles where
  notify :=
    if t.following || t.requested then
      some ⟨if t.notifying then .disableNotifications else .enableNotifications, t.notifying⟩
    else none
  reblogs :=
    if t.following && !t.muting then
      some ⟨if t.showingReblogs then .hideReblogs else .showReblogs, t.showingReblogs⟩
    else none

/-- The switches of a profile. -/
def resolve (s : Standing) (v : Visibility) (session : Session) : Toggles :=
  if v.redacted then {}
  else
    match s.actionableTies v session with
    | none => {}
    | some t => ofTies t

end Toggles

end ProfileControls
