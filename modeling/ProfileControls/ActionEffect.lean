import ProfileControls.Action
import ProfileControls.Relationship

/-!
# The effect of an action

What a server makes of a relationship when it grants an action. The side effects are the server's:
a block ends the follow in both directions, a domain block ends the viewer's follow, a mute covers
notifications at first, and following a locked account only asks for approval.
-/

namespace ProfileControls

/-- The relationship after the action is granted; `locked` tells whether the subject is locked. -/
def Relationship.after (r : Relationship) (action : Action) (locked : Bool) : Relationship :=
  match action with
  | .follow =>
    if locked then { r with requested := true }
    else { r with following := true, requested := false, showingReblogs := true }
  | .unfollow => { r with following := false, requested := false, notifying := false }
  | .withdrawRequest => { r with requested := false }
  | .hideReblogs => { r with showingReblogs := false }
  | .showReblogs => { r with showingReblogs := true }
  | .enableNotifications => { r with notifying := true }
  | .disableNotifications => { r with notifying := false }
  | .mute => { r with muting := true, mutingNotifications := true }
  | .unmute => { r with muting := false, mutingNotifications := false }
  | .muteNotifications => { r with mutingNotifications := true }
  | .unmuteNotifications => { r with mutingNotifications := false }
  | .block =>
    { r with
      blocking := true, following := false, requested := false, followedBy := false,
      notifying := false, endorsed := false }
  | .unblock => { r with blocking := false }
  | .blockDomain => { r with domainBlocking := true, following := false, requested := false }
  | .unblockDomain => { r with domainBlocking := false }
  | .endorse => { r with endorsed := true }
  | .unendorse => { r with endorsed := false }
  | .removeFromFollowers => { r with followedBy := false }
  | .mention | .directMention | .openHomePage | .changeLanguages | .manageLists | .report
  | .moderateAccount | .moderateDomain => r

/-- An action without a field changes nothing. -/
theorem Relationship.after_eq_self {r : Relationship} {action : Action} {locked : Bool}
    (h : action.field = none) : r.after action locked = r := by
  cases action <;> cases h <;> rfl

/-- No action touches the viewer's note. -/
@[simp] theorem Relationship.note_after (r : Relationship) (action : Action) (locked : Bool) :
    (r.after action locked).note = r.note := by
  cases action <;> cases locked <;> rfl

end ProfileControls
