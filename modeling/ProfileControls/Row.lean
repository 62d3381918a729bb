import ProfileControls.Menu.Item
import ProfileControls.Relationship
import ProfileControls.Session

/-!
# Account rows

In lists of accounts each row has one button and perhaps a small menu. The list decides which
button an account without any notable relationship gets.
-/

namespace ProfileControls

/-- The button that a list gives to accounts without a notable relationship. -/
inductive RowDefault where
  | follow
  | mute
  | block
deriving DecidableEq, Repr

namespace RowDefault

/-- All choices in their customary order. -/
def all : List RowDefault :=
  [.follow, .mute, .block]

/-- The name of the choice in records and on the command line. -/
def name : RowDefault → String
  | .follow => "follow"
  | .mute => "mute"
  | .block => "block"

end RowDefault

/-- The button of a row. The follow button and the link to one's own profile act by themselves. -/
inductive RowButton where
  | followButton
  | editProfile
  | unblock
  | unmute
  | mute
  | block
deriving DecidableEq, Repr

namespace RowButton

/-- The name of the button in records. -/
def name : RowButton → String
  | .followButton => "follow_button"
  | .editProfile => "edit_profile"
  | .unblock => "unblock"
  | .unmute => "unmute"
  | .mute => "mute"
  | .block => "block"

/-- What pressing the button asks for, unless the button acts by itself. -/
def action : RowButton → Option Action
  | .followButton | .editProfile => none
  | .unblock => some .unblock
  | .unmute => some .unmute
  | .mute => some .mute
  | .block => some .block

/-- The kind of prompt before the button's action, if there is one. -/
def promptKind : RowButton → Option PromptKind
  | .mute => some .mute
  | _ => none

end RowButton

/-- The controls of a row. -/
structure RowControls where
  button : RowButton
  menu : List MenuItem := []
deriving DecidableEq, Repr

namespace RowControls

/-- The controls for known ties. -/
def ofTies (t : Ties) (default : RowDefault) : RowControls :=
  if t.requested then ⟨.followButton, []⟩
  else if t.blocking then ⟨.unblock, []⟩
  else if t.muting then
    ⟨.unmute, [.plain (if t.mutingNotifications then .unmuteNotifications else .muteNotifications)]⟩
  else
    match default with
    | .follow => ⟨.followButton, []⟩
    | .mute => ⟨.mute, []⟩
    | .block => ⟨.block, []⟩

/-- The controls of the row of an account. -/
def resolve (account : Account) (relationship : Option Relationship) (session : Session)
    (default : RowDefault) : RowControls :=
  if session.isViewer account.id then ⟨.editProfile, []⟩
  else
    match relationship with
    | none => ⟨.followButton, []⟩
    | some r => if session.signedIn then ofTies r.toTies default else ⟨.followButton, []⟩

end RowControls

end ProfileControls
