import ProfileControls.Header
import ProfileControls.Menu.Sections
import ProfileControls.PrimaryAction
import ProfileControls.Row
import ProfileControls.Tag
import ProfileControls.Toggles

/-!
# Decisions

Everything that a profile shows its viewer in the way of controls, as one value and as a function
of what is known about the two. The row of the same account in a list is decided from the same
input.
-/

namespace ProfileControls

/-- What is known about a subject and its viewer. -/
structure ProfileInput where
  account : Account
  /-- the relationship, none if it has not been fetched -/
  relationship : Option Relationship := none
  session : Session := {}
  /-- the caller wants the subject hidden from the viewer -/
  hidden : Bool := false
deriving DecidableEq, Repr

/-- All that a profile shows. -/
structure Decision where
  primaryAction : Option PrimaryAction
  toggles : Toggles
  menu : List MenuEntry
  redacted : Bool
  visibility : Visibility
  tags : List Tag
  header : Header
deriving DecidableEq, Repr

namespace ProfileInput

/-- What is known about a subject whose viewer has no account. -/
def anonymous (account : Account) : ProfileInput where
  account := account

/-- How the subject stands to its viewer. -/
def standing (input : ProfileInput) (config : Config) : Standing :=
  .of input.account input.relationship input.session config input.hidden

/-- What the sections of the profile's menu are decided from. -/
def menuContext (input : ProfileInput) (config : Config) : Menu.Context where
  account := input.account
  standing := input.standing config
  visibility := (input.standing config).visibility
  session := input.session
  config := config

/-- All that the profile shows its viewer. -/
def decide (input : ProfileInput) (config : Config) : Decision :=
  let standing := input.standing config
  let visibility := standing.visibility
  { primaryAction := PrimaryAction.resolve input.account standing visibility input.session
    toggles := Toggles.resolve standing visibility input.session
    menu := (input.menuContext config).entries
    redacted := visibility.redacted
    visibility := visibility
    tags := Tag.resolve standing visibility
    header := Header.resolve input.account standing visibility input.session config }

/-- The controls of the subject's row in a list. -/
def row (input : ProfileInput) (default : RowDefault) : RowControls :=
  RowControls.resolve input.account input.relationship input.session default

end ProfileInput

end ProfileControls
