import ProfileControls.Action
import ProfileControls.Prompt

/-!
# Menu items

An entry of a menu is either a separator or an item. Items that lead somewhere carry a link, and
items that have to be confirmed carry their prompt.
-/

namespace ProfileControls

/-- A selectable entry of a menu. -/
structure MenuItem where
  label : String
  action : Action
  dangerous : Bool := false
  href : Option String := none
  prompt : Option Prompt := none
deriving DecidableEq, Repr

namespace MenuItem

/-- A harmless item that is carried out at once. -/
def plain (action : Action) : MenuItem where
  label := action.label
  action := action

/-- An item that leads to an address. -/
def link (action : Action) (href : String) : MenuItem :=
  { plain action with href := some href }

/-- The item marked as dangerous. -/
def asDangerous (item : MenuItem) : MenuItem :=
  { item with dangerous := true }

/-- The item with a prompt of the given kind before it. -/
def confirmedBy (item : MenuItem) (kind : PromptKind) : MenuItem :=
  { item with prompt := some kind.prompt }

/-- The item is carried out only after a prompt. -/
def requiresConfirmation (item : MenuItem) : Bool :=
  item.prompt.isSome

end MenuItem

/-- An entry of a menu. -/
inductive MenuEntry where
  | separator
  | item (item : MenuItem)
deriving DecidableEq, Repr

namespace MenuEntry

def isSeparator : MenuEntry → Bool
  | .separator => true
  | .item _ => false

/-- The item of an entry that is no separator. -/
def item? : MenuEntry → Option MenuItem
  | .separator => none
  | .item i => some i

end MenuEntry

end ProfileControls
