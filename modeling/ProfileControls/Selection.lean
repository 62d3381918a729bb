import ProfileControls.Decision

/-!
# Selecting controls

Selecting a control yields a selection. Controls without a prompt are ready to be carried out; the
others are pending until the viewer answers the prompt, and only confirming a pending action
approves it.
-/

namespace ProfileControls

/-- An action that may be carried out. -/
structure Approved where
  action : Action
deriving DecidableEq, Repr

/-- An action whose prompt the viewer has not answered. -/
structure Pending where
  action : Action
  prompt : Prompt
deriving DecidableEq, Repr

/-- The viewer accepts the prompt. -/
def Pending.confirm (p : Pending) : Approved :=
  ⟨p.action⟩

/-- What selecting a control yields. -/
inductive Selection where
  | ready (approved : Approved)
  | needsConfirmation (pending : Pending)
deriving DecidableEq, Repr

namespace Selection

/-- The selection of an action that has the given prompt, if any. -/
def of (action : Action) : Option Prompt → Selection
  | none => .ready ⟨action⟩
  | some prompt => .needsConfirmation ⟨action, prompt⟩

/-- The selected action. -/
def action : Selection → Action
  | .ready approved => approved.action
  | .needsConfirmation pending => pending.action

/-- The action as approved, after its prompt is accepted if it has one. -/
def approved : Selection → Approved
  | .ready approved => approved
  | .needsConfirmation pending => pending.confirm

/-- What is selected is the action that was asked for. -/
@[simp] theorem action_of (action : Action) (prompt : Option Prompt) :
    (of action prompt).action = action := by
  cases prompt <;> rfl

/-- What is approved in the end is the action that was asked for. -/
@[simp] theorem approved_of (action : Action) (prompt : Option Prompt) :
    (of action prompt).approved = ⟨action⟩ := by
  cases prompt <;> rfl

end Selection

/-- The selection of a menu item. -/
def MenuItem.select (i : MenuItem) : Selection :=
  .of i.action i.prompt

/-- The selection of a primary action. -/
def PrimaryAction.select (p : PrimaryAction) : Selection :=
  .of p.action none

/-- The selection of a switch. -/
def Toggle.select (t : Toggle) : Selection :=
  .of t.action none

/-- The selection of a row's button, unless the button acts by itself. -/
def RowButton.select? (b : RowButton) : Option Selection :=
  b.action.map fun action => .of action (b.promptKind.map PromptKind.prompt)

/-- A place where a profile or a row may offer a control. -/
inductive Control where
  | primary
  | notify
  | reblogs
  /-- the menu's item with the given action -/
  | menu (action : Action)
  /-- the button of the row in a list with the given default -/
  | rowButton (default : RowDefault)
  /-- the first item of the menu of that row -/
  | rowMenu (default : RowDefault)
deriving DecidableEq, Repr

/-- The selection of what is offered in a place, if anything is. -/
def Control.select? (control : Control) (config : Config) (input : ProfileInput) :
    Option Selection :=
  match control with
  | .primary => (input.decide config).primaryAction.map PrimaryAction.select
  | .notify => (input.decide config).toggles.notify.map Toggle.select
  | .reblogs => (input.decide config).toggles.reblogs.map Toggle.select
  | .menu action =>
    ((Menu.items (input.decide config).menu).find? (·.action == action)).map MenuItem.select
  | .rowButton default => (input.row default).button.select?
  | .rowMenu default => (input.row default).menu.head?.map MenuItem.select

end ProfileControls
