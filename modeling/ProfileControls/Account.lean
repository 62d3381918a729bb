import ProfileControls.Handle

/-!
# Accounts

The record of the account whose profile is shown. It is given by the account store and only read
here. Suspension and a move are independent of each other, and `Lifecycle` names all four
combinations.
-/

namespace ProfileControls

/-- The identifier that the server gave an account. It is only compared and written into links. -/
structure AccountId where
  text : String
deriving DecidableEq, Repr

/-- Whether an account is suspended and where it moved. -/
inductive Lifecycle where
  | active
  | suspended
  | moved (target : AccountId)
  | suspendedAndMoved (target : AccountId)
deriving DecidableEq, Repr

namespace Lifecycle

def isSuspended : Lifecycle → Bool
  | .suspended | .suspendedAndMoved _ => true
  | .active | .moved _ => false

/-- The account that this one moved to. -/
def movedTo : Lifecycle → Option AccountId
  | .moved target | .suspendedAndMoved target => some target
  | .active | .suspended => none

def isSuspendedOrMoved : Lifecycle → Bool
  | .active => false
  | _ => true

end Lifecycle

/-- An account. Its `handleText` is its handle as the store writes it, which need not be one. -/
structure Account where
  id : AccountId
  username : String
  handleText : String
  displayName : String := ""
  /-- the address of the profile on its home server -/
  url : Option String := none
  /-- follow requests wait for approval -/
  locked : Bool := false
  bot : Bool := false
  group : Bool := false
  suspended : Bool := false
  moved : Option AccountId := none
  /-- search engines are asked to stay away -/
  noindex : Bool := false
  memorial : Bool := false
deriving DecidableEq, Repr

namespace Account

/-- An active account of the local server. -/
def onLocalServer (id : AccountId) (username : String) : Account where
  id := id
  username := username
  handleText := username

/-- An active account of another server. -/
def onServer (id : AccountId) (username domain : String) : Account where
  id := id
  username := username
  handleText := username ++ "@" ++ domain

/-- The combination of suspension and move that the record shows. -/
def lifecycle (a : Account) : Lifecycle :=
  match a.suspended, a.moved with
  | false, none => .active
  | true, none => .suspended
  | false, some target => .moved target
  | true, some target => .suspendedAndMoved target

/-- The account's handle, if its text is one. -/
def handle (a : Account) : Except InvalidHandle Handle :=
  Handle.parse a.handleText

/-- The text of the handle has an `@`, whether or not it is a handle. -/
def hasDomainPart (a : Account) : Bool :=
  a.handleText.toList.contains '@'

/-- The lifecycle shows a suspension exactly when the record does. -/
@[simp] theorem isSuspended_lifecycle (a : Account) : a.lifecycle.isSuspended = a.suspended := by
  unfold lifecycle
  cases a.suspended <;> cases a.moved <;> rfl

/-- The lifecycle shows the move target of the record. -/
@[simp] theorem movedTo_lifecycle (a : Account) : a.lifecycle.movedTo = a.moved := by
  unfold lifecycle
  cases a.suspended <;> cases a.moved <;> rfl

end Account

end ProfileControls
