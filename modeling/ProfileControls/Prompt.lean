/-!
# Confirmation prompts

The dialogs that stand between some controls and their action. A prompt is determined by its kind,
which also names the messages that the dialog shows.
-/

namespace ProfileControls

/-- The kinds of confirmation dialogs. -/
inductive PromptKind where
  | removeFollower
  | mute
  | block
  | blockDomain
deriving DecidableEq, Repr

namespace PromptKind

/-- All kinds in their customary order. -/
def all : List PromptKind :=
  [.removeFollower, .mute, .block, .blockDomain]

/-- The name of the kind in records. -/
def name : PromptKind → String
  | .removeFollower => "remove_follower"
  | .mute => "mute"
  | .block => "block"
  | .blockDomain => "block_domain"

/-- The message ids of the dialog begin with this topic. -/
def topic : PromptKind → String
  | .removeFollower => "confirmations.remove_from_followers"
  | .mute => "confirmations.mute"
  | .block => "confirmations.block"
  | .blockDomain => "confirmations.domain_block"

end PromptKind

/-- A confirmation dialog: its kind and the message ids of its title, its body and its button. -/
structure Prompt where
  kind : PromptKind
  titleKey : String
  messageKey : String
  confirmKey : String
deriving DecidableEq, Repr

/-- The dialog of a kind. -/
def PromptKind.prompt (kind : PromptKind) : Prompt where
  kind := kind
  titleKey := kind.topic ++ ".title"
  messageKey := kind.topic ++ ".message"
  confirmKey := kind.topic ++ ".confirm"

end ProfileControls
