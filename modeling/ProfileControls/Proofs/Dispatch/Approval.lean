import ProfileControls.Proofs.Dispatch.Lanes
import ProfileControls.Proofs.Profile.Widgets

/-!
# Approved requests

A gate carries out whatever is approved, and an approval says nothing of where it comes from. But
where every approval comes from a widget that was shown to the viewer (`History.PressedBy`), the
requests that go to the server are the actions of those widgets, and the viewer has accepted the
prompt of each action that has one. Only the button with which a row blocks goes without
(`History.accepted_of_sent`).
-/

namespace ProfileControls.Dispatch

/-- A widget that was shown to a viewer and pressed, with the prompt that the viewer accepted. -/
structure Press where
  input : ProfileInput
  config : Config
  default : RowDefault
  widget : Widget
  shown : widget ∈ input.widgets config default
  accepted : Option Prompt

namespace History

/-- Every call carries out what was approved by the press of its ticket. -/
def PressedBy (h : History) (press : Ticket → Press) : Prop :=
  ∀ e ∈ h.events, ∀ c, e.errand? = some c →
    Approval (press c.ticket).widget ⟨c.request.action⟩ (press c.ticket).accepted

variable {h : History} {press : Ticket → Press} {c : Errand}

/-- What goes to the server was approved. -/
lemma PressedBy.approval (pressed : h.PressedBy press) (fresh : h.Fresh) (sent : c ∈ h.sent) :
    Approval (press c.ticket).widget ⟨c.request.action⟩ (press c.ticket).accepted := by
  obtain ⟨e, mem, call⟩ := List.mem_filterMap.1 (fresh.faithful.sent c sent)
  exact pressed e mem c call

/-- Selecting a widget leads to the widget's own action. Items ask first if they remove a follower,
mute, block or block a domain, and only then. So the viewer has accepted the prompt of every such
request that goes to the server, unless it is a block by the button of a row. -/
theorem accepted_of_sent :
    (∀ w : Widget, w.select?.map Selection.action = w.action? ∧
      w.select?.map (·.approved.action) = w.action?) ∧
    (∀ (input : ProfileInput) (config : Config) (default : RowDefault) (i : MenuItem),
      .item i ∈ input.widgets config default → i.Guarded) ∧
    ∀ (h : History) (press : Ticket → Press), h.Fresh → h.PressedBy press → ∀ c ∈ h.sent,
      (press c.ticket).widget.action? = some c.request.action ∧
      ∀ kind, c.request.action.promptKind? = some kind →
        (press c.ticket).accepted = some kind.prompt ∨
          c.request.action = .block ∧ (press c.ticket).widget = .rowButton .block := by
  refine ⟨Widget.action_select?, fun _ _ _ _ => ProfileInput.guarded_of_shown, ?_⟩
  intro h press fresh pressed c sent
  have approval := pressed.approval fresh sent
  have own := approval.eq.1
  refine ⟨own, fun kind asks => ?_⟩
  obtain accepted | ⟨blocks, -⟩ := ProfileInput.prompt_of_approval (press c.ticket).shown approval
  · rw [accepted]
    exact .inl (congrArg (Option.map PromptKind.prompt) asks)
  · rw [blocks] at own
    exact .inr ⟨(Option.some.inj own).symm, blocks⟩

/-- A viewer and a subject who have nothing to do with each other. -/
def sampleStranger : ProfileInput where
  account := Account.onLocalServer ⟨"1"⟩ "alice"
  relationship := some .unrelated
  session := .ofViewer ⟨"100"⟩

/-- The viewer mutes the stranger in the menu of the profile. -/
def pressMute : Press where
  input := sampleStranger
  config := {}
  default := .block
  widget := .item (.ofAction .mute none)
  shown := by decide
  accepted := some PromptKind.mute.prompt

/-- The viewer blocks the stranger in a list of accounts to block. -/
def pressBlock : Press where
  input := sampleStranger
  config := {}
  default := .block
  widget := .rowButton .block
  shown := by decide
  accepted := none

/-- Both requests are sent. -/
def muteAndBlock : History :=
  start
    |>.next (.dispatch 0 ⟨.mute⟩ sampleTarget)
    |>.next (.dispatch 1 ⟨.block⟩ sampleTarget)

/-- The two calls of the sample history come from two presses. -/
lemma muteAndBlock_pressedBy :
    muteAndBlock.PressedBy fun t => if t = 0 then pressMute else pressBlock := by
  intro e mem c call
  obtain rfl | rfl : e = .dispatch 0 ⟨.mute⟩ sampleTarget ∨ e = .dispatch 1 ⟨.block⟩ sampleTarget :=
    by simpa [muteAndBlock, events] using mem
  · cases call
    exact @Approval.confirmed pressMute.widget ⟨.mute, PromptKind.mute.prompt⟩ rfl
  · cases call
    exact Approval.ready rfl

/-- Both requests were sent, and the prompt of the mute was accepted before. -/
theorem muteAndBlock_accepted :
    muteAndBlock.Fresh ∧ ⟨1, sampleTarget, .block⟩ ∈ muteAndBlock.sent ∧
      pressMute.accepted = some PromptKind.mute.prompt := by
  have fresh : muteAndBlock.Fresh := by decide
  obtain ⟨-, -, asked⟩ := accepted_of_sent
  obtain ⟨-, prompts⟩ := asked muteAndBlock _ fresh muteAndBlock_pressedBy
    ⟨0, sampleTarget, .mute⟩ (by decide)
  obtain accepted | ⟨blocks, -⟩ := prompts .mute rfl
  · exact ⟨fresh, by decide, accepted⟩
  · cases blocks

end History

end ProfileControls.Dispatch
