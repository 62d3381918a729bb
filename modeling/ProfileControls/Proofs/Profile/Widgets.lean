import ProfileControls.Proofs.Menu.Table
import ProfileControls.Selection

/-!
# Widgets and their selections

Whatever a profile or a row shows for the viewer to press is a widget: the primary action, a switch,
an item of either menu, or the button of the row. A widget stands for one action, and to select it
yields a selection of that action (`Widget.select?_of`). Which prompt the selection has, however,
depends on the widget: menu items have the one that belongs to their action (`MenuItem.Guarded`),
and so have all other widgets except the button with which a row blocks, which never asks
(`ProfileInput.prompt_of_approval`).
-/

namespace ProfileControls

/-- What a profile or a row shows for the viewer to press. -/
inductive Widget where
  | primary (p : PrimaryAction)
  | toggle (t : Toggle)
  | item (i : MenuItem)
  | rowButton (b : RowButton)
deriving DecidableEq, Repr

namespace Widget

/-- The action that the widget stands for, unless it acts by itself. -/
def action? : Widget → Option Action
  | .primary p => some p.action
  | .toggle t => some t.action
  | .item i => some i.action
  | .rowButton b => b.action

/-- The selection of the widget, unless it acts by itself. -/
def select? : Widget → Option Selection
  | .primary p => some p.select
  | .toggle t => some t.select
  | .item i => some i.select
  | .rowButton b => b.select?

/-- The prompt that the widget has, if it has one. -/
def prompt? : Widget → Option Prompt
  | .primary _ | .toggle _ => none
  | .item i => i.prompt
  | .rowButton b => b.promptKind.map PromptKind.prompt

/-- A widget is selected by its action and its prompt. -/
lemma select?_eq (w : Widget) : w.select? = w.action?.map (.of · w.prompt?) := by
  cases w with
  | primary p => rfl
  | toggle t => rfl
  | item i => rfl
  | rowButton b => rfl

end Widget

/-- How an action comes to be approved: by a widget that is ready, or by a widget with a prompt that
the viewer accepts. -/
inductive Approval (w : Widget) : Approved → Option Prompt → Prop where
  | ready {approved} : w.select? = some (.ready approved) → Approval w approved none
  | confirmed {pending} : w.select? = some (.needsConfirmation pending) →
      Approval w pending.confirm (some pending.prompt)

/-- All widgets that are made from an input: those of the profile, its menu, the row and the menu of
the row. -/
def ProfileInput.widgets (input : ProfileInput) (config : Config) (default : RowDefault) :
    List Widget :=
  (input.decide config).primaryAction.toList.map .primary ++
    ((input.decide config).toggles.notify.toList.map .toggle ++
      ((input.decide config).toggles.reblogs.toList.map .toggle ++
        ((Menu.items (input.decide config).menu).map .item ++
          (.rowButton (input.row default).button :: (input.row default).menu.map .item))))

/-- The prompt of an item is the one that belongs to its action, and an item is dangerous if it has
a prompt or reports the subject. -/
structure MenuItem.Guarded (i : MenuItem) : Prop where
  asks : (∃ pending, i.select = .needsConfirmation pending) ↔
    i.action = .removeFromFollowers ∨ i.action = .mute ∨ i.action = .block ∨ i.action = .blockDomain
  prompt : ∀ pending, i.select = .needsConfirmation pending →
    i.action.promptKind? = some pending.prompt.kind ∧ pending.prompt = pending.prompt.kind.prompt
  dangerous : i.dangerous = true ↔
    (∃ pending, i.select = .needsConfirmation pending) ∨ i.action = .report

/-! ## Selections -/

/-- A selection is ready exactly if there is no prompt. -/
lemma Selection.of_eq_ready {action : Action} {prompt : Option Prompt} {approved : Approved} :
    of action prompt = .ready approved ↔ prompt = none ∧ approved = ⟨action⟩ := by
  cases prompt <;> simp [of, eq_comm]

/-- A selection needs a confirmation exactly if there is a prompt. -/
lemma Selection.of_eq_needsConfirmation {action : Action} {prompt : Option Prompt}
    {pending : Pending} :
    of action prompt = .needsConfirmation pending ↔
      prompt = some pending.prompt ∧ pending.action = action := by
  obtain ⟨action', prompt'⟩ := pending
  cases prompt <;> simp [of, eq_comm, and_comm]

/-- An approved action is the one of the widget, and a prompt was accepted if the widget has one. -/
lemma Approval.eq {w : Widget} {approved : Approved} {accepted : Option Prompt}
    (approval : Approval w approved accepted) :
    w.action? = some approved.action ∧ accepted = w.prompt? := by
  cases approval with
  | ready selected =>
    rw [Widget.select?_eq, Option.map_eq_some_iff] at selected
    obtain ⟨action, own, selected⟩ := selected
    obtain ⟨none, rfl⟩ := Selection.of_eq_ready.1 selected
    exact ⟨own, none.symm⟩
  | confirmed selected =>
    rw [Widget.select?_eq, Option.map_eq_some_iff] at selected
    obtain ⟨action, own, selected⟩ := selected
    obtain ⟨prompt, rfl⟩ := Selection.of_eq_needsConfirmation.1 selected
    exact ⟨own, prompt.symm⟩

/-- To select a widget is to select its action, which is also the one that is approved at last. -/
theorem Widget.action_select? (w : Widget) :
    w.select?.map Selection.action = w.action? ∧
      w.select?.map (·.approved.action) = w.action? := by
  rw [select?_eq]
  cases w.action? <;> simp

/-! ## Items -/

/-- An item needs a confirmation exactly if it has a prompt. -/
lemma MenuItem.needsConfirmation_iff {i : MenuItem} :
    (∃ pending, i.select = .needsConfirmation pending) ↔ i.prompt.isSome = true := by
  rw [select, Option.isSome_iff_exists]
  constructor
  · rintro ⟨pending, selected⟩
    exact ⟨pending.prompt, (Selection.of_eq_needsConfirmation.1 selected).1⟩
  · rintro ⟨prompt, asks⟩
    exact ⟨⟨i.action, prompt⟩, Selection.of_eq_needsConfirmation.2 ⟨asks, rfl⟩⟩

/-- The items of actions are guarded. -/
lemma MenuItem.guarded_ofAction (a : Action) (href : Option String) :
    (ofAction a href).Guarded := by
  constructor
  case asks =>
    rw [needsConfirmation_iff]
    show (a.promptKind?.map PromptKind.prompt).isSome = true ↔
      a = .removeFromFollowers ∨ a = .mute ∨ a = .block ∨ a = .blockDomain
    cases a <;> decide
  case prompt =>
    intro pending selected
    obtain ⟨asks, -⟩ := Selection.of_eq_needsConfirmation.1 selected
    obtain ⟨kind, own, same⟩ := Option.map_eq_some_iff.1 asks
    rw [← same]
    exact ⟨own, rfl⟩
  case dangerous =>
    rw [needsConfirmation_iff]
    show (a.promptKind?.isSome || a == .report) = true ↔
      (a.promptKind?.map PromptKind.prompt).isSome = true ∨ a = .report
    rw [Option.isSome_map, Bool.or_eq_true, beq_iff_eq]

/-! ## Widgets that need no prompt -/

/-- No primary action has a prompt. -/
lemma PrimaryAction.promptKind_action (p : PrimaryAction) : p.action.promptKind? = none := by
  cases p with
  | unblock => rfl
  | withdrawRequest => rfl
  | followToggle following approval => cases following <;> rfl

/-- No switch has a prompt. -/
lemma Toggles.promptKind_ofTies {t : Ties} {s : Toggle}
    (shown : (ofTies t).notify = some s ∨ (ofTies t).reblogs = some s) :
    s.action.promptKind? = none := by
  simp only [ofTies, Option.ite_none_right_eq_some] at shown
  obtain ⟨-, same⟩ | ⟨-, same⟩ := shown
  · cases same
    cases t.notifying <;> rfl
  · cases same
    cases t.showingReblogs <;> rfl

/-- The switches are none, or those for some ties. -/
lemma Toggles.resolve_cases (s : Standing) (v : Visibility) (session : Session) :
    resolve s v session = {} ∨ ∃ t, resolve s v session = ofTies t := by
  rw [resolve]
  split
  case isTrue => exact .inl rfl
  case isFalse =>
    split
    case h_1 => exact .inl rfl
    case h_2 t _ => exact .inr ⟨t, rfl⟩

/-- The menu of a row has at most one item, which sets whether a mute covers notifications. -/
lemma RowControls.item_ofTies {t : Ties} {default : RowDefault} {i : MenuItem}
    (listed : i ∈ (ofTies t default).menu) :
    i = .ofAction .muteNotifications none ∨ i = .ofAction .unmuteNotifications none := by
  unfold ofTies at listed
  split at listed
  case isTrue => cases listed
  case isFalse =>
    split at listed
    case isTrue => cases listed
    case isFalse =>
      split at listed
      case isTrue =>
        cases List.mem_singleton.1 listed
        cases t.mutingNotifications with
        | true => exact .inr rfl
        | false => exact .inl rfl
      case isFalse => cases default <;> cases listed

/-- The buttons of rows ask what their actions ask, except the one that blocks. -/
lemma RowButton.promptKind_eq {b : RowButton} {a : Action} (own : b.action = some a) :
    b.promptKind = a.promptKind? ∨ b = .block ∧ b.promptKind = none := by
  cases b <;> cases own
  case unblock => exact .inl rfl
  case unmute => exact .inl rfl
  case mute => exact .inl rfl
  case block => exact .inr ⟨rfl, rfl⟩

namespace ProfileInput

variable {input : ProfileInput} {config : Config} {default : RowDefault}

/-- A widget is a primary action, a switch, an item or the button of the row. -/
lemma mem_widgets {w : Widget} :
    w ∈ input.widgets config default ↔
      (∃ p, (input.decide config).primaryAction = some p ∧ w = .primary p) ∨
      (∃ t, ((input.decide config).toggles.notify = some t ∨
        (input.decide config).toggles.reblogs = some t) ∧ w = .toggle t) ∨
      (∃ i, (i ∈ Menu.items (input.decide config).menu ∨ i ∈ (input.row default).menu) ∧
        w = .item i) ∨
      w = .rowButton (input.row default).button := by
  simp only [widgets, List.mem_append, List.mem_cons, List.mem_map, Option.mem_toList]
  grind

/-- No switch that is shown has a prompt. -/
lemma promptKind_of_toggle {s : Toggle} (shown : (input.decide config).toggles.notify = some s ∨
    (input.decide config).toggles.reblogs = some s) : s.action.promptKind? = none := by
  obtain bare | ⟨t, known⟩ := Toggles.resolve_cases (input.standing config)
    (input.standing config).visibility input.session
  · have bare : (input.decide config).toggles = {} := bare
    rw [bare] at shown
    obtain shown | shown := shown <;> cases shown
  · have known : (input.decide config).toggles = .ofTies t := known
    rw [known] at shown
    exact Toggles.promptKind_ofTies shown

/-- Every item that is shown is the item of an action. -/
lemma exists_ofAction {i : MenuItem}
    (shown : i ∈ Menu.items (input.decide config).menu ∨ i ∈ (input.row default).menu) :
    ∃ a href, i = .ofAction a href := by
  obtain listed | listed := shown
  · obtain ⟨a, -, same⟩ := Menu.Context.mem_items.1 listed
    exact ⟨a, (input.menuContext config).href? a, same⟩
  · simp only [row, RowControls.resolve] at listed
    split at listed
    case isTrue => cases listed
    case isFalse =>
      split at listed
      case h_1 => cases listed
      case h_2 r _ =>
        split at listed
        case isTrue =>
          obtain same | same := RowControls.item_ofTies listed
          · exact ⟨_, _, same⟩
          · exact ⟨_, _, same⟩
        case isFalse => cases listed

/-- The items of both menus are guarded. -/
theorem guarded_of_shown {i : MenuItem} (shown : .item i ∈ input.widgets config default) :
    i.Guarded := by
  obtain ⟨p, -, same⟩ | ⟨t, -, same⟩ | ⟨i, listed, same⟩ | same := mem_widgets.1 shown
  all_goals cases same
  obtain ⟨a, href, rfl⟩ := exists_ofAction listed
  exact MenuItem.guarded_ofAction a href

/-- The viewer accepts the prompt that belongs to the approved action, or presses the button with
which a row blocks, which has none. -/
theorem prompt_of_approval {w : Widget} (shown : w ∈ input.widgets config default)
    {approved : Approved} {accepted : Option Prompt} (approval : Approval w approved accepted) :
    accepted = approved.action.promptKind?.map PromptKind.prompt ∨
      w = .rowButton .block ∧ accepted = none := by
  obtain ⟨own, rfl⟩ := approval.eq
  obtain ⟨p, -, rfl⟩ | ⟨t, offered, rfl⟩ | ⟨i, listed, rfl⟩ | rfl := mem_widgets.1 shown
  · have own : p.action = approved.action := Option.some.inj own
    rw [← own, p.promptKind_action]
    exact .inl rfl
  · have own : t.action = approved.action := Option.some.inj own
    rw [← own, promptKind_of_toggle offered]
    exact .inl rfl
  · obtain ⟨a, href, rfl⟩ := exists_ofAction listed
    have own : a = approved.action := Option.some.inj own
    rw [← own]
    exact .inl rfl
  · -- only here does a widget keep silent about an action that items ask for
    obtain asks | ⟨blocks, silent⟩ := RowButton.promptKind_eq own
    · exact .inl (congrArg (Option.map PromptKind.prompt) asks)
    · exact .inr ⟨congrArg Widget.rowButton blocks, congrArg (Option.map PromptKind.prompt) silent⟩

end ProfileInput

end ProfileControls
