import ProfileControls.Proofs.Profile.Concealment

/-!
# Viewers who are signed out

A viewer who is signed out is offered the same controls whatever is known of a relationship: at most
the link to the home server of a remote account, and the button that each row has
(`ProfileInput.Controls.ofStranger`). A session that is signed out may still carry an identity and
permissions, and these are of no use, except that one's own row is known as such.

The labels of a profile are not controls. Tags and the note on a follow request are made from what
the caller knows of the relationship, whether or not the viewer is signed in. They tell of it unless
the relationship is concealed or the viewer's identity is the subject's (`ProfileInput.shielded`).
-/

namespace ProfileControls

namespace ProfileInput

/-- The controls of a profile, and of the rows of its account. -/
structure Controls where
  primaryAction : Option PrimaryAction
  toggles : Toggles
  menu : List MenuEntry
  row : RowDefault → RowControls

/-- The controls that are made from an input. -/
def controls (input : ProfileInput) (config : Config) : Controls where
  primaryAction := (input.decide config).primaryAction
  toggles := (input.decide config).toggles
  menu := (input.decide config).menu
  row := input.row

/-- The controls for a viewer who is signed out. -/
def Controls.ofStranger (account : Account) (session : Session) (config : Config) : Controls where
  primaryAction := none
  toggles := {}
  menu :=
    if (Origin.ofAccount account config.localDomain).isRemote then
      ((account.url.filter isWebAddress).map fun url => .item (.link .openHomePage url)).toList
    else []
  row _ := ⟨if session.isViewer account.id then .editProfile else .followButton, []⟩

/-- The input with something else, or nothing, known of the relationship. -/
def withRelationship (input : ProfileInput) (r : Option Relationship) : ProfileInput :=
  { input with relationship := r }

/-- Neither tags nor the note on a follow request are shown, whatever the relationship. -/
def shielded (input : ProfileInput) : Bool :=
  input.session.isViewer input.account.id || input.account.suspended || input.hidden

/-- The two inputs show the same controls, tags and note on a follow request. -/
structure ShownAlike (input other : ProfileInput) (config : Config) : Prop where
  controls : other.controls config = input.controls config
  tags : (other.decide config).tags = (input.decide config).tags
  note : (other.decide config).header.showFollowRequestNote =
    (input.decide config).header.showFollowRequestNote

end ProfileInput

/-! ## Menus -/

namespace Menu.Context

variable {c : Context}

/-- Viewers who are signed out have no ties to act on. -/
lemma ties_of_signedOut (signedOut : c.session.signedIn = false) : c.ties = none := by
  rw [ties, Standing.actionableTies, signedOut]
  rfl

/-- For viewers who are signed out the menu leads to the page of origin at most. -/
lemma entries_of_signedOut (signedOut : c.session.signedIn = false) :
    c.entries = c.origin.map .item := by
  have none := ties_of_signedOut signedOut
  have engagement : c.engagement = [] := by
    rw [engagement, signedOut]
    rfl
  have report : c.report = [] := by
    rw [report, signedOut]
    rfl
  have moderation : c.moderation = [] := by
    rw [moderation, signedOut]
    rfl
  rw [entries, sections, engagement, followPreferences_eq_nil none, curation_eq_nil none,
    follower_eq_nil none, mute_eq_nil none, block_eq_nil none, report, domain_eq_nil none,
    moderation]
  cases c.origin with
  | nil => rfl
  | cons i is => rfl

end Menu.Context

namespace ProfileInput

variable {input : ProfileInput} {config : Config}

/-! ## Controls -/

/-- For viewers who are signed out the row does not tell anything of the relationship. -/
lemma row_of_signedOut (signedOut : input.session.signedIn = false) (default : RowDefault) :
    input.row default =
      ⟨if input.session.isViewer input.account.id then .editProfile else .followButton, []⟩ := by
  simp only [row, RowControls.resolve, signedOut]
  cases input.session.isViewer input.account.id with
  | true => rfl
  | false => cases input.relationship <;> rfl

/-- The menu for viewers who are signed out is that for strangers. -/
lemma menu_of_signedOut (signedOut : input.session.signedIn = false) (config : Config) :
    (input.decide config).menu = (Controls.ofStranger input.account input.session config).menu := by
  have entries := Menu.Context.entries_of_signedOut (c := input.menuContext config) signedOut
  refine entries.trans ?_
  show List.map MenuEntry.item (if (Origin.ofAccount input.account config.localDomain).isRemote then
    ((input.account.url.filter isWebAddress).map (.link .openHomePage)).toList else []) = _
  rw [Controls.ofStranger]
  cases (Origin.ofAccount input.account config.localDomain).isRemote with
  | false => rfl
  | true => cases input.account.url.filter isWebAddress <;> rfl

/-- All controls for viewers who are signed out are those for strangers. -/
lemma controls_of_signedOut (signedOut : input.session.signedIn = false) (config : Config) :
    input.controls config = .ofStranger input.account input.session config := by
  have primary : (input.decide config).primaryAction = none := by
    show PrimaryAction.resolve _ _ _ input.session = none
    rw [PrimaryAction.resolve, signedOut]
    rfl
  have toggles : (input.decide config).toggles = {} := by
    have none : (input.standing config).actionableTies (input.standing config).visibility
        input.session = none :=
      Menu.Context.ties_of_signedOut (c := input.menuContext config) signedOut
    show Toggles.resolve _ _ _ = _
    rw [Toggles.resolve, none]
    exact ite_self _
  have row : input.row = (Controls.ofStranger input.account input.session config).row :=
    funext (row_of_signedOut signedOut)
  rw [controls, primary, toggles, menu_of_signedOut signedOut, row]
  rfl

/-! ## Tags and the note on a follow request -/

/-- Tags do not ask for a session that is signed in. -/
lemma tags_decide (input : ProfileInput) (config : Config) :
    (input.decide config).tags =
      if input.shielded then [] else (input.relationship.map (Tag.ofTies ·.toTies)).getD [] := by
  show (if input.session.isViewer input.account.id ||
    (input.account.lifecycle.isSuspended || input.hidden) then []
      else ((input.relationship.map (·.toTies)).map Tag.ofTies).getD []) = _
  rw [Account.isSuspended_lifecycle, Option.map_map, shielded, Bool.or_assoc]
  rfl

/-- Nor does the note on a follow request. -/
lemma note_decide (input : ProfileInput) (config : Config) :
    (input.decide config).header.showFollowRequestNote =
      (!input.shielded && input.relationship.any (·.requestedBy) &&
        !(input.account.moved.isSome && !input.relationship.any (·.following))) := by
  have ties (p : Ties → Bool) : (input.standing config).ties.any p =
      input.relationship.any (p ·.toTies) := Option.any_map
  show ((input.standing config).ties.any (·.requestedBy) &&
    !input.session.isViewer input.account.id &&
    !(input.account.lifecycle.isSuspended || input.hidden ||
      (input.account.lifecycle.movedTo.isSome &&
        !(input.standing config).ties.any (·.following)))) = _
  rw [ties, ties, Account.isSuspended_lifecycle, Account.movedTo_lifecycle, shielded]
  simp only [Bool.not_or]
  ac_rfl

/-! ## What is shown alike -/

/-- Where tags and note are never shown, no relationship makes a difference. -/
lemma shownAlike_of_shielded (shielded : input.shielded = true)
    (signedOut : input.session.signedIn = false) (config : Config) (r : Option Relationship) :
    input.ShownAlike (input.withRelationship r) config := by
  have shielded' : (input.withRelationship r).shielded = true := shielded
  have signedOut' : (input.withRelationship r).session.signedIn = false := signedOut
  constructor
  case controls =>
    rw [controls_of_signedOut signedOut, controls_of_signedOut signedOut']
    rfl
  case tags => rw [tags_decide, tags_decide, shielded, shielded', if_pos rfl, if_pos rfl]
  case note =>
    simp only [note_decide, shielded, shielded', Bool.not_true, Bool.false_and]

/-- A follow request of the subject is told, except where the input is shielded. -/
lemma shielded_of_shownAlike
    (alike : ∀ r, input.ShownAlike (input.withRelationship r) config) : input.shielded = true := by
  cases shown : input.shielded with
  | true => rfl
  | false =>
    have shown' (r : Option Relationship) : (input.withRelationship r).shielded = false := shown
    have unknown := (alike none).tags
    have asked := (alike (some { requestedBy := true })).tags
    have same := asked.trans unknown.symm
    rw [tags_decide, tags_decide, shown', shown'] at same
    cases same

/-- A viewer who is signed out is offered the same controls whatever is known of the relationship.
Tags and the note on a follow request tell of it all the same, unless the input is shielded. -/
theorem decide_signedOut (config : Config) (signedOut : input.session.signedIn = false) :
    (∀ r, (input.withRelationship r).controls config =
      .ofStranger input.account input.session config) ∧
    (∀ r, ((input.withRelationship r).decide config).tags =
      if input.shielded then [] else (r.map (Tag.ofTies ·.toTies)).getD []) ∧
    (∀ r, ((input.withRelationship r).decide config).header.showFollowRequestNote =
      (!input.shielded && r.any (·.requestedBy) &&
        !(input.account.moved.isSome && !r.any (·.following)))) ∧
    ((∀ r, input.ShownAlike (input.withRelationship r) config) ↔ input.shielded = true) := by
  refine ⟨fun r => ?_, fun r => tags_decide _ config, fun r => note_decide _ config, ?_⟩
  · have signedOut' : (input.withRelationship r).session.signedIn = false := signedOut
    exact controls_of_signedOut signedOut' config
  · constructor
    · exact shielded_of_shownAlike
    · exact fun shielded => shownAlike_of_shielded shielded signedOut config

/-- A remote account in the sight of a moderator who has signed out. -/
def sampleSignedOut : ProfileInput where
  account :=
    { Account.onServer ⟨"1"⟩ "bob" "remote.example" with url := some "https://remote.example/@bob" }
  session := { signedIn := false, viewer := some ⟨"100"⟩, permissions := .manageUsers }

/-- The menu of the sample account leads to its page, and its tag tells of the request. -/
theorem sampleSignedOut_of_asked :
    sampleSignedOut.session.signedIn = false ∧
      ((sampleSignedOut.withRelationship (some { requestedBy := true })).decide {}).menu =
        [.item (.link .openHomePage "https://remote.example/@bob")] ∧
      ((sampleSignedOut.withRelationship (some { requestedBy := true })).decide {}).tags =
        [.requestsToFollowYou] := by
  obtain ⟨controls, tags, -⟩ := decide_signedOut {} (rfl : sampleSignedOut.session.signedIn = false)
  refine ⟨rfl, ?_, tags _⟩
  have menu := congrArg Controls.menu (controls (some { requestedBy := true }))
  refine menu.trans ?_
  decide

/-- Who asks to follow the viewer is told to everybody. -/
theorem not_shownAlike_signedOut :
    ¬ ∀ (config : Config) (input : ProfileInput) (r : Option Relationship),
      input.session.signedIn = false → input.ShownAlike (input.withRelationship r) config := by
  intro all
  have alike := all {} sampleSignedOut (some { requestedBy := true }) rfl
  have tags := alike.tags
  revert tags
  decide

end ProfileInput

end ProfileControls
