import ProfileControls.Proofs.Menu.Table
import ProfileControls.Proofs.Profile.Concealment

/-!
# Agreement of the surfaces

Primary action, switches, tags and menu are decided apart from each other, each under conditions of
its own. For a viewer who is signed in they agree all the same (`ProfileInput.surfacesAgree`): each
of them is a function of the ties that the viewer may act on, except that primary action and
switches are not there on a redacted profile. Redaction and those ties go together in one case only,
that of a subject who moved away from a viewer who does not follow.
-/

namespace ProfileControls

/-- What the surfaces of one profile have to do with each other. -/
structure ProfileInput.SurfacesAgree (input : ProfileInput) (config : Config) : Prop where
  redacted : (input.decide config).redacted = true →
    (input.decide config).primaryAction = none ∧ (input.decide config).toggles = {}
  primary : (input.decide config).primaryAction ≠ none ↔
    input.session.isViewer input.account.id = false ∧ input.relationship ≠ none ∧
      (input.decide config).redacted = false
  /-- the switch for boosts flips what the menu offers to flip -/
  reblogs : ∀ a, a = .hideReblogs ∨ a = .showReblogs →
    ((input.decide config).toggles.reblogs.map Toggle.action = some a ↔
      a ∈ Menu.actions (input.decide config).menu)
  blocking : .blocking ∈ (input.decide config).tags ↔
    .unblock ∈ Menu.actions (input.decide config).menu
  unblock : (input.decide config).primaryAction = some .unblock ↔
    .blocking ∈ (input.decide config).tags ∧ (input.decide config).redacted = false
  muting : .muting ∈ (input.decide config).tags ↔
    .unmute ∈ Menu.actions (input.decide config).menu
  follower : .mutual ∈ (input.decide config).tags ∨ .followsYou ∈ (input.decide config).tags ↔
    .removeFromFollowers ∈ Menu.actions (input.decide config).menu
  unblockDomain : .unblockDomain ∈ Menu.actions (input.decide config).menu →
    .domainBlocking ∈ (input.decide config).tags
  domainBlocking : ∀ domain, (input.standing config).origin = .remote (some domain) →
    .domainBlocking ∈ (input.decide config).tags →
      .unblockDomain ∈ Menu.actions (input.decide config).menu
  /-- the bell is there for those who follow or asked to -/
  notify : .blocking ∉ (input.decide config).tags →
    ((input.decide config).toggles.notify ≠ none ↔
      (input.decide config).primaryAction = some .withdrawRequest ∨
        ∃ approval, (input.decide config).primaryAction = some (.followToggle true approval))

/-! ## Ties -/

/-- The ties are marked with the tag. -/
def Ties.marked (t : Ties) : Tag → Bool
  | .mutual => t.mutual
  | .followsYou => t.followedBy && !t.mutual
  | .requestsToFollowYou => t.requestedBy && !t.followedBy
  | .blocking => t.blocking
  | .muting => t.muting
  | .domainBlocking => t.domainBlocking

variable {t : Ties}

/-- The tags of ties are those that they are marked with. -/
lemma Tag.mem_ofTies {tag : Tag} : tag ∈ ofTies t ↔ t.marked tag = true := by
  -- without this the tags for the direction do not exclude each other
  have follower : t.mutual = true → t.followedBy = true := fun both =>
    (Bool.and_eq_true_iff.1 both).1
  simp only [ofTies, List.mem_append, List.mem_ite_nil_right, List.mem_singleton]
  cases tag <;> grind [Ties.marked]

/-- One of the two tags for followers is there exactly if the subject follows the viewer. -/
lemma Ties.followedBy_iff_marked :
    t.marked .mutual = true ∨ t.marked .followsYou = true ↔ t.followedBy = true := by
  simp only [marked, Ties.mutual]
  cases t.followedBy <;> cases t.following || t.requested <;> decide

/-- The principal control for ties with a subject that has not moved. -/
def PrimaryAction.usual (t : Ties) (locked : Bool) : PrimaryAction :=
  if t.blocking then .unblock
  else if t.requested then .withdrawRequest
  else .followToggle t.following locked

/-- Where a move does not stand in the way, the primary action is the usual one. -/
lemma PrimaryAction.ofTies_eq_usual {moved : Bool} (near : (moved && !t.following) = false)
    (locked : Bool) : ofTies t moved locked = some (usual t locked) := by
  rw [ofTies, usual, near]
  cases t.blocking <;> cases t.requested <;> rfl

/-- The usual action is to unblock exactly if the subject is blocked. -/
lemma PrimaryAction.usual_eq_unblock {locked : Bool} :
    usual t locked = .unblock ↔ t.blocking = true := by
  rw [usual]
  cases t.blocking <;> cases t.requested <;> simp

/-- Where nobody is blocked, the usual action ends a follow or a request exactly if there is one. -/
lemma PrimaryAction.usual_of_unblocked {locked : Bool} (unblocked : t.blocking = false) :
    (usual t locked = .withdrawRequest ∨ ∃ approval, usual t locked = .followToggle true approval) ↔
      t.following = true ∨ t.requested = true := by
  rw [usual, unblocked]
  cases t.requested <;> simp

/-- Where nothing is redacted, the switches are those for the ties to act on. -/
lemma Toggles.resolve_of_shown {s : Standing} {v : Visibility} {session : Session}
    (shown : v.redacted = false) :
    resolve s v session = ((s.actionableTies v session).map ofTies).getD {} := by
  rw [resolve, shown, if_neg Bool.false_ne_true]
  cases s.actionableTies v session <;> rfl

/-- The switch for boosts offers the one action that flips it. -/
lemma Toggles.map_action_reblogs {a : Action} :
    (ofTies t).reblogs.map Toggle.action = some a ↔
      (t.following && !t.muting) = true ∧
        (if t.showingReblogs then Action.hideReblogs else .showReblogs) = a := by
  rw [ofTies]
  cases t.following && !t.muting <;> simp

/-- The bell is there exactly for those who follow or asked to. -/
lemma Toggles.notify_ne_none :
    (ofTies t).notify ≠ none ↔ t.following = true ∨ t.requested = true := by
  rw [ofTies, ← Bool.or_eq_true]
  cases t.following || t.requested <;> simp

namespace ProfileInput

variable {input : ProfileInput} {config : Config}

/-! ## The surfaces as functions of the ties that the viewer may act on -/

/-- The ties to act on are those of others whose relationship is not concealed. -/
lemma ties_menuContext (signedIn : input.session.signedIn = true) :
    (input.menuContext config).ties =
      if (input.standing config).isSelf || (input.standing config).visibility.concealsRelationship
      then none else (input.standing config).ties := by
  show (if !input.session.signedIn || _ || _ then none else _) = _
  rw [signedIn, Bool.not_true, Bool.false_or]
  rfl

/-- To viewers who are signed in, the tags tell the ties to act on. -/
lemma mem_tags (signedIn : input.session.signedIn = true) {tag : Tag} :
    tag ∈ (input.decide config).tags ↔
      (input.menuContext config).ties.any (·.marked tag) = true := by
  rw [ties_menuContext signedIn]
  show tag ∈ (if _ then [] else ((input.standing config).ties.map Tag.ofTies).getD []) ↔ _
  split
  case isTrue => simp
  case isFalse =>
    cases (input.standing config).ties with
    | none => simp
    | some t => exact Tag.mem_ofTies

/-- A redacted profile has no primary action to offer. -/
lemma primaryAction_of_redacted (redacted : (input.decide config).redacted = true) :
    (input.decide config).primaryAction = none :=
  PrimaryAction.resolve_of_redacted input.account redacted

/-- A redacted profile has no switches to offer. -/
lemma toggles_of_redacted (redacted : (input.decide config).redacted = true) :
    (input.decide config).toggles = {} :=
  Toggles.resolve_of_redacted redacted

/-- The switches of a profile that is not redacted are those for the ties to act on. -/
lemma toggles_decide (shown : (input.decide config).redacted = false) :
    (input.decide config).toggles =
      ((input.menuContext config).ties.map Toggles.ofTies).getD {} :=
  Toggles.resolve_of_shown shown

/-- Who follows can be told from the standing. -/
lemma isFollowing_standing (known : (input.standing config).ties = some t) :
    (input.standing config).isFollowing = t.following := by
  rw [Standing.isFollowing, known, Option.any_some]

/-- A profile is redacted if it conceals the relationship or its subject moved away from the
viewer. -/
lemma redacted_decide :
    (input.decide config).redacted =
      ((input.standing config).visibility.concealsRelationship ||
        (input.standing config).lifecycle.movedTo.isSome && !(input.standing config).isFollowing) :=
  rfl

/-- On a redacted profile, the viewer may act on ties with a subject that moved away only. -/
lemma not_following_of_redacted (seen : (input.menuContext config).ties = some t)
    (redacted : (input.decide config).redacted = true) : t.following = false := by
  obtain ⟨admitted, known⟩ := Option.ite_none_left_eq_some.1 seen
  simp only [Bool.or_eq_true, not_or, Bool.not_eq_true] at admitted
  have revealed : (input.standing config).visibility.concealsRelationship = false := admitted.2
  rw [redacted_decide, revealed, isFollowing_standing known, Bool.false_or, Bool.and_eq_true,
    Bool.not_eq_true'] at redacted
  exact redacted.2

/-- The primary action of a profile that is not redacted is the usual one for the ties to act on. -/
lemma primaryAction_decide (signedIn : input.session.signedIn = true)
    (shown : (input.decide config).redacted = false) :
    (input.decide config).primaryAction =
      (input.menuContext config).ties.map (PrimaryAction.usual · input.account.locked) := by
  have resolved : (input.decide config).primaryAction =
      if (input.standing config).isSelf then none
      else (input.standing config).ties.bind
        (PrimaryAction.ofTies · (input.standing config).lifecycle.movedTo.isSome
          input.account.locked) := by
    show (if !input.session.signedIn || _ || (input.decide config).redacted then none else _) = _
    rw [signedIn, shown, Bool.not_true, Bool.false_or, Bool.or_false]
  -- what is left to be offered does not depend on a move, since who moved away is redacted
  rw [redacted_decide, Bool.or_eq_false_iff] at shown
  obtain ⟨revealed, near⟩ := shown
  rw [resolved, ties_menuContext signedIn, revealed, Bool.or_false]
  cases (input.standing config).isSelf with
  | true => rfl
  | false =>
    cases known : (input.standing config).ties with
    | none => rfl
    | some t =>
      rw [isFollowing_standing known] at near
      exact PrimaryAction.ofTies_eq_usual near input.account.locked

/-- The actions of a menu are the listed ones. -/
lemma mem_menu {a : Action} :
    a ∈ Menu.actions (input.decide config).menu ↔ (input.menuContext config).lists a = true :=
  Menu.Context.mem_actions

/-! ## The surfaces compared -/

/-- A primary action is there for known relationships to others, unless the profile is redacted. -/
lemma primaryAction_ne_none_iff (signedIn : input.session.signedIn = true) :
    (input.decide config).primaryAction ≠ none ↔
      input.session.isViewer input.account.id = false ∧ input.relationship ≠ none ∧
        (input.decide config).redacted = false := by
  cases shown : (input.decide config).redacted with
  | true =>
    simp only [primaryAction_of_redacted shown, ne_eq, not_true_eq_false, reduceCtorEq, and_false]
  | false =>
    have revealed : (input.standing config).visibility.concealsRelationship = false := by
      rw [redacted_decide, Bool.or_eq_false_iff] at shown
      exact shown.1
    rw [primaryAction_decide signedIn shown, ties_menuContext signedIn, revealed, Bool.or_false]
    show ((if input.session.isViewer input.account.id then none
      else input.relationship.map (·.toTies)).map _ ≠ none) ↔ _
    cases input.session.isViewer input.account.id <;> cases input.relationship <;> simp

/-- The switch for boosts and the menu offer the same. -/
lemma map_action_reblogs_iff {a : Action} (boosts : a = .hideReblogs ∨ a = .showReblogs) :
    (input.decide config).toggles.reblogs.map Toggle.action = some a ↔
      a ∈ Menu.actions (input.decide config).menu := by
  have listed : a ∈ Menu.actions (input.decide config).menu ↔
      ∃ t, (input.menuContext config).ties = some t ∧ (t.following && !t.muting) = true ∧
        (if t.showingReblogs then Action.hideReblogs else .showReblogs) = a := by
    rw [mem_menu]
    obtain rfl | rfl := boosts
    · simp [Menu.Context.lists, Option.any_eq_true, and_assoc]
    · simp [Menu.Context.lists, Option.any_eq_true, and_assoc]
  rw [listed]
  cases shown : (input.decide config).redacted with
  | true =>
    -- the menu does not ask for redaction, but what it does ask for fails too
    rw [toggles_of_redacted shown]
    refine iff_of_false nofun ?_
    rintro ⟨t, seen, follows, -⟩
    rw [not_following_of_redacted seen shown, Bool.false_and] at follows
    cases follows
  | false =>
    rw [toggles_decide shown]
    cases (input.menuContext config).ties with
    | none => simp
    | some t => simpa using Toggles.map_action_reblogs

/-- The primary action is to unblock exactly if the tag for a block is there and nothing is
redacted. -/
lemma primaryAction_eq_unblock_iff (signedIn : input.session.signedIn = true) :
    (input.decide config).primaryAction = some .unblock ↔
      .blocking ∈ (input.decide config).tags ∧ (input.decide config).redacted = false := by
  rw [mem_tags signedIn]
  cases shown : (input.decide config).redacted with
  | true => simp only [primaryAction_of_redacted shown, reduceCtorEq, and_false]
  | false =>
    rw [primaryAction_decide signedIn shown]
    cases (input.menuContext config).ties with
    | none => simp
    | some t =>
      simp only [Option.map_some, Option.some.injEq, Option.any_some, and_true]
      exact PrimaryAction.usual_eq_unblock

/-- A tag for followers is there exactly if the menu offers to remove the follower. -/
lemma follower_tagged_iff (signedIn : input.session.signedIn = true) :
    .mutual ∈ (input.decide config).tags ∨ .followsYou ∈ (input.decide config).tags ↔
      .removeFromFollowers ∈ Menu.actions (input.decide config).menu := by
  rw [mem_tags signedIn, mem_tags signedIn, mem_menu, Menu.Context.lists]
  cases (input.menuContext config).ties with
  | none => exact or_self_iff
  | some t => exact Ties.followedBy_iff_marked

/-- Without a block, the bell goes with the actions that end a follow or a request. -/
lemma notify_ne_none_iff (signedIn : input.session.signedIn = true)
    (untagged : .blocking ∉ (input.decide config).tags) :
    (input.decide config).toggles.notify ≠ none ↔
      (input.decide config).primaryAction = some .withdrawRequest ∨
        ∃ approval, (input.decide config).primaryAction = some (.followToggle true approval) := by
  rw [mem_tags signedIn] at untagged
  cases shown : (input.decide config).redacted with
  | true =>
    rw [primaryAction_of_redacted shown, toggles_of_redacted shown]
    simp
  | false =>
    rw [toggles_decide shown, primaryAction_decide signedIn shown]
    cases seen : (input.menuContext config).ties with
    | none => simp
    | some t =>
      rw [seen, Option.any_some] at untagged
      simp only [Option.map_some, Option.getD_some, Option.some.injEq]
      rw [PrimaryAction.usual_of_unblocked (Bool.not_eq_true _ ▸ untagged)]
      exact Toggles.notify_ne_none

/-- The surfaces that are shown to a viewer who is signed in agree with each other. -/
theorem surfacesAgree (signedIn : input.session.signedIn = true) (config : Config) :
    input.SurfacesAgree config where
  redacted hidden := ⟨primaryAction_of_redacted hidden, toggles_of_redacted hidden⟩
  primary := primaryAction_ne_none_iff signedIn
  reblogs _ boosts := map_action_reblogs_iff boosts
  blocking := by
    rw [mem_tags signedIn, mem_menu]
    rfl
  unblock := primaryAction_eq_unblock_iff signedIn
  muting := by
    rw [mem_tags signedIn, mem_menu]
    rfl
  follower := follower_tagged_iff signedIn
  unblockDomain listed := by
    rw [mem_menu, Menu.Context.lists, Bool.and_eq_true] at listed
    exact (mem_tags signedIn).2 listed.1
  domainBlocking domain remote tagged := by
    have named : (input.menuContext config).remoteDomain = some domain :=
      congrArg Origin.domain remote
    rw [mem_menu, Menu.Context.lists, named, Option.isSome_some, Bool.and_true]
    exact (mem_tags signedIn).1 tagged
  notify := notify_ne_none_iff signedIn

/-- A follower of the viewer who has moved away from the viewer's sight, and whose domain the viewer
blocks. -/
def sampleMovedAway : ProfileInput where
  account := { Account.onServer ⟨"1"⟩ "bob" "remote.example" with moved := some ⟨"2"⟩ }
  relationship := some { followedBy := true, requested := true, domainBlocking := true }
  session := .ofViewer ⟨"100"⟩

/-- The profile that has moved keeps its tags and menu, but no primary action. -/
theorem sampleMovedAway_agrees :
    sampleMovedAway.session.signedIn = true ∧
      sampleMovedAway.SurfacesAgree (.ofDomain "home.example") ∧
      (sampleMovedAway.decide (.ofDomain "home.example")).primaryAction = none ∧
      (sampleMovedAway.decide (.ofDomain "home.example")).tags = [.mutual, .domainBlocking] ∧
      .removeFromFollowers ∈ Menu.actions (sampleMovedAway.decide (.ofDomain "home.example")).menu ∧
      .unblockDomain ∈ Menu.actions (sampleMovedAway.decide (.ofDomain "home.example")).menu := by
  have agree := surfacesAgree (rfl : sampleMovedAway.session.signedIn = true)
    (.ofDomain "home.example")
  have tags : (sampleMovedAway.decide (.ofDomain "home.example")).tags =
      [.mutual, .domainBlocking] := by decide
  have remote : (sampleMovedAway.standing (.ofDomain "home.example")).origin =
      .remote (some "remote.example") := by decide
  refine ⟨rfl, agree, (agree.redacted (by decide)).1, tags, agree.follower.1 (.inl ?_),
    agree.domainBlocking "remote.example" remote ?_⟩
  · rw [tags]
    decide
  · rw [tags]
    decide

end ProfileInput

end ProfileControls
