import ProfileControls.ActionEffect
import ProfileControls.Proofs.Profile.Offers

/-!
# Uptake of offers

An offer that the viewer takes up has an effect on the profile: no surface offers the action once
more, the follow button becomes a request or a follow, and a switch shows its other state, from
which it leads back (`ProfileInput.taken_up`). The actions and the offers are made for each other in
that granting an action ends the condition under which it is offered (`not_admits_after`).
-/

namespace ProfileControls

/-- What a switch offers in its other state. -/
def Action.opposite : Action → Option Action
  | .enableNotifications => some .disableNotifications
  | .disableNotifications => some .enableNotifications
  | .hideReblogs => some .showReblogs
  | .showReblogs => some .hideReblogs
  | _ => none

/-- The input once the action is granted. -/
def ProfileInput.after (input : ProfileInput) (action : Action) : ProfileInput :=
  { input with relationship := input.relationship.map (·.after action input.account.locked) }

/-- An action ends the condition under which it is offered. -/
lemma Relationship.not_admits_after (r : Relationship) {action : Action}
    (relational : action.field ≠ none) (locked : Bool) :
    ¬ (r.after action locked).Admits action := by
  intro admits
  cases action
  case follow =>
    cases locked with
    | true => cases admits.2.1
    | false => cases admits.1
  case mention | directMention | openHomePage | changeLanguages | manageLists | report
    | moderateAccount | moderateDomain => exact relational rfl
  case mute | unmute | block | unblock | blockDomain | unblockDomain | removeFromFollowers =>
    cases admits
  case unfollow | withdrawRequest => cases admits.1
  all_goals cases admits.2

variable {r : Relationship} {s : Toggle}

/-- The bell is there for followers and those who asked to be, and it leaves that alone. -/
lemma Toggles.notify_after (shown : (ofTies r.toTies).notify = some s) (locked : Bool) :
    (r.after s.action locked).following = r.following ∧
      ∃ b, s.action.opposite = some b ∧
        (ofTies (r.after s.action locked).toTies).notify = some ⟨b, !s.active⟩ ∧
        (r.after s.action locked).after b locked = r := by
  simp only [ofTies, Option.ite_none_right_eq_some] at shown
  obtain ⟨near, same⟩ := shown
  cases same
  cases notifying : r.notifying with
  | true =>
    refine ⟨rfl, .enableNotifications, rfl, if_pos near, ?_⟩
    show { r with notifying := true } = r
    rw [← notifying]
  | false =>
    refine ⟨rfl, .disableNotifications, rfl, if_pos near, ?_⟩
    show { r with notifying := false } = r
    rw [← notifying]

/-- The switch for boosts flips when its action is granted, and flips back. -/
lemma Toggles.reblogs_after (shown : (ofTies r.toTies).reblogs = some s) (locked : Bool) :
    (r.after s.action locked).following = r.following ∧
      ∃ b, s.action.opposite = some b ∧
        (ofTies (r.after s.action locked).toTies).reblogs = some ⟨b, !s.active⟩ ∧
        (r.after s.action locked).after b locked = r := by
  simp only [ofTies, Option.ite_none_right_eq_some] at shown
  obtain ⟨near, same⟩ := shown
  cases same
  cases showing' : r.showingReblogs with
  | true =>
    refine ⟨rfl, .showReblogs, rfl, if_pos near, ?_⟩
    show { r with showingReblogs := true } = r
    rw [← showing']
  | false =>
    refine ⟨rfl, .hideReblogs, rfl, if_pos near, ?_⟩
    show { r with showingReblogs := false } = r
    rw [← showing']

namespace ProfileInput

variable {input : ProfileInput}

/-- Once an action is granted, the relationship is the one after it. -/
lemma relationship_after (known : input.relationship = some r) (action : Action) :
    (input.after action).relationship = some (r.after action input.account.locked) :=
  congrArg (Option.map _) known

/-- What leaves the follow alone leaves the redaction alone. -/
lemma redacted_after (known : input.relationship = some r) (config : Config) {action : Action}
    (same : (r.after action input.account.locked).following = r.following) :
    ((input.after action).standing config).visibility.redacted =
      (input.standing config).visibility.redacted := by
  have following : ((input.after action).standing config).isFollowing =
      (input.standing config).isFollowing := by
    rw [Standing.isFollowing, ties_standing (relationship_after known action), Standing.isFollowing,
      ties_standing known]
    exact same
  show (_ || _ || (_ && !((input.after action).standing config).isFollowing)) = _
  rw [following]
  rfl

/-- What is shown of the switches is shown as long as the viewer follows as before. -/
lemma toggles_after (known : input.relationship = some r) {config : Config}
    (switch : Toggles → Option Toggle) (empty : switch {} = none)
    (shown : switch (input.decide config).toggles = some s) :
    switch (.ofTies r.toTies) = some s ∧
      ∀ action, (r.after action input.account.locked).following = r.following →
        ((input.after action).decide config).toggles =
          .ofTies (r.after action input.account.locked).toTies := by
  have now : (input.decide config).toggles = _ :=
    Toggles.resolve_of_known (ties_standing known config) _ _
  by_cases withheld : ((input.standing config).visibility.redacted ||
    (!input.session.signedIn || (input.standing config).isSelf ||
      (input.standing config).visibility.concealsRelationship)) = true
  · rw [now, if_pos withheld, empty] at shown
    cases shown
  · rw [now, if_neg withheld] at shown
    refine ⟨shown, fun action same => ?_⟩
    have next : ((input.after action).decide config).toggles = _ :=
      Toggles.resolve_of_known (ties_standing (relationship_after known action) config) _ _
    rw [redacted_after known config same] at next
    exact next.trans (if_neg withheld)

/-- A follow is granted at once, or a request stands for it where approval is required. -/
lemma follow_granted (known : input.relationship = some r) {config : Config} {approval : Bool}
    (offered : (input.decide config).primaryAction = some (.followToggle false approval)) :
    (r.after .follow input.account.locked).requested = approval ∧
      (r.after .follow input.account.locked).following = !approval := by
  obtain ⟨-, wrong⟩ | ⟨-, -, wrong⟩ | ⟨-, unasked, same⟩ :=
    PrimaryAction.ofTies_cases (primaryAction_of_ties known offered)
  · cases wrong
  · cases wrong
  · obtain ⟨unfollowed, rfl⟩ := PrimaryAction.followToggle.inj same
    cases input.account.locked with
    | true => exact ⟨rfl, unfollowed.symm⟩
    | false => exact ⟨rfl, rfl⟩

/-- An offer that is taken up is not made again, and has the effect that its control announces. -/
theorem taken_up (config : Config) (known : input.relationship = some r) :
    (∀ action, action.field ≠ none →
      ∀ default, action ∉ (input.after action).offers config default) ∧
    (∀ approval, (input.decide config).primaryAction = some (.followToggle false approval) →
      (r.after .follow input.account.locked).requested = approval ∧
        (r.after .follow input.account.locked).following = !approval) ∧
    ∀ switch ∈ [Toggles.notify, Toggles.reblogs],
      ∀ s, switch (input.decide config).toggles = some s →
        ∃ b, s.action.opposite = some b ∧
          switch ((input.after s.action).decide config).toggles = some ⟨b, !s.active⟩ ∧
          (r.after s.action input.account.locked).after b input.account.locked = r := by
  refine ⟨?_, fun approval => follow_granted known, ?_⟩
  · intro action relational default offered
    have admits := admits_of_offered (relationship_after known action) offered
    exact r.not_admits_after relational _ admits
  · intro switch place s shown
    obtain rfl | place := List.mem_cons.1 place
    · obtain ⟨shown, next⟩ := toggles_after known Toggles.notify rfl shown
      obtain ⟨same, b, opposite, flipped, back⟩ :=
        Toggles.notify_after shown input.account.locked
      exact ⟨b, opposite, next s.action same ▸ flipped, back⟩
    · cases List.mem_singleton.1 place
      obtain ⟨shown, next⟩ := toggles_after known Toggles.reblogs rfl shown
      obtain ⟨same, b, opposite, flipped, back⟩ :=
        Toggles.reblogs_after shown input.account.locked
      exact ⟨b, opposite, next s.action same ▸ flipped, back⟩

/-- A locked account that the viewer asked to follow, with the bell on. -/
def sampleAsked : ProfileInput where
  account := { Account.onLocalServer ⟨"1"⟩ "alice" with locked := true }
  relationship := some { requested := true, notifying := true }
  session := .ofViewer ⟨"100"⟩

/-- A request that was withdrawn cannot be withdrawn again, and the bell can be switched on again.
-/
theorem sampleAsked_taken_up :
    sampleAsked.relationship = some { requested := true, notifying := true } ∧
      Action.withdrawRequest ∈ sampleAsked.offers {} .follow ∧
      Action.withdrawRequest ∉ (sampleAsked.after .withdrawRequest).offers {} .follow ∧
      ((sampleAsked.after .disableNotifications).decide {}).toggles.notify =
        some ⟨.enableNotifications, false⟩ := by
  have known : sampleAsked.relationship = some { requested := true, notifying := true } := rfl
  obtain ⟨gone, -, switches⟩ := taken_up {} known
  refine ⟨known, by decide, gone _ (by decide) _, ?_⟩
  obtain ⟨b, opposite, flipped, -⟩ :=
    switches Toggles.notify List.mem_cons_self ⟨.disableNotifications, true⟩ (by decide)
  cases opposite
  exact flipped

end ProfileInput

end ProfileControls
