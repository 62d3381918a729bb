import Mathlib.Tactic.Lemma
import ProfileControls.Decision

/-!
# Offers

A profile and its row in a list offer actions on four surfaces: the primary action, the switches,
the menu and the row. Each surface has conditions of its own, but none of them offers an action to a
viewer whose ties make it pointless: `Ties.Admits` tells for each action what all surfaces ask of
the ties, and `ProfileInput.admits_of_offered` puts the surfaces together.
-/

namespace ProfileControls

/-- The actions of the controls of a profile. -/
def Decision.actions (d : Decision) : List Action :=
  d.primaryAction.toList.map PrimaryAction.action ++ d.toggles.notify.toList.map Toggle.action ++
    d.toggles.reblogs.toList.map Toggle.action ++ Menu.actions d.menu

/-- The actions of the controls of a row. -/
def RowControls.actions (c : RowControls) : List Action :=
  c.button.action.toList ++ c.menu.map MenuItem.action

/-- The actions of all controls that are made from an input. -/
def ProfileInput.offers (input : ProfileInput) (config : Config) (default : RowDefault) :
    List Action :=
  (input.decide config).actions ++ (input.row default).actions

/-- The ties are such that the action may be offered. -/
def Ties.Admits (t : Ties) (action : Action) : Prop :=
  match action with
  | .follow => t.following = false ∧ t.requested = false ∧ t.blocking = false
  | .unfollow => t.following = true ∧ t.requested = false ∧ t.blocking = false
  | .withdrawRequest => t.requested = true ∧ t.blocking = false
  | .hideReblogs => t.following = true ∧ t.showingReblogs = true
  | .showReblogs => t.following = true ∧ t.showingReblogs = false
  | .enableNotifications => (t.following || t.requested) = true ∧ t.notifying = false
  | .disableNotifications => (t.following || t.requested) = true ∧ t.notifying = true
  | .mute => t.muting = false
  | .unmute => t.muting = true
  | .muteNotifications => t.muting = true ∧ t.mutingNotifications = false
  | .unmuteNotifications => t.muting = true ∧ t.mutingNotifications = true
  | .block => t.blocking = false
  | .unblock => t.blocking = true
  | .blockDomain => t.domainBlocking = false
  | .unblockDomain => t.domainBlocking = true
  | .endorse => t.following = true ∧ t.endorsed = false
  | .unendorse => t.following = true ∧ t.endorsed = true
  | .removeFromFollowers => t.followedBy = true
  | .mention | .directMention | .openHomePage | .changeLanguages | .manageLists | .report
  | .moderateAccount | .moderateDomain => True

variable {t : Ties}

/-- The primary action goes by blocks, then by requests, then by who follows. -/
lemma PrimaryAction.ofTies_cases {moved locked : Bool} {p : PrimaryAction}
    (offered : ofTies t moved locked = some p) :
    (t.blocking = true ∧ p = .unblock) ∨
      (t.blocking = false ∧ t.requested = true ∧ p = .withdrawRequest) ∨
      (t.blocking = false ∧ t.requested = false ∧ p = .followToggle t.following locked) := by
  rw [ofTies] at offered
  split at offered
  case isTrue blocking =>
    cases offered
    exact .inl ⟨blocking, rfl⟩
  case isFalse unblocked =>
    rw [Bool.not_eq_true] at unblocked
    split at offered
    case isTrue => cases offered
    case isFalse =>
      split at offered
      case isTrue requested =>
        cases offered
        exact .inr (.inl ⟨unblocked, requested, rfl⟩)
      case isFalse unasked =>
        cases offered
        exact .inr (.inr ⟨unblocked, Bool.eq_false_iff.2 unasked, rfl⟩)

/-- Ties admit the primary action that is offered for them. -/
lemma PrimaryAction.admits {moved locked : Bool} {p : PrimaryAction}
    (offered : ofTies t moved locked = some p) : t.Admits p.action := by
  obtain ⟨blocking, rfl⟩ | ⟨unblocked, requested, rfl⟩ | ⟨unblocked, unasked, rfl⟩ :=
    ofTies_cases offered
  · exact blocking
  · exact ⟨requested, unblocked⟩
  · cases following : t.following with
    | true => exact ⟨following, unasked, unblocked⟩
    | false => exact ⟨following, unasked, unblocked⟩

/-- Ties admit what the bell offers for them. -/
lemma Toggles.admits_notify {s : Toggle} (offered : (ofTies t).notify = some s) :
    t.Admits s.action := by
  simp only [ofTies, Option.ite_none_right_eq_some] at offered
  obtain ⟨near, same⟩ := offered
  cases same
  cases notifying : t.notifying with
  | true => exact ⟨near, notifying⟩
  | false => exact ⟨near, notifying⟩

/-- Ties admit what the switch for boosts offers for them. -/
lemma Toggles.admits_reblogs {s : Toggle} (offered : (ofTies t).reblogs = some s) :
    t.Admits s.action := by
  simp only [ofTies, Option.ite_none_right_eq_some, Bool.and_eq_true] at offered
  obtain ⟨⟨following, -⟩, same⟩ := offered
  cases same
  cases showing' : t.showingReblogs with
  | true => exact ⟨following, showing'⟩
  | false => exact ⟨following, showing'⟩

/-- Ties admit what a row offers for them. -/
lemma RowControls.admits {default : RowDefault} {action : Action}
    (offered : action ∈ (ofTies t default).actions) : t.Admits action := by
  unfold ofTies at offered
  split at offered
  case isTrue => cases offered
  case isFalse =>
    split at offered
    case isTrue blocking =>
      cases List.mem_singleton.1 offered
      exact blocking
    case isFalse unblocked =>
      rw [Bool.not_eq_true] at unblocked
      split at offered
      case isTrue muting =>
        obtain rfl | listed := List.mem_cons.1 offered
        · exact muting
        · cases List.mem_singleton.1 listed
          cases notifications : t.mutingNotifications with
          | true => exact ⟨muting, notifications⟩
          | false => exact ⟨muting, notifications⟩
      case isFalse unmuted =>
        rw [Bool.not_eq_true] at unmuted
        cases default with
        | follow => cases offered
        | mute =>
          cases List.mem_singleton.1 offered
          exact unmuted
        | block =>
          cases List.mem_singleton.1 offered
          exact unblocked

namespace Menu.Context

variable {c : Context} {item : MenuItem}

/-- A section that needs the ties lists something only if the viewer may act on them. -/
lemma ties_of_listed (known : c.standing.ties = some t) (made : Context → List MenuItem)
    (none : c.ties = none → made c = []) (listed : item ∈ made c) : c.ties = some t := by
  cases barred : !c.session.signedIn || c.standing.isSelf || c.visibility.concealsRelationship with
  | true =>
    have gone : c.ties = Option.none := if_pos barred
    rw [none gone] at listed
    cases listed
  | false =>
    have shown : c.ties = c.standing.ties := if_neg (ne_true_of_eq_false barred)
    exact shown.trans known

/-- Ties admit what is offered to choose about a followed subject. -/
lemma admits_followPreferences (known : c.standing.ties = some t)
    (listed : item ∈ c.followPreferences) : t.Admits item.action := by
  have ties := ties_of_listed known followPreferences followPreferences_eq_nil listed
  simp only [followPreferences, ties, List.mem_ite_nil_right, Bool.and_eq_true] at listed
  obtain ⟨⟨following, -⟩, listed⟩ := listed
  obtain rfl | listed := List.mem_cons.1 listed
  · cases showing' : t.showingReblogs with
    | true => exact ⟨following, showing'⟩
    | false => exact ⟨following, showing'⟩
  · cases List.mem_singleton.1 listed
    trivial

/-- Ties admit what features a followed subject or puts it on lists. -/
lemma admits_curation (known : c.standing.ties = some t) (listed : item ∈ c.curation) :
    t.Admits item.action := by
  have ties := ties_of_listed known curation curation_eq_nil listed
  simp only [curation, ties, List.mem_ite_nil_right] at listed
  obtain ⟨following, listed⟩ := listed
  obtain rfl | listed := List.mem_cons.1 listed
  · cases endorsed : t.endorsed with
    | true => exact ⟨following, endorsed⟩
    | false => exact ⟨following, endorsed⟩
  · cases List.mem_singleton.1 listed
    trivial

/-- Ties admit the removal of a follower where it is offered. -/
lemma admits_follower (known : c.standing.ties = some t) (listed : item ∈ c.follower) :
    t.Admits item.action := by
  have ties := ties_of_listed known follower follower_eq_nil listed
  simp only [follower, ties, List.mem_ite_nil_right] at listed
  obtain ⟨follows, listed⟩ := listed
  cases List.mem_singleton.1 listed
  exact follows

/-- Of two items for the two values of a flag, the one that is listed is admitted. -/
lemma admits_either {flag : Bool} {lift impose : MenuItem}
    (listed : item ∈ if flag then [lift] else [impose])
    (set : flag = true → t.Admits lift.action) (clear : flag = false → t.Admits impose.action) :
    t.Admits item.action := by
  cases flag with
  | true =>
    cases List.mem_singleton.1 listed
    exact set rfl
  | false =>
    cases List.mem_singleton.1 listed
    exact clear rfl

/-- Ties admit the mute, or its end, that is offered for them. -/
lemma admits_mute (known : c.standing.ties = some t) (listed : item ∈ c.mute) :
    t.Admits item.action := by
  have ties := ties_of_listed known mute mute_eq_nil listed
  rw [mute, ties] at listed
  exact admits_either listed id id

/-- Ties admit the block, or its end, that is offered for them. -/
lemma admits_block (known : c.standing.ties = some t) (listed : item ∈ c.block) :
    t.Admits item.action := by
  have ties := ties_of_listed known block block_eq_nil listed
  rw [block, ties] at listed
  exact admits_either listed id id

/-- Ties admit the block of a domain, or its end, that is offered for them. -/
lemma admits_domain (known : c.standing.ties = some t) (listed : item ∈ c.domain) :
    t.Admits item.action := by
  have ties := ties_of_listed known domain domain_eq_nil listed
  rw [domain, ties] at listed
  cases remote : c.remoteDomain with
  | none =>
    rw [remote] at listed
    cases listed
  | some domain =>
    rw [remote] at listed
    exact admits_either listed id id

/-- Outside the sections that need the ties, no action changes the relationship. -/
lemma admits (known : c.standing.ties = some t) (listed : item ∈ items c.entries) :
    t.Admits item.action := by
  rw [items_entries] at listed
  simp only [List.mem_append] at listed
  obtain listed | listed | listed | listed | listed | listed | listed | listed | listed | listed :=
    listed
  · simp only [engagement, List.mem_ite_nil_right] at listed
    obtain rfl | listed := List.mem_cons.1 listed.2
    · trivial
    · cases List.mem_singleton.1 listed
      trivial
  · simp only [origin, List.mem_ite_nil_right, Option.mem_toList, Option.map_eq_some_iff] at listed
    obtain ⟨-, address, -, rfl⟩ := listed
    trivial
  · exact admits_followPreferences known listed
  · exact admits_curation known listed
  · exact admits_follower known listed
  · exact admits_mute known listed
  · exact admits_block known listed
  · simp only [report, List.mem_ite_nil_right] at listed
    cases List.mem_singleton.1 listed.2
    trivial
  · exact admits_domain known listed
  · simp only [moderation, List.mem_ite_nil_right, List.mem_append, Option.mem_toList,
      Option.map_eq_some_iff] at listed
    obtain ⟨-, ⟨-, account⟩ | ⟨-, domain, -, rfl⟩⟩ := listed
    · cases List.mem_singleton.1 account
      trivial
    · trivial

end Menu.Context

/-- The conditions under which switches are withheld do not depend on which switches there are. -/
lemma Toggles.resolve_of_known {s : Standing} (known : s.ties = some t) (v : Visibility)
    (session : Session) :
    resolve s v session =
      if v.redacted || (!session.signedIn || s.isSelf || v.concealsRelationship) then {}
      else ofTies t := by
  rw [resolve, Standing.actionableTies, known]
  cases v.redacted with
  | true => rfl
  | false =>
    cases !session.signedIn || s.isSelf || v.concealsRelationship with
    | true => rfl
    | false => rfl

namespace ProfileInput

variable {input : ProfileInput} {r : Relationship} {action : Action}

/-- The ties of a standing are those of the relationship. -/
lemma ties_standing (known : input.relationship = some r) (config : Config) :
    (input.standing config).ties = some r.toTies :=
  congrArg (Option.map _) known

/-- A primary action is shown only if it is the one for the ties. -/
lemma primaryAction_of_ties (known : input.relationship = some r) {config : Config}
    {p : PrimaryAction} (offered : (input.decide config).primaryAction = some p) :
    PrimaryAction.ofTies r.toTies (input.standing config).lifecycle.movedTo.isSome
      input.account.locked = some p := by
  obtain ⟨-, offered⟩ := Option.ite_none_left_eq_some.1 offered
  obtain ⟨t, same, offered⟩ := Option.bind_eq_some_iff.1 offered
  cases (ties_standing known config).symm.trans same
  exact offered

/-- A relationship admits whatever its profile offers. -/
lemma admits_of_profile (known : input.relationship = some r) {config : Config}
    (offered : action ∈ (input.decide config).actions) : r.Admits action := by
  have ties := ties_standing known config
  simp only [Decision.actions, List.mem_append, List.mem_map, Option.mem_toList] at offered
  obtain ((⟨p, primary, rfl⟩ | ⟨s, notify, rfl⟩) | ⟨s, reblogs, rfl⟩) | listed := offered
  · exact PrimaryAction.admits (primaryAction_of_ties known primary)
  · change (Toggles.resolve _ _ _).notify = some s at notify
    rw [Toggles.resolve_of_known ties] at notify
    split at notify
    case isTrue => cases notify
    case isFalse => exact Toggles.admits_notify notify
  · change (Toggles.resolve _ _ _).reblogs = some s at reblogs
    rw [Toggles.resolve_of_known ties] at reblogs
    split at reblogs
    case isTrue => cases reblogs
    case isFalse => exact Toggles.admits_reblogs reblogs
  · obtain ⟨item, mem, rfl⟩ := List.mem_map.1 listed
    have ties' : (input.menuContext config).standing.ties = some r.toTies := ties
    exact Menu.Context.admits ties' mem

/-- A relationship admits whatever its row offers. -/
lemma admits_of_row (known : input.relationship = some r) {default : RowDefault}
    (offered : action ∈ (input.row default).actions) : r.Admits action := by
  simp only [row, RowControls.resolve, known] at offered
  split at offered
  case isTrue => cases offered
  case isFalse =>
    split at offered
    case isTrue => exact RowControls.admits offered
    case isFalse => cases offered

/-- Whatever surface offers an action, the ties admit it. -/
theorem admits_of_offered (known : input.relationship = some r) {config : Config}
    {default : RowDefault} (offered : action ∈ input.offers config default) : r.Admits action :=
  (List.mem_append.1 offered).elim (admits_of_profile known) (admits_of_row known)

end ProfileInput

end ProfileControls
