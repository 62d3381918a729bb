import Mathlib.Tactic.Lemma
import ProfileControls.Decision

/-!
# Concealment

While its subject is suspended or hidden, a profile conceals the relationship: two viewers in the
same position, who differ only in what stands between them and the subject, are shown the same
profile (`ProfileInput.decide_of_concealed`). The one exception is the reason `moved`, which tells a
follower from others if the subject has moved.

The relationship reaches a profile in three ways. The visibility reads it for `moved` and for the
empty timeline; tags, primary action and switches read it themselves, but not on a profile that is
redacted or conceals; the sections of the menu see only the ties that the viewer may act on, and
whether the relationship is known (`Menu.Context.Alike`). There is one lemma for each way.
-/

namespace ProfileControls

/-- The two standings differ at most in what the ties are, if they are known. -/
structure Standing.Alike (s s' : Standing) : Prop where
  isSelf : s'.isSelf = s.isSelf
  origin : s'.origin = s.origin
  lifecycle : s'.lifecycle = s.lifecycle
  hidden : s'.hidden = s.hidden
  known : s'.ties.isSome = s.ties.isSome

/-- The two inputs differ at most in what the relationship is, if it is known. -/
structure ProfileInput.Alike (input other : ProfileInput) : Prop where
  account : other.account = input.account
  session : other.session = input.session
  hidden : other.hidden = input.hidden
  known : other.relationship.isSome = input.relationship.isSome

/-- The two contexts show a menu the same: what the sections read of them is equal. -/
structure Menu.Context.Alike (c c' : Context) : Prop where
  url : c'.account.url = c.account.url
  accountPage : c'.accountPage = c.accountPage
  domainPage : c'.domainPage = c.domainPage
  session : c'.session = c.session
  isSelf : c'.standing.isSelf = c.standing.isSelf
  origin : c'.standing.origin = c.standing.origin
  suspended : c'.standing.lifecycle.isSuspended = c.standing.lifecycle.isSuspended
  known : c'.standing.ties.isSome = c.standing.ties.isSome
  ties : c'.ties = c.ties

/-- The visibility with another answer to whether the subject has moved from the viewer's sight. -/
def Visibility.withMoved (v : Visibility) (moved : Bool) : Visibility :=
  { v with reasons := { v.reasons with moved := moved } }

/-- The decision with another answer to whether the subject has moved from the viewer's sight. -/
def Decision.withMoved (d : Decision) (moved : Bool) : Decision :=
  { d with visibility := d.visibility.withMoved moved }

/-- Visibilities that agree in all but the move differ by the move at most. -/
lemma Visibility.eq_withMoved {v v' : Visibility} (redacted : v'.redacted = v.redacted)
    (suspended : v'.reasons.suspended = v.reasons.suspended)
    (hidden : v'.reasons.hidden = v.reasons.hidden)
    (timeline : v'.emptyTimeline = v.emptyTimeline) : v' = v.withMoved v'.reasons.moved := by
  obtain ⟨_, ⟨_, _, _⟩, _⟩ := v
  obtain ⟨_, ⟨_, _, _⟩, _⟩ := v'
  cases redacted
  cases suspended
  cases hidden
  cases timeline
  rfl

/-! ## Profiles that are redacted or conceal the relationship -/

section

variable {s s' : Standing} {v : Visibility} {session : Session}

/-- A profile that conceals the relationship is redacted. -/
lemma Standing.redacted_of_conceals (conceals : s.visibility.concealsRelationship = true) :
    s.visibility.redacted = true := by
  have reasons : (s.redactionReasons.suspended || s.redactionReasons.hidden) = true := conceals
  show (s.redactionReasons.suspended || s.redactionReasons.hidden ||
    s.redactionReasons.moved) = true
  rw [reasons, Bool.true_or]

/-- A profile that conceals the relationship has an empty timeline. -/
lemma Standing.emptyTimeline_of_conceals (conceals : s.visibility.concealsRelationship = true) :
    s.visibility.emptyTimeline = true := by
  have reasons : (s.redactionReasons.suspended || s.redactionReasons.hidden) = true := conceals
  show (s.redactionReasons.suspended || s.redactionReasons.hidden ||
    s.ties.any (·.blockedBy)) = true
  rw [reasons, Bool.true_or]

/-- There are no ties to act on where the relationship is concealed. -/
lemma Standing.actionableTies_of_conceals (conceals : v.concealsRelationship = true) :
    s.actionableTies v session = none := by
  rw [actionableTies, conceals, Bool.or_true, if_pos rfl]

/-- A redacted profile has no primary action. -/
lemma PrimaryAction.resolve_of_redacted (account : Account) (redacted : v.redacted = true) :
    resolve account s v session = none := by
  rw [resolve, redacted, Bool.or_true, if_pos rfl]

/-- A redacted profile has no switches. -/
lemma Toggles.resolve_of_redacted (redacted : v.redacted = true) : resolve s v session = {} := by
  rw [resolve, if_pos redacted]

/-- A profile that conceals the relationship has no tags. -/
lemma Tag.resolve_of_conceals (conceals : v.concealsRelationship = true) : resolve s v = [] := by
  rw [resolve, conceals, Bool.or_true, if_pos rfl]

/-- What the ties are makes no difference to whether they are concealed. -/
lemma Standing.Alike.conceals (alike : s.Alike s') :
    s'.visibility.concealsRelationship = s.visibility.concealsRelationship := by
  show (s'.lifecycle.isSuspended || s'.hidden) = (s.lifecycle.isSuspended || s.hidden)
  rw [alike.lifecycle, alike.hidden]

/-- On a profile that conceals the relationship, only the reason `moved` depends on it. -/
lemma Standing.Alike.visibility (alike : s.Alike s')
    (conceals : s.visibility.concealsRelationship = true) :
    s'.visibility = s.visibility.withMoved s'.visibility.reasons.moved := by
  have conceals' : s'.visibility.concealsRelationship = true := alike.conceals.trans conceals
  have redacted : s'.visibility.redacted = s.visibility.redacted := by
    rw [redacted_of_conceals conceals, redacted_of_conceals conceals']
  have timeline : s'.visibility.emptyTimeline = s.visibility.emptyTimeline := by
    rw [emptyTimeline_of_conceals conceals, emptyTimeline_of_conceals conceals']
  have suspended : s'.visibility.reasons.suspended = s.visibility.reasons.suspended :=
    congrArg Lifecycle.isSuspended alike.lifecycle
  have hidden : s'.visibility.reasons.hidden = s.visibility.reasons.hidden := alike.hidden
  exact Visibility.eq_withMoved redacted suspended hidden timeline

/-- The header of a profile that conceals the relationship does not depend on it. -/
lemma Standing.Alike.header (alike : s.Alike s')
    (conceals : s.visibility.concealsRelationship = true) (account : Account) (session : Session)
    (config : Config) :
    Header.resolve account s' s'.visibility session config =
      Header.resolve account s s.visibility session config := by
  have conceals' : s'.visibility.concealsRelationship = true := alike.conceals.trans conceals
  have hidden : s'.visibility.reasons.hidden = s.visibility.reasons.hidden := alike.hidden
  simp only [Header.resolve, conceals, conceals', redacted_of_conceals conceals,
    redacted_of_conceals conceals', hidden, alike.isSelf, alike.lifecycle, Bool.not_true,
    Bool.and_false]

end

/-! ## Menus -/

/-- Contexts that show a menu the same have the same sections. -/
lemma Menu.Context.Alike.sections {c c' : Context} (alike : c.Alike c') :
    c'.sections = c.sections := by
  have remote : c'.remoteDomain = c.remoteDomain := congrArg Origin.domain alike.origin
  simp only [Context.sections, engagement, Context.origin, followPreferences, curation, follower,
    mute, block, report, Context.domain, moderation, alike.session, alike.suspended, alike.origin,
    alike.url, alike.ties, alike.isSelf, alike.known, remote, alike.accountPage, alike.domainPage]

namespace ProfileInput

variable {input other : ProfileInput}

/-- Inputs that are alike have standings that are alike. -/
lemma Alike.standing (alike : input.Alike other) (config : Config) :
    (input.standing config).Alike (other.standing config) := by
  constructor
  case isSelf =>
    show other.session.isViewer other.account.id = input.session.isViewer input.account.id
    rw [alike.session, alike.account]
  case origin => exact congrArg (Origin.ofAccount · config.localDomain) alike.account
  case lifecycle => exact congrArg Account.lifecycle alike.account
  case hidden => exact alike.hidden
  case known =>
    show (other.relationship.map (·.toTies)).isSome = (input.relationship.map (·.toTies)).isSome
    rw [Option.isSome_map, Option.isSome_map]
    exact alike.known

/-- Where the relationship is concealed, the menu does not tell what it is. -/
lemma Alike.menu (alike : input.Alike other) (config : Config)
    (conceals : (input.standing config).visibility.concealsRelationship = true) :
    (other.menuContext config).entries = (input.menuContext config).entries := by
  have standing := alike.standing config
  have conceals' := standing.conceals.trans conceals
  have same : (input.menuContext config).Alike (other.menuContext config) := by
    constructor
    case url => exact congrArg Account.url alike.account
    case accountPage =>
      show config.adminPath ++ "/accounts/" ++ other.account.id.text =
        config.adminPath ++ "/accounts/" ++ input.account.id.text
      rw [alike.account]
    case domainPage => rfl
    case session => exact alike.session
    case isSelf => exact standing.isSelf
    case origin => exact standing.origin
    case suspended => exact congrArg Lifecycle.isSuspended standing.lifecycle
    case known => exact standing.known
    case ties =>
      exact (Standing.actionableTies_of_conceals conceals').trans
        (Standing.actionableTies_of_conceals conceals).symm
  rw [Menu.Context.entries, same.sections, Menu.Context.entries]

/-- The relationship is concealed exactly for subjects that are suspended or hidden. -/
lemma conceals_iff (input : ProfileInput) (config : Config) :
    (input.standing config).visibility.concealsRelationship = true ↔
      input.account.suspended = true ∨ input.hidden = true := by
  show (input.account.lifecycle.isSuspended || input.hidden) = true ↔ _
  rw [Account.isSuspended_lifecycle, Bool.or_eq_true]

/-- The profile gives as a reason that the subject has moved, unless the viewer follows it. -/
lemma moved_decide (input : ProfileInput) (config : Config) :
    (input.decide config).visibility.reasons.moved =
      (input.account.moved.isSome && !input.relationship.any (·.following)) := by
  show (input.account.lifecycle.movedTo.isSome &&
    !(input.relationship.map (·.toTies)).any (·.following)) = _
  rw [Account.movedTo_lifecycle, Option.any_map]

/-- What a profile shows while its subject is suspended or hidden does not depend on the
relationship, except that it tells whether the viewer follows a subject that has moved. -/
theorem decide_of_concealed (config : Config) (alike : input.Alike other)
    (concealed : input.account.suspended = true ∨ input.hidden = true) :
    other.decide config =
        (input.decide config).withMoved (other.decide config).visibility.reasons.moved ∧
      ((other.decide config).visibility.reasons.moved ≠
          (input.decide config).visibility.reasons.moved ↔
        input.account.moved.isSome = true ∧
          other.relationship.any (·.following) ≠ input.relationship.any (·.following)) := by
  have conceals := (input.conceals_iff config).2 concealed
  have standing := alike.standing config
  have conceals' := standing.conceals.trans conceals
  have redacted := Standing.redacted_of_conceals conceals
  have redacted' := Standing.redacted_of_conceals conceals'
  constructor
  · have primary : (other.decide config).primaryAction = (input.decide config).primaryAction :=
      (PrimaryAction.resolve_of_redacted _ redacted').trans
        (PrimaryAction.resolve_of_redacted _ redacted).symm
    have toggles : (other.decide config).toggles = (input.decide config).toggles :=
      (Toggles.resolve_of_redacted redacted').trans (Toggles.resolve_of_redacted redacted).symm
    have menu : (other.decide config).menu = (input.decide config).menu :=
      alike.menu config conceals
    have tags : (other.decide config).tags = (input.decide config).tags :=
      (Tag.resolve_of_conceals conceals').trans (Tag.resolve_of_conceals conceals).symm
    have header : (other.decide config).header = (input.decide config).header := by
      rw [decide, decide, alike.account, alike.session]
      exact standing.header conceals _ _ _
    have visibility : (other.decide config).visibility =
        (input.decide config).visibility.withMoved (other.decide config).visibility.reasons.moved :=
      standing.visibility conceals
    have redaction : (other.decide config).redacted = (input.decide config).redacted :=
      redacted'.trans redacted.symm
    rw [Decision.withMoved, ← primary, ← toggles, ← menu, ← tags, ← header, ← visibility,
      ← redaction]
  · rw [moved_decide, moved_decide, alike.account]
    cases input.account.moved.isSome with
    | false => simp
    | true => simp

/-- A suspended account that has moved. -/
def sampleSuspended : ProfileInput where
  account := { Account.onLocalServer ⟨"1"⟩ "alice" with suspended := true, moved := some ⟨"2"⟩ }
  relationship := some .unrelated
  session := .ofViewer ⟨"100"⟩

/-- For the sample account it can only be told whether it has moved from the viewer's sight. -/
theorem sampleSuspended_of_follower :
    ({ sampleSuspended with relationship := some .ofFollower } : ProfileInput).decide {} =
      (sampleSuspended.decide {}).withMoved false := by
  have alike : sampleSuspended.Alike { sampleSuspended with relationship := some .ofFollower } :=
    ⟨rfl, rfl, rfl, rfl⟩
  obtain ⟨same, -⟩ := decide_of_concealed {} alike (.inl rfl)
  refine same.trans ?_
  rw [moved_decide]
  rfl

end ProfileInput

end ProfileControls
