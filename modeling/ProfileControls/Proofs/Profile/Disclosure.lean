import Mathlib.Data.List.Basic
import ProfileControls.Proofs.Profile.Concealment

/-!
# Disclosure

A restriction never makes a profile show more. If the viewer is signed out or loses permissions, if
the relationship is not known any more, if the subject is suspended or hidden, or if several of
these happen (`ProfileInput.RestrictedTo`), then what is left of the profile was there before
(`ProfileInput.RestrictedTo.decide_within`).

The conditions that withhold a control can only become true by a restriction, and the ties that a
control is made from stay as they are or are gone. So each control is gone or as before
(`gone_or_kept`). Nothing is put in the place of a control that is withheld: the alternatives, such
as to mute and to lift the mute, are chosen by the ties, and these do not change.
-/

namespace ProfileControls

/-- Every bit of the mask is set in the other one too. -/
def Permissions.Within (p q : Permissions) : Prop :=
  p.bits &&& q.bits = p.bits

instance (p q : Permissions) : Decidable (p.Within q) :=
  inferInstanceAs (Decidable (_ = _))

/-- The input `other` is `input`, with the viewer signed out or given fewer permissions, with the
relationship unknown, with the subject suspended or hidden, or with any of these together. -/
structure ProfileInput.RestrictedTo (input other : ProfileInput) : Prop where
  account : other.account = { input.account with suspended := other.account.suspended }
  suspended : input.account.suspended = true → other.account.suspended = true
  relationship : other.relationship = none ∨ other.relationship = input.relationship
  viewer : other.session.viewer = input.session.viewer
  signedIn : other.session.signedIn = true → input.session.signedIn = true
  permissions : other.session.permissions.Within input.session.permissions
  hidden : input.hidden = true → other.hidden = true

/-- The header `h` shows no part that `g` does not show, and tells the same about the account. -/
structure Header.Within (h g : Header) : Prop where
  showMedia : h.showMedia = true → g.showMedia = true
  showMovedNotice : h.showMovedNotice = true → g.showMovedNotice = true
  showMemorialNotice : h.showMemorialNotice = true → g.showMemorialNotice = true
  showFollowRequestNote : h.showFollowRequestNote = true → g.showFollowRequestNote = true
  showFamiliarFollowers : h.showFamiliarFollowers = true → g.showFamiliarFollowers = true
  showAccountNote : h.showAccountNote = true → g.showAccountNote = true
  showBio : h.showBio = true → g.showBio = true
  showTabs : h.showTabs = true → g.showTabs = true
  showMenu : h.showMenu = true → g.showMenu = true
  showControls : h.showControls = true → g.showControls = true
  locked : h.locked = g.locked
  badge : h.badge = g.badge
  robots : h.robots = g.robots
  pageTitle : h.pageTitle = g.pageTitle

/-- All that `d` shows is shown by `e`, in the same way and order. -/
structure Decision.Within (d e : Decision) : Prop where
  items : (Menu.items d.menu).Sublist (Menu.items e.menu)
  tags : d.tags.Sublist e.tags
  primaryAction : d.primaryAction = none ∨ d.primaryAction = e.primaryAction
  notify : d.toggles.notify = none ∨ d.toggles.notify = e.toggles.notify
  reblogs : d.toggles.reblogs = none ∨ d.toggles.reblogs = e.toggles.reblogs
  header : d.header.Within e.header
  redacted : e.redacted = true → d.redacted = true

/-- The standing `s'` is `s` after restrictions. -/
structure Standing.RestrictedTo (s s' : Standing) : Prop where
  isSelf : s'.isSelf = s.isSelf
  origin : s'.origin = s.origin
  suspended : s.lifecycle.isSuspended = true → s'.lifecycle.isSuspended = true
  moved : s'.lifecycle.movedTo = s.lifecycle.movedTo
  ties : s'.ties = none ∨ s'.ties = s.ties
  hidden : s.hidden = true → s'.hidden = true

/-- More permissions grant all that fewer do. -/
lemma Permissions.Within.contains {p q : Permissions} (within : p.Within q) {flag : Permissions}
    (granted : p.contains flag = true) : q.contains flag = true := by
  rw [Permissions.contains, Bool.and_eq_true, beq_iff_eq] at granted ⊢
  obtain ⟨nonempty, all⟩ := granted
  refine ⟨nonempty, ?_⟩
  calc q.bits &&& flag.bits
      = q.bits &&& (p.bits &&& flag.bits) := by rw [all]
    _ = (p.bits &&& q.bits) &&& flag.bits := by
        rw [← UInt64.and_assoc, UInt64.and_comm q.bits]
    _ = p.bits &&& flag.bits := by rw [within]
    _ = flag.bits := all

/-- What the sections of a menu read of the context `c'` is what they read of `c` after
restrictions. -/
structure Menu.Context.RestrictedTo (c c' : Context) : Prop where
  url : c'.account.url = c.account.url
  accountPage : c'.accountPage = c.accountPage
  domainPage : c'.domainPage = c.domainPage
  standing : c.standing.RestrictedTo c'.standing
  ties : c'.ties = none ∨ c'.ties = c.ties
  signedIn : c'.session.signedIn = true → c.session.signedIn = true
  permissions : c'.session.permissions.Within c.session.permissions

/-- What a guard that has become stronger makes of something that is gone or kept. -/
lemma gone_or_kept {α : Type} {guard guard' : Bool} {nothing x x' : α}
    (stronger : guard = true → guard' = true) (kept : x' = nothing ∨ x' = x) :
    (if guard' then nothing else x') = nothing ∨
      (if guard' then nothing else x') = if guard then nothing else x := by
  cases open' : guard' with
  | true => exact .inl rfl
  | false =>
    have opened : guard = false :=
      Bool.eq_false_iff.2 fun closed => Bool.false_ne_true (open'.symm.trans (stronger closed))
    rw [opened]
    exact kept

namespace Standing.RestrictedTo

variable {s s' : Standing} {session session' : Session}

/-- What holds of the ties after restrictions held before. -/
lemma any_ties (restricted : s.RestrictedTo s') {p : Ties → Bool} (some' : s'.ties.any p = true) :
    s.ties.any p = true := by
  obtain none | same := restricted.ties
  · rw [none] at some'
    cases some'
  · rwa [← same]

/-- Restrictions never reveal a relationship that was concealed. -/
lemma conceals (restricted : s.RestrictedTo s')
    (conceals : s.visibility.concealsRelationship = true) :
    s'.visibility.concealsRelationship = true := by
  have reasons : (s.lifecycle.isSuspended || s.hidden) = true := conceals
  show (s'.lifecycle.isSuspended || s'.hidden) = true
  rw [Bool.or_eq_true] at reasons ⊢
  exact reasons.imp restricted.suspended restricted.hidden

/-- A subject that has moved is redacted for all but its followers. That the viewer follows may be
forgotten, but nobody becomes a follower by a restriction. -/
lemma redacted (restricted : s.RestrictedTo s') (redacted : s.visibility.redacted = true) :
    s'.visibility.redacted = true := by
  have reasons : (s.lifecycle.isSuspended || s.hidden ||
    (s.lifecycle.movedTo.isSome && !s.isFollowing)) = true := redacted
  show (s'.lifecycle.isSuspended || s'.hidden ||
    (s'.lifecycle.movedTo.isSome && !s'.isFollowing)) = true
  rw [restricted.moved]
  simp only [Bool.or_eq_true, Bool.and_eq_true, Bool.not_eq_true', Bool.eq_false_iff] at reasons ⊢
  obtain (suspended | hidden) | ⟨moved, stranger⟩ := reasons
  · exact .inl (.inl (restricted.suspended suspended))
  · exact .inl (.inr (restricted.hidden hidden))
  · exact .inr ⟨moved, fun following => stranger (restricted.any_ties following)⟩

/-- Who is barred stays barred after restrictions. -/
lemma barred (restricted : s.RestrictedTo s')
    (signedIn : session'.signedIn = true → session.signedIn = true) {guard guard' : Bool}
    (stronger : guard = true → guard' = true)
    (barred : (!session.signedIn || s.isSelf || guard) = true) :
    (!session'.signedIn || s'.isSelf || guard') = true := by
  rw [restricted.isSelf]
  simp only [Bool.or_eq_true, Bool.not_eq_true', Bool.eq_false_iff] at barred ⊢
  exact barred.imp (Or.imp_left (mt signedIn)) stronger

/-- After restrictions the ties to act on are gone or the same. -/
lemma actionableTies (restricted : s.RestrictedTo s')
    (signedIn : session'.signedIn = true → session.signedIn = true) :
    s'.actionableTies s'.visibility session' = none ∨
      s'.actionableTies s'.visibility session' = s.actionableTies s.visibility session :=
  gone_or_kept (restricted.barred signedIn restricted.conceals) restricted.ties

/-- After restrictions the primary action is gone or the same. -/
lemma primaryAction (restricted : s.RestrictedTo s')
    (signedIn : session'.signedIn = true → session.signedIn = true) {account account' : Account}
    (locked : account'.locked = account.locked) :
    PrimaryAction.resolve account' s' s'.visibility session' = none ∨
      PrimaryAction.resolve account' s' s'.visibility session' =
        PrimaryAction.resolve account s s.visibility session := by
  apply gone_or_kept (restricted.barred signedIn restricted.redacted)
  rw [restricted.moved, locked]
  obtain none | same := restricted.ties
  · rw [none]
    exact .inl rfl
  · rw [same]
    exact .inr rfl

/-- After restrictions the switches are gone or the same. -/
lemma toggles (restricted : s.RestrictedTo s')
    (signedIn : session'.signedIn = true → session.signedIn = true) :
    Toggles.resolve s' s'.visibility session' = {} ∨
      Toggles.resolve s' s'.visibility session' = Toggles.resolve s s.visibility session := by
  apply gone_or_kept restricted.redacted
  obtain none | same := restricted.actionableTies signedIn
  · rw [none]
    exact .inl rfl
  · rw [same]
    exact .inr rfl

/-- After restrictions the tags are gone or the same. -/
lemma tags (restricted : s.RestrictedTo s') :
    Tag.resolve s' s'.visibility = [] ∨
      Tag.resolve s' s'.visibility = Tag.resolve s s.visibility := by
  apply gone_or_kept
  · rw [restricted.isSelf, Bool.or_eq_true, Bool.or_eq_true]
    exact Or.imp_right restricted.conceals
  · obtain none | same := restricted.ties
    · rw [none]
      exact .inl rfl
    · rw [same]
      exact .inr rfl

/-- After restrictions the header shows no part that it did not show before. -/
lemma header (restricted : s.RestrictedTo s')
    (signedIn : session'.signedIn = true → session.signedIn = true) (account : Account)
    (suspended : Bool) (config : Config) :
    (Header.resolve { account with suspended := suspended } s' s'.visibility session' config).Within
      (Header.resolve account s s.visibility session config) := by
  have unredacted : ¬ s'.visibility.redacted = true → ¬ s.visibility.redacted = true :=
    mt restricted.redacted
  have open' : ¬ s'.visibility.concealsRelationship = true →
      ¬ s.visibility.concealsRelationship = true := mt restricted.conceals
  have seen : ¬ s'.visibility.reasons.hidden = true → ¬ s.visibility.reasons.hidden = true :=
    mt restricted.hidden
  constructor <;> simp only [Header.resolve, Bool.and_eq_true, Bool.not_eq_true',
    Bool.eq_false_iff, restricted.moved, restricted.isSelf]
  case showMedia => exact unredacted
  case showMovedNotice | showMemorialNotice => exact And.imp_right seen
  case showFollowRequestNote => exact And.imp (And.imp_left restricted.any_ties) unredacted
  case showFamiliarFollowers | showAccountNote => exact And.imp (And.imp_left signedIn) open'
  case showBio => exact open'
  case showTabs | showControls => exact seen
  case showMenu => exact id
  case badge | robots | pageTitle => rfl

end Standing.RestrictedTo

/-! ## Menus -/

namespace Menu.Context.RestrictedTo

variable {c c' : Context}

/-- Fewer items under a stronger condition are some of the items. -/
lemma sublist_ite {shown shown' : Bool} {items items' : List MenuItem}
    (weaker : shown' = true → shown = true) (sub : items'.Sublist items) :
    (if shown' then items' else []).Sublist (if shown then items else []) := by
  cases open' : shown' with
  | true =>
    rw [weaker open']
    exact sub
  | false => exact List.nil_sublist _

/-- A section that is empty without ties keeps its items or loses all. -/
lemma sublist_of_ties (restricted : c.RestrictedTo c') (made : Context → List MenuItem)
    (none : c'.ties = none → made c' = []) (same : c'.ties = c.ties → made c' = made c) :
    (made c').Sublist (made c) := by
  obtain unknown | kept := restricted.ties
  · rw [none unknown]
    exact List.nil_sublist _
  · rw [same kept]

/-- Restrictions leave the remote domain as it is. -/
lemma remoteDomain (restricted : c.RestrictedTo c') : c'.remoteDomain = c.remoteDomain :=
  congrArg Origin.domain restricted.standing.origin

/-- What the viewer may do after restrictions it could do before. -/
lemma can (restricted : c.RestrictedTo c') {flag : Permissions}
    (can : c'.session.can flag = true) : c.session.can flag = true := by
  rw [Session.can, Bool.and_eq_true] at can ⊢
  exact can.imp restricted.signedIn restricted.permissions.contains

/-- A subject that is active after restrictions was so before. -/
lemma active (restricted : c.RestrictedTo c')
    (active : (!c'.standing.lifecycle.isSuspended) = true) :
    (!c.standing.lifecycle.isSuspended) = true := by
  rw [Bool.not_eq_true', Bool.eq_false_iff] at active ⊢
  exact mt restricted.standing.suspended active

/-- After restrictions the section of engagement has some of its items. -/
lemma engagement (restricted : c.RestrictedTo c') : c'.engagement.Sublist c.engagement := by
  apply sublist_ite
  case weaker =>
    rw [Bool.and_eq_true, Bool.and_eq_true]
    exact And.imp restricted.signedIn restricted.active
  case sub => exact List.Sublist.refl _

/-- Restrictions leave the section of the origin as it is. -/
lemma origin (restricted : c.RestrictedTo c') : c'.origin = c.origin := by
  rw [Context.origin, Context.origin, restricted.standing.origin, restricted.url]

/-- What is known of the ties after restrictions was known before. -/
lemma known (restricted : c.RestrictedTo c') (known : c'.standing.ties.isSome = true) :
    c.standing.ties.isSome = true := by
  obtain none | same := restricted.standing.ties
  · rw [none] at known
    cases known
  · rwa [← same]

/-- After restrictions the section of reports has some of its items. -/
lemma report (restricted : c.RestrictedTo c') : c'.report.Sublist c.report := by
  apply sublist_ite
  case weaker =>
    simp only [Bool.and_eq_true, restricted.standing.isSelf]
    exact And.imp (And.imp (And.imp_left restricted.signedIn) restricted.known) restricted.active
  case sub => exact List.Sublist.refl _

/-- After restrictions the section of moderation has some of its items. -/
lemma moderation (restricted : c.RestrictedTo c') : c'.moderation.Sublist c.moderation := by
  apply sublist_ite
  case weaker =>
    rw [Bool.and_eq_true, Bool.and_eq_true, restricted.standing.isSelf]
    exact And.imp_left restricted.signedIn
  case sub =>
    rw [restricted.accountPage, restricted.domainPage, restricted.remoteDomain]
    exact (sublist_ite restricted.can (List.Sublist.refl _)).append
      (sublist_ite restricted.can (List.Sublist.refl _))

/-- The sections made from ties are gone or as before, and the others are shown to fewer viewers. -/
lemma items (restricted : c.RestrictedTo c') : (items c'.entries).Sublist (items c.entries) := by
  rw [items_entries, items_entries, restricted.origin]
  refine restricted.engagement.append <| (List.Sublist.refl _).append <|
    .append ?followPreferences <| .append ?curation <| .append ?follower <| .append ?mute <|
    .append ?block <| restricted.report.append <| .append ?domain restricted.moderation
  case followPreferences =>
    exact restricted.sublist_of_ties followPreferences followPreferences_eq_nil
      (fun kept => by rw [followPreferences, followPreferences, kept])
  case curation =>
    exact restricted.sublist_of_ties curation curation_eq_nil
      (fun kept => by rw [curation, curation, kept])
  case follower =>
    exact restricted.sublist_of_ties follower follower_eq_nil
      (fun kept => by rw [follower, follower, kept])
  case mute =>
    exact restricted.sublist_of_ties mute mute_eq_nil (fun kept => by rw [mute, mute, kept])
  case block =>
    exact restricted.sublist_of_ties block block_eq_nil (fun kept => by rw [block, block, kept])
  case domain =>
    exact restricted.sublist_of_ties Context.domain domain_eq_nil
      (fun kept => by rw [Context.domain, Context.domain, kept, restricted.remoteDomain])

end Menu.Context.RestrictedTo

namespace ProfileInput

variable {input other : ProfileInput}

/-- Restrictions of an input are restrictions of its standing. -/
lemma RestrictedTo.standing (restricted : input.RestrictedTo other) (config : Config) :
    (input.standing config).RestrictedTo (other.standing config) := by
  constructor
  case isSelf =>
    show other.session.isViewer other.account.id = input.session.isViewer input.account.id
    rw [Session.isViewer, restricted.viewer, restricted.account, Session.isViewer]
  case origin =>
    show Origin.ofAccount other.account _ = Origin.ofAccount input.account _
    rw [restricted.account]
    rfl
  case suspended =>
    show input.account.lifecycle.isSuspended = true → other.account.lifecycle.isSuspended = true
    rw [Account.isSuspended_lifecycle, Account.isSuspended_lifecycle]
    exact restricted.suspended
  case moved =>
    show other.account.lifecycle.movedTo = input.account.lifecycle.movedTo
    rw [Account.movedTo_lifecycle, restricted.account, Account.movedTo_lifecycle]
  case ties =>
    show other.relationship.map (·.toTies) = none ∨
      other.relationship.map (·.toTies) = input.relationship.map (·.toTies)
    rw [Option.map_eq_none_iff]
    exact restricted.relationship.imp_right (congrArg _)
  case hidden => exact restricted.hidden

/-- Restrictions of an input are restrictions of what its menu is decided from. -/
lemma RestrictedTo.menuContext (restricted : input.RestrictedTo other) (config : Config) :
    (input.menuContext config).RestrictedTo (other.menuContext config) := by
  constructor
  case url =>
    show other.account.url = input.account.url
    rw [restricted.account]
  case accountPage =>
    show config.adminPath ++ "/accounts/" ++ other.account.id.text =
      config.adminPath ++ "/accounts/" ++ input.account.id.text
    rw [restricted.account]
  case domainPage => rfl
  case standing => exact restricted.standing config
  case ties => exact (restricted.standing config).actionableTies restricted.signedIn
  case signedIn => exact restricted.signedIn
  case permissions => exact restricted.permissions

/-- The input with another answer to where the subject moved. -/
def withMoved (input : ProfileInput) (target : Option AccountId) : ProfileInput :=
  { input with account := { input.account with moved := target } }

/-- A move has nothing to do with a suspension. -/
lemma suspended_withMoved (input : ProfileInput) (target : Option AccountId) :
    (input.withMoved target).account.lifecycle.isSuspended =
      input.account.lifecycle.isSuspended := by
  rw [Account.isSuspended_lifecycle, Account.isSuspended_lifecycle]
  rfl

/-- A move makes no difference to the menu. -/
lemma menu_withMoved (input : ProfileInput) (config : Config) (target : Option AccountId) :
    ((input.withMoved target).decide config).menu = (input.decide config).menu := by
  have suspended := input.suspended_withMoved target
  have same : (input.menuContext config).Alike ((input.withMoved target).menuContext config) := by
    constructor
    case suspended => exact suspended
    case ties =>
      show (if !input.session.signedIn || input.session.isViewer input.account.id ||
        ((input.withMoved target).account.lifecycle.isSuspended || input.hidden) then none
        else input.relationship.map (·.toTies)) = _
      rw [suspended]
      rfl
    all_goals rfl
  exact congrArg Menu.layout same.sections

/-- After restrictions nothing is shown that was not shown before. -/
lemma RestrictedTo.decide (restricted : input.RestrictedTo other) (config : Config) :
    (other.decide config).Within (input.decide config) := by
  have standing := restricted.standing config
  constructor
  case items => exact (restricted.menuContext config).items
  case tags =>
    show (Tag.resolve _ _).Sublist (Tag.resolve _ _)
    obtain none | same := standing.tags
    · rw [none]
      exact List.nil_sublist _
    · rw [same]
  case primaryAction =>
    have locked : other.account.locked = input.account.locked := by rw [restricted.account]
    exact standing.primaryAction restricted.signedIn locked
  case notify => exact (standing.toggles restricted.signedIn).imp (congrArg _) (congrArg _)
  case reblogs => exact (standing.toggles restricted.signedIn).imp (congrArg _) (congrArg _)
  case header =>
    show (Header.resolve other.account _ _ _ config).Within _
    rw [restricted.account]
    exact standing.header restricted.signedIn _ _ config
  case redacted => exact standing.redacted

/-- A restriction takes from what a profile shows and adds nothing to it. Whether the subject has
moved makes no difference to the menu. -/
theorem RestrictedTo.decide_within (config : Config) (restricted : input.RestrictedTo other) :
    (other.decide config).Within (input.decide config) ∧
      ∀ target, ((input.withMoved target).decide config).menu = (input.decide config).menu :=
  ⟨restricted.decide config, input.menu_withMoved config⟩

/-- An account of another server in the sight of a moderator, where each follows the other. -/
def sampleModerated : ProfileInput where
  account := { Account.onServer ⟨"1"⟩ "bob" "remote.example" with moved := some ⟨"2"⟩ }
  relationship := some { Relationship.ofFollower with followedBy := true }
  session := { Session.ofViewer ⟨"100"⟩ with permissions := .union .manageUsers .manageFederation }

/-- The same account in the sight of a moderator of users, who has forgotten the relationship. -/
def sampleForgotten : ProfileInput :=
  { sampleModerated with
    relationship := none
    session := { Session.ofViewer ⟨"100"⟩ with permissions := .manageUsers } }

/-- Without the relationship and a permission, less is shown to the moderator. -/
theorem sampleForgotten_within :
    sampleModerated.RestrictedTo sampleForgotten ∧
      (sampleForgotten.decide {}).Within (sampleModerated.decide {}) ∧
      ((sampleModerated.withMoved none).decide {}).menu = (sampleModerated.decide {}).menu := by
  have restricted : sampleModerated.RestrictedTo sampleForgotten :=
    ⟨rfl, id, .inl rfl, rfl, id, by decide, id⟩
  obtain ⟨within, moved⟩ := restricted.decide_within {}
  exact ⟨restricted, within, moved none⟩

end ProfileInput

end ProfileControls
