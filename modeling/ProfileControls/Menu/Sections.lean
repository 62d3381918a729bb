import ProfileControls.Menu.Layout
import ProfileControls.Text.Start
import ProfileControls.Visibility

/-!
# The sections of a profile menu

Each section of the menu is decided on its own from the same view of the profile. Most sections
look at the relationship through the ties that the viewer may act on; mentions, links to the home
server, reports and moderation each have conditions of their own.
-/

namespace ProfileControls

/-- The address is a link of the web: `http://` or `https://`, and then some text without blanks. -/
def isWebAddress (address : String) : Bool :=
  match Text.after? "https://" address <|> Text.after? "http://" address with
  | none => false
  | some rest => !rest.isEmpty && !rest.any Text.isBlank

namespace Menu

/-- All that the sections of a menu are decided from. -/
structure Context where
  account : Account
  standing : Standing
  visibility : Visibility
  session : Session
  config : Config

namespace Context

/-- The ties that the viewer may act on. -/
def ties (c : Context) : Option Ties :=
  c.standing.actionableTies c.visibility c.session

/-- The domain of a remote subject whose handle can be used. -/
def remoteDomain (c : Context) : Option String :=
  c.standing.origin.domain

/-- Mention the subject, unless it is suspended. -/
def engagement (c : Context) : List MenuItem :=
  if c.session.signedIn && !c.standing.lifecycle.isSuspended then
    [.plain .mention, .plain .directMention]
  else []

/-- See a remote profile on its own server. -/
def origin (c : Context) : List MenuItem :=
  if c.standing.origin.isRemote then
    ((c.account.url.filter isWebAddress).map (.link .openHomePage)).toList
  else []

/-- Choose what of a followed subject is shown, unless it is muted. -/
def followPreferences (c : Context) : List MenuItem :=
  match c.ties with
  | none => []
  | some t =>
    if t.following && !t.muting then
      [.plain (if t.showingReblogs then .hideReblogs else .showReblogs), .plain .changeLanguages]
    else []

/-- Feature a followed subject, and put it on lists. -/
def curation (c : Context) : List MenuItem :=
  match c.ties with
  | none => []
  | some t =>
    if t.following then
      [.plain (if t.endorsed then .unendorse else .endorse), .plain .manageLists]
    else []

/-- Stop a follower from following. -/
def follower (c : Context) : List MenuItem :=
  match c.ties with
  | none => []
  | some t =>
    if t.followedBy then
      [(MenuItem.plain .removeFromFollowers).asDangerous.confirmedBy .removeFollower]
    else []

/-- Mute the subject, or lift the mute. -/
def mute (c : Context) : List MenuItem :=
  match c.ties with
  | none => []
  | some t =>
    if t.muting then [.plain .unmute]
    else [(MenuItem.plain .mute).asDangerous.confirmedBy .mute]

/-- Block the subject, or lift the block. -/
def block (c : Context) : List MenuItem :=
  match c.ties with
  | none => []
  | some t =>
    if t.blocking then [.plain .unblock]
    else [(MenuItem.plain .block).asDangerous.confirmedBy .block]

/-- Report the subject once the relationship is known, unless it is suspended. -/
def report (c : Context) : List MenuItem :=
  if c.session.signedIn && !c.standing.isSelf && c.standing.ties.isSome &&
      !c.standing.lifecycle.isSuspended then
    [(MenuItem.plain .report).asDangerous]
  else []

/-- Block the domain of a remote subject, or lift that block. -/
def domain (c : Context) : List MenuItem :=
  match c.ties, c.remoteDomain with
  | some t, some _ =>
    if t.domainBlocking then [.plain .unblockDomain]
    else [(MenuItem.plain .blockDomain).asDangerous.confirmedBy .blockDomain]
  | _, _ => []

/-- The page on which the subject's account is moderated. -/
def accountPage (c : Context) : String :=
  c.config.adminPath ++ "/accounts/" ++ c.account.id.text

/-- The page on which the server of the given domain is moderated. -/
def domainPage (c : Context) (domain : String) : String :=
  c.config.adminPath ++ "/instances/" ++ domain

/-- Moderate the subject and its server, as far as the viewer may. -/
def moderation (c : Context) : List MenuItem :=
  if c.session.signedIn && !c.standing.isSelf then
    (if c.session.can .manageUsers then [.link .moderateAccount c.accountPage] else []) ++
    (if c.session.can .manageFederation then
      (c.remoteDomain.map fun domain => .link .moderateDomain (c.domainPage domain)).toList
    else [])
  else []

/-- The sections of the menu in their order. -/
def sections (c : Context) : List Section :=
  [⟨.engagement, c.engagement⟩, ⟨.origin, c.origin⟩, ⟨.followPreferences, c.followPreferences⟩,
    ⟨.curation, c.curation⟩, ⟨.relationship, c.follower⟩, ⟨.relationship, c.mute⟩,
    ⟨.relationship, c.block⟩, ⟨.relationship, c.report⟩, ⟨.domain, c.domain⟩,
    ⟨.admin, c.moderation⟩]

/-- The entries of the menu. -/
def entries (c : Context) : List MenuEntry :=
  layout c.sections

/-! Six of the sections have no items while the viewer may not act on any ties. -/

section

variable {c : Context}

/-- Without ties there is nothing to choose about a followed subject. -/
theorem followPreferences_eq_nil (none : c.ties = none) : c.followPreferences = [] := by
  rw [followPreferences, none]

/-- Without ties there is nobody to feature or to put on lists. -/
theorem curation_eq_nil (none : c.ties = none) : c.curation = [] := by
  rw [curation, none]

/-- Without ties there is no follower to remove. -/
theorem follower_eq_nil (none : c.ties = none) : c.follower = [] := by
  rw [follower, none]

/-- Without ties there is nothing to mute or unmute. -/
theorem mute_eq_nil (none : c.ties = none) : c.mute = [] := by
  rw [mute, none]

/-- Without ties there is nothing to block or unblock. -/
theorem block_eq_nil (none : c.ties = none) : c.block = [] := by
  rw [block, none]

/-- Without ties there is no domain to block or unblock. -/
theorem domain_eq_nil (none : c.ties = none) : c.domain = [] := by
  rw [domain, none]

end

/-- A menu has the items of all sections, in their order. -/
theorem items_entries (c : Context) :
    items c.entries = c.engagement ++ (c.origin ++ (c.followPreferences ++ (c.curation ++
      (c.follower ++ (c.mute ++ (c.block ++ (c.report ++ (c.domain ++ c.moderation)))))))) := by
  rw [entries, items_layout]
  simp only [sections, List.flatMap_cons, List.flatMap_nil, List.append_nil]

end Context

end Menu

end ProfileControls
