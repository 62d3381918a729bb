import Mathlib.Tactic.Lemma
import ProfileControls.Menu.Sections

/-!
# The table of the menu

The sections of a menu choose among nineteen actions, which stand in a fixed order (`Menu.order`).
For each of them the table tells the condition under which it is listed (`Context.lists`) and the
one item that it is listed as (`Context.item`), and a menu is what the table makes of the order
(`Context.items_eq`). So a question about menus need not go through the sections: it is answered by
the entry of the table (`Context.mem_actions`, `Context.mem_items`).

Each section has its lemma. Its actions are neighbours in the order, and the proof decides the
conditions that the section decides.
-/

namespace ProfileControls

/-- The kind of prompt that stands before an action, for the few actions that need one. -/
def Action.promptKind? : Action → Option PromptKind
  | .removeFromFollowers => some .removeFollower
  | .mute => some .mute
  | .block => some .block
  | .blockDomain => some .blockDomain
  | _ => none

/-- The action takes something from the subject. -/
def Action.isDangerous (a : Action) : Bool :=
  a.promptKind?.isSome || a == .report

/-- The item that an action is listed as. -/
def MenuItem.ofAction (a : Action) (href : Option String) : MenuItem where
  label := a.label
  action := a
  dangerous := a.isDangerous
  href := href
  prompt := a.promptKind?.map PromptKind.prompt

namespace Menu

/-- The actions of a menu in their order. Of alternatives, at most one is listed. -/
def order : List Action :=
  [.mention, .directMention, .openHomePage, .hideReblogs, .showReblogs, .changeLanguages, .endorse,
    .unendorse, .manageLists, .removeFromFollowers, .mute, .unmute, .block, .unblock, .report,
    .blockDomain, .unblockDomain, .moderateAccount, .moderateDomain]

namespace Context

/-- The condition under which an action is listed. -/
@[simp] def lists (c : Context) : Action → Bool
  | .mention | .directMention => c.session.signedIn && !c.standing.lifecycle.isSuspended
  | .openHomePage => c.standing.origin.isRemote && c.account.url.any isWebAddress
  | .hideReblogs => c.ties.any fun t => t.following && !t.muting && t.showingReblogs
  | .showReblogs => c.ties.any fun t => t.following && !t.muting && !t.showingReblogs
  | .changeLanguages => c.ties.any fun t => t.following && !t.muting
  | .endorse => c.ties.any fun t => t.following && !t.endorsed
  | .unendorse => c.ties.any fun t => t.following && t.endorsed
  | .manageLists => c.ties.any (·.following)
  | .removeFromFollowers => c.ties.any (·.followedBy)
  | .mute => c.ties.any (!·.muting)
  | .unmute => c.ties.any (·.muting)
  | .block => c.ties.any (!·.blocking)
  | .unblock => c.ties.any (·.blocking)
  | .report => c.session.signedIn && !c.standing.isSelf && c.standing.ties.isSome &&
      !c.standing.lifecycle.isSuspended
  | .blockDomain => c.ties.any (!·.domainBlocking) && c.remoteDomain.isSome
  | .unblockDomain => c.ties.any (·.domainBlocking) && c.remoteDomain.isSome
  | .moderateAccount => c.session.signedIn && !c.standing.isSelf && c.session.can .manageUsers
  | .moderateDomain => c.session.signedIn && !c.standing.isSelf &&
      c.session.can .manageFederation && c.remoteDomain.isSome
  | .follow | .unfollow | .withdrawRequest | .enableNotifications | .disableNotifications
  | .muteNotifications | .unmuteNotifications => false

/-- Where an action leads. -/
@[simp] def href? (c : Context) : Action → Option String
  | .openHomePage => c.account.url
  | .moderateAccount => some c.accountPage
  | .moderateDomain => c.remoteDomain.map c.domainPage
  | _ => none

/-- The item that an action is listed as. -/
def item (c : Context) (a : Action) : MenuItem :=
  .ofAction a (c.href? a)

/-- The items that the table makes of some of the actions. -/
def listed (c : Context) (actions : List Action) : List MenuItem :=
  (actions.filter c.lists).map c.item

variable {c : Context}

/-- Actions in a row list their items in a row. -/
lemma listed_append (c : Context) (as bs : List Action) :
    c.listed (as ++ bs) = c.listed as ++ c.listed bs := by
  rw [listed, List.filter_append, List.map_append, listed, listed]

/-- An action lists its item if it is to be listed, before those of the others. -/
lemma listed_cons (c : Context) (a : Action) (as : List Action) :
    c.listed (a :: as) = (bif c.lists a then [c.item a] else []) ++ c.listed as := by
  rw [listed, List.filter_cons]
  cases c.lists a <;> rfl

/-- No actions list no items. -/
lemma listed_nil (c : Context) : c.listed [] = [] := rfl

/-! ## The sections -/

/-- Engagement lists the two kinds of mention. -/
lemma engagement_eq (c : Context) : c.engagement = c.listed [.mention, .directMention] := by
  simp only [listed_cons, listed_nil, lists, engagement]
  cases c.session.signedIn && !c.standing.lifecycle.isSuspended <;> rfl

/-- The origin lists the page on the server of the subject. -/
lemma origin_eq (c : Context) : c.origin = c.listed [.openHomePage] := by
  simp only [listed_cons, listed_nil, lists, origin, item, href?]
  cases c.standing.origin.isRemote with
  | false => rfl
  | true =>
    cases c.account.url with
    | none => rfl
    | some url =>
      rw [Bool.true_and, Option.any_some, Option.filter_some]
      cases isWebAddress url <;> rfl

/-- Preferences list what is shown of a followed subject. -/
lemma followPreferences_eq (c : Context) :
    c.followPreferences = c.listed [.hideReblogs, .showReblogs, .changeLanguages] := by
  simp only [listed_cons, listed_nil, lists, followPreferences]
  cases c.ties with
  | none => rfl
  | some t =>
    simp only [Option.any_some]
    cases t.following && !t.muting <;> cases t.showingReblogs <;> rfl

/-- Curation lists endorsement and lists. -/
lemma curation_eq (c : Context) : c.curation = c.listed [.endorse, .unendorse, .manageLists] := by
  simp only [listed_cons, listed_nil, lists, curation]
  cases c.ties with
  | none => rfl
  | some t =>
    simp only [Option.any_some]
    cases t.following <;> cases t.endorsed <;> rfl

/-- The section of followers lists the removal of a follower. -/
lemma follower_eq (c : Context) : c.follower = c.listed [.removeFromFollowers] := by
  simp only [listed_cons, listed_nil, lists, follower]
  cases c.ties with
  | none => rfl
  | some t =>
    simp only [Option.any_some]
    cases t.followedBy <;> rfl

/-- The section of mutes lists a mute or its end. -/
lemma mute_eq (c : Context) : c.mute = c.listed [.mute, .unmute] := by
  simp only [listed_cons, listed_nil, lists, mute]
  cases c.ties with
  | none => rfl
  | some t =>
    simp only [Option.any_some]
    cases t.muting <;> rfl

/-- The section of blocks lists a block or its end. -/
lemma block_eq (c : Context) : c.block = c.listed [.block, .unblock] := by
  simp only [listed_cons, listed_nil, lists, block]
  cases c.ties with
  | none => rfl
  | some t =>
    simp only [Option.any_some]
    cases t.blocking <;> rfl

/-- The section of reports lists a report. -/
lemma report_eq (c : Context) : c.report = c.listed [.report] := by
  simp only [listed_cons, listed_nil, lists, report]
  cases c.session.signedIn && !c.standing.isSelf && c.standing.ties.isSome &&
    !c.standing.lifecycle.isSuspended <;> rfl

/-- The section of domains lists the block of a domain or its end. -/
lemma domain_eq (c : Context) : c.domain = c.listed [.blockDomain, .unblockDomain] := by
  simp only [listed_cons, listed_nil, lists, domain]
  cases c.ties with
  | none => rfl
  | some t =>
    simp only [Option.any_some]
    cases c.remoteDomain with
    | none => cases t.domainBlocking <;> rfl
    | some domain =>
      show (if t.domainBlocking then _ else _) = _
      cases t.domainBlocking <;> rfl

/-- Moderation lists the pages of account and domain. -/
lemma moderation_eq (c : Context) :
    c.moderation = c.listed [.moderateAccount, .moderateDomain] := by
  simp only [listed_cons, listed_nil, lists, moderation, item, href?]
  cases c.session.signedIn && !c.standing.isSelf with
  | false => rfl
  | true =>
    cases c.session.can .manageUsers <;> cases c.session.can .manageFederation <;>
      cases c.remoteDomain <;> rfl

/-- The items of a menu are those of the table, in their order. -/
theorem items_eq (c : Context) : items c.entries = c.listed order := by
  rw [items_entries, engagement_eq, origin_eq, followPreferences_eq, curation_eq, follower_eq,
    mute_eq, block_eq, report_eq, domain_eq, moderation_eq]
  simp only [← listed_append]
  rfl

/-- What is listed has its place in the order. -/
lemma mem_order {a : Action} (listed : c.lists a = true) : a ∈ order := by
  cases a
  case follow | unfollow | withdrawRequest | enableNotifications | disableNotifications
    | muteNotifications | unmuteNotifications => cases listed
  all_goals decide

/-- The items of a menu are those of the actions that are listed. -/
theorem mem_items {i : MenuItem} : i ∈ items c.entries ↔ ∃ a, c.lists a = true ∧ i = c.item a := by
  rw [items_eq, listed, List.mem_map]
  constructor
  · rintro ⟨a, mem, rfl⟩
    exact ⟨a, (List.mem_filter.1 mem).2, rfl⟩
  · rintro ⟨a, listed, rfl⟩
    exact ⟨a, List.mem_filter.2 ⟨mem_order listed, listed⟩, rfl⟩

/-- The actions of a menu are those that are listed. -/
theorem mem_actions {a : Action} : a ∈ actions c.entries ↔ c.lists a = true := by
  rw [actions, List.mem_map]
  constructor
  · rintro ⟨i, mem, rfl⟩
    obtain ⟨b, listed, rfl⟩ := mem_items.1 mem
    exact listed
  · intro listed
    exact ⟨c.item a, mem_items.2 ⟨a, listed, rfl⟩, rfl⟩

end Context

end Menu

end ProfileControls
