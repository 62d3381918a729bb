/-!
# Actions

Every control carries an action, which the caller resolves to something that can be carried out.
The actions with a `field` change that part of the relationship; the others open a dialog or follow
a link and leave the relationship alone.
-/

namespace ProfileControls

/-- What activating a control asks for. -/
inductive Action where
  | mention
  | directMention
  | openHomePage
  | hideReblogs
  | showReblogs
  | changeLanguages
  | endorse
  | unendorse
  | manageLists
  | removeFromFollowers
  | mute
  | unmute
  | block
  | unblock
  | report
  | blockDomain
  | unblockDomain
  | moderateAccount
  | moderateDomain
  | follow
  | unfollow
  | withdrawRequest
  | enableNotifications
  | disableNotifications
  | muteNotifications
  | unmuteNotifications
deriving DecidableEq, Repr

/-- The part of a relationship that an action changes. -/
inductive RelationshipField where
  | follow
  | reblogs
  | notify
  | mute
  | block
  | domainBlock
  | endorse
  | follower
deriving DecidableEq, Repr

namespace RelationshipField

/-- All fields in their customary order. -/
def all : List RelationshipField :=
  [.follow, .reblogs, .notify, .mute, .block, .domainBlock, .endorse, .follower]

/-- The name of the field in records. -/
def name : RelationshipField → String
  | .follow => "follow"
  | .reblogs => "reblogs"
  | .notify => "notify"
  | .mute => "mute"
  | .block => "block"
  | .domainBlock => "domain_block"
  | .endorse => "endorse"
  | .follower => "follower"

/-- Every field is among all fields. -/
theorem mem_all (f : RelationshipField) : f ∈ all := by
  cases f <;> decide

end RelationshipField

namespace Action

/-- All actions in their customary order. -/
def all : List Action :=
  [.mention, .directMention, .openHomePage, .hideReblogs, .showReblogs, .changeLanguages,
    .endorse, .unendorse, .manageLists, .removeFromFollowers, .mute, .unmute, .block, .unblock,
    .report, .blockDomain, .unblockDomain, .moderateAccount, .moderateDomain, .follow, .unfollow,
    .withdrawRequest, .enableNotifications, .disableNotifications, .muteNotifications,
    .unmuteNotifications]

/-- The name of the action in records. -/
def name : Action → String
  | .mention => "mention"
  | .directMention => "direct_mention"
  | .openHomePage => "open_original_page"
  | .hideReblogs => "hide_reblogs"
  | .showReblogs => "show_reblogs"
  | .changeLanguages => "change_languages"
  | .endorse => "endorse"
  | .unendorse => "unendorse"
  | .manageLists => "manage_lists"
  | .removeFromFollowers => "remove_from_followers"
  | .mute => "mute"
  | .unmute => "unmute"
  | .block => "block"
  | .unblock => "unblock"
  | .report => "report"
  | .blockDomain => "block_domain"
  | .unblockDomain => "unblock_domain"
  | .moderateAccount => "moderate_account"
  | .moderateDomain => "moderate_domain"
  | .follow => "follow"
  | .unfollow => "unfollow"
  | .withdrawRequest => "withdraw_request"
  | .enableNotifications => "enable_notifications"
  | .disableNotifications => "disable_notifications"
  | .muteNotifications => "mute_notifications"
  | .unmuteNotifications => "unmute_notifications"

/-- The message id of the label that a control with this action shows. -/
def label : Action → String
  | .mention => "account.mention"
  | .directMention => "account.direct"
  | .openHomePage => "account.open_original_page"
  | .hideReblogs => "account.hide_reblogs"
  | .showReblogs => "account.show_reblogs"
  | .changeLanguages => "account.languages"
  | .endorse => "account.endorse"
  | .unendorse => "account.unendorse"
  | .manageLists => "account.add_or_remove_from_list"
  | .removeFromFollowers => "account.remove_from_followers"
  | .mute => "account.mute"
  | .unmute => "account.unmute"
  | .block => "account.block"
  | .unblock => "account.unblock"
  | .report => "account.report"
  | .blockDomain => "account.block_domain"
  | .unblockDomain => "account.unblock_domain"
  | .moderateAccount => "status.admin_account"
  | .moderateDomain => "status.admin_domain"
  | .follow => "account.follow"
  | .unfollow => "account.unfollow"
  | .withdrawRequest => "account.cancel_follow_request"
  | .enableNotifications => "account.enable_notifications"
  | .disableNotifications => "account.disable_notifications"
  | .muteNotifications => "account.mute_notifications_short"
  | .unmuteNotifications => "account.unmute_notifications_short"

/-- The field that the action changes, none if it leaves the relationship alone. -/
def field : Action → Option RelationshipField
  | .follow | .unfollow | .withdrawRequest => some .follow
  | .hideReblogs | .showReblogs => some .reblogs
  | .enableNotifications | .disableNotifications => some .notify
  | .mute | .unmute | .muteNotifications | .unmuteNotifications => some .mute
  | .block | .unblock => some .block
  | .blockDomain | .unblockDomain => some .domainBlock
  | .endorse | .unendorse => some .endorse
  | .removeFromFollowers => some .follower
  | .mention | .directMention | .openHomePage | .changeLanguages | .manageLists | .report
  | .moderateAccount | .moderateDomain => none

/-- Every action is among all actions. -/
theorem mem_all (a : Action) : a ∈ all := by
  cases a <;> decide

/-- Different actions have different names. -/
theorem name_inj {a b : Action} (h : a.name = b.name) : a = b := by
  revert h
  cases a <;> cases b <;> decide

end Action

end ProfileControls
