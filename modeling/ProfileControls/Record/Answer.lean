import ProfileControls.Record.Input

/-!
# Decisions as records

The JSON form of all that a profile or a row shows. These records are only written. An entry of a
menu and a primary action put their kind first; links, prompts and switches that are missing have
no member at all, and everything else that is missing is `null`.
-/

namespace ProfileControls

open Json (Value)

/-- The member `key` for a content, and no member without one. -/
def Record.member? {α : Type} (key : String) (write : α → Value) : Option α →
    List (String × Value)
  | none => []
  | some a => [(key, write a)]

def Ties.toJson (t : Ties) : Value :=
  .object (t.members ++ [("mutual", .bool t.mutual)])

def Origin.toJson : Origin → Value
  | .local => .object [("kind", .string "local")]
  | .remote domain => .object [("kind", .string "remote"), ("domain", .orNull .string domain)]

namespace Standing

/-- The flags between subject and viewer, or that they are unknown. -/
def tiesToJson : Option Ties → Value
  | none => .object [("status", .string "unknown")]
  | some t => .object [("status", .string "known"), ("flags", t.toJson)]

def toJson (s : Standing) : Value :=
  .object [
    ("is_self", .bool s.isSelf),
    ("remoteness", s.origin.toJson),
    ("state", s.lifecycle.toJson),
    ("relation", tiesToJson s.ties),
    ("hidden", .bool s.hidden)]

end Standing

def RedactionReasons.toJson (r : RedactionReasons) : Value :=
  .object [
    ("suspended", .bool r.suspended),
    ("hidden", .bool r.hidden),
    ("moved", .bool r.moved)]

def Visibility.toJson (v : Visibility) : Value :=
  .object [
    ("redacted", .bool v.redacted),
    ("reasons", v.reasons.toJson),
    ("empty_timeline", .bool v.emptyTimeline)]

def PrimaryAction.toJson : PrimaryAction → Value
  | .unblock => .object [("kind", .string "unblock")]
  | .withdrawRequest => .object [("kind", .string "withdraw_request")]
  | .followToggle following requiresApproval =>
    .object [
      ("kind", .string "follow_toggle"),
      ("following", .bool following),
      ("requires_approval", .bool requiresApproval)]

def Toggle.toJson (t : Toggle) : Value :=
  .object [("action", t.action.toJson), ("active", .bool t.active)]

def Toggles.toJson (t : Toggles) : Value :=
  .object (Record.member? "notify" Toggle.toJson t.notify ++
    Record.member? "reblog_visibility" Toggle.toJson t.reblogs)

def Tag.toJson (t : Tag) : Value :=
  .string t.name

def Prompt.toJson (p : Prompt) : Value :=
  .object [
    ("kind", .string p.kind.name),
    ("title_key", .string p.titleKey),
    ("message_key", .string p.messageKey),
    ("confirm_key", .string p.confirmKey)]

namespace MenuItem

/-- The members of an item's record. -/
def members (i : MenuItem) : List (String × Value) :=
  [("label_key", .string i.label), ("action", i.action.toJson), ("dangerous", .bool i.dangerous)] ++
    Record.member? "href" .string i.href ++ Record.member? "confirmation" Prompt.toJson i.prompt

def toJson (i : MenuItem) : Value :=
  .object i.members

end MenuItem

def MenuEntry.toJson : MenuEntry → Value
  | .separator => .object [("kind", .string "separator")]
  | .item i => .object (("kind", .string "item") :: i.members)

def Badge.toJson : Badge → Value
  | .bot => .string "bot"
  | .group => .string "group"

def Robots.toJson : Robots → Value
  | .index => .string "index"
  | .noIndex => .string "no_index"

def Header.toJson (h : Header) : Value :=
  .object [
    ("show_media", .bool h.showMedia),
    ("show_moved_notice", .bool h.showMovedNotice),
    ("show_memorial_notice", .bool h.showMemorialNotice),
    ("show_follow_request_note", .bool h.showFollowRequestNote),
    ("show_familiar_followers", .bool h.showFamiliarFollowers),
    ("show_account_note", .bool h.showAccountNote),
    ("show_bio", .bool h.showBio),
    ("show_tabs", .bool h.showTabs),
    ("show_menu", .bool h.showMenu),
    ("show_controls", .bool h.showControls),
    ("locked", .bool h.locked),
    ("badge", .orNull Badge.toJson h.badge),
    ("robots", h.robots.toJson),
    ("page_title", .string h.pageTitle)]

def Decision.toJson (d : Decision) : Value :=
  .object [
    ("primary_action", .orNull PrimaryAction.toJson d.primaryAction),
    ("toggles", d.toggles.toJson),
    ("menu", .array (d.menu.map MenuEntry.toJson)),
    ("redacted", .bool d.redacted),
    ("visibility", d.visibility.toJson),
    ("tags", .array (d.tags.map Tag.toJson)),
    ("header", d.header.toJson)]

def RowButton.toJson (b : RowButton) : Value :=
  .string b.name

def RowControls.toJson (c : RowControls) : Value :=
  .object [("button", c.button.toJson), ("menu", .array (c.menu.map MenuItem.toJson))]

end ProfileControls
