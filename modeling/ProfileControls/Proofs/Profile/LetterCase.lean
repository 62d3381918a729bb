import ProfileControls.Proofs.Account.LetterCase
import ProfileControls.Proofs.Menu.Relation
import ProfileControls.Proofs.Profile.Origin

/-!
# Letter case on profiles

A profile is the same however the letters of domains are written, those of the subject and that of
the viewer's server (`ProfileInput.decide_respelled`). Only where a domain is shown its letters are
shown as they are written: in the title of the page, and in the link to the page on which the
subject's server is moderated.

Of the rest, only the menu is decided from a domain at all, through the origin of the subject, and
what it reads there is the same for two origins that are alike (`Origin.Alike`): whether the subject
is remote, and whether its domain is known. So the two menus list the same actions, and list them as
the same items but for the one link. Search engines are told by the first `@`, which stays.
-/

namespace ProfileControls

/-- The input with another text of the subject's handle. -/
def ProfileInput.withHandleText (input : ProfileInput) (text : String) : ProfileInput :=
  { input with account := { input.account with handleText := text } }

/-- Both are remote or none is, and the domains differ at most in the case of letters. -/
structure Origin.Alike (o o' : Origin) : Prop where
  isRemote : o'.isRemote = o.isRemote
  domain : o'.domain.map Text.lowerAscii = o.domain.map Text.lowerAscii

/-- The two items differ at most in the case of the letters of the link to the page of a server. -/
structure MenuItem.Alike (i i' : MenuItem) : Prop where
  rest : i' = { i with href := i'.href }
  href : i.action ≠ .moderateDomain → i'.href = i.href
  letters : i'.href.map Text.lowerAscii = i.href.map Text.lowerAscii

/-- The two decisions differ at most in the case of the letters of domains that are shown: in the
title of the page and in the link to the page of a server. -/
structure Decision.Alike (d d' : Decision) : Prop where
  primaryAction : d'.primaryAction = d.primaryAction
  toggles : d'.toggles = d.toggles
  menu : List.Forall₂ (MenuEntry.Rel MenuItem.Alike) d.menu d'.menu
  redacted : d'.redacted = d.redacted
  visibility : d'.visibility = d.visibility
  tags : d'.tags = d.tags
  header : d'.header = { d.header with pageTitle := d'.header.pageTitle }
  pageTitle : Text.sameUpToCase d.header.pageTitle d'.header.pageTitle = true

/-! ## Menus -/

namespace Menu.Context

/-- What the sections read of the two contexts is equal, up to the case of the letters of the
subject's domain. -/
structure Respelled (c c' : Context) : Prop where
  url : c'.account.url = c.account.url
  accountPage : c'.accountPage = c.accountPage
  adminPath : c'.config.adminPath = c.config.adminPath
  session : c'.session = c.session
  isSelf : c'.standing.isSelf = c.standing.isSelf
  origin : c.standing.origin.Alike c'.standing.origin
  suspended : c'.standing.lifecycle.isSuspended = c.standing.lifecycle.isSuspended
  known : c'.standing.ties.isSome = c.standing.ties.isSome
  ties : c'.ties = c.ties

namespace Respelled

variable {c c' : Context}

/-- The case of a domain makes no difference to what is listed. -/
lemma lists (respelled : c.Respelled c') (a : Action) : c'.lists a = c.lists a := by
  have remote : c'.standing.origin.isRemote = c.standing.origin.isRemote :=
    respelled.origin.isRemote
  have domain : c'.remoteDomain.isSome = c.remoteDomain.isSome := by
    have some := congrArg Option.isSome respelled.origin.domain
    rw [Option.isSome_map, Option.isSome_map] at some
    exact some
  cases a <;> simp only [Context.lists, respelled.session, respelled.suspended, remote,
    respelled.url, respelled.ties, respelled.isSelf, respelled.known, domain]

/-- The case of a domain makes a difference to links only, and there to case only. -/
lemma item (respelled : c.Respelled c') (a : Action) : (c.item a).Alike (c'.item a) := by
  cases a
  case openHomePage => exact ⟨rfl, fun _ => respelled.url, congrArg _ respelled.url⟩
  case moderateAccount =>
    have page := congrArg some respelled.accountPage
    exact ⟨rfl, fun _ => page, congrArg _ page⟩
  case moderateDomain =>
    refine ⟨rfl, fun other => absurd rfl other, ?_⟩
    have page (c : Context) : Text.lowerAscii ∘ c.domainPage =
        (Text.lowerAscii (c.config.adminPath ++ "/instances/") ++ ·) ∘ Text.lowerAscii :=
      funext fun d => Text.lowerAscii_append _ d
    have domain : c'.remoteDomain.map Text.lowerAscii = c.remoteDomain.map Text.lowerAscii :=
      respelled.origin.domain
    show (c'.remoteDomain.map c'.domainPage).map _ = (c.remoteDomain.map c.domainPage).map _
    rw [Option.map_map, Option.map_map, page, page, ← Option.map_map, ← Option.map_map, domain,
      respelled.adminPath]
  all_goals exact ⟨rfl, fun _ => rfl, rfl⟩

end Respelled

end Menu.Context

/-! ## Profiles -/

variable {text localDomain : String}

/-- An account is remote however its domain and the local one are written. -/
lemma Origin.ofAccount_alike {a a' : Account} {l l' : String}
    (handle : Handle.Respelled a.handleText a'.handleText)
    (known : Text.sameUpToCase l l' = true) : (ofAccount a l).Alike (ofAccount a' l') := by
  obtain ⟨e, e', read, read', -⟩ | ⟨h, h', read, read', alike⟩ := handle.parse
  · rw [ofAccount_of_unreadable (a := a) read, ofAccount_of_unreadable (a := a') read']
    simp only [handle.mem_iff]
    exact ⟨rfl, rfl⟩
  · rw [ofAccount_of_readable (a := a) read, ofAccount_of_readable (a := a') read',
      alike.all_sameUpToCase known]
    split
    case isTrue => exact ⟨rfl, rfl⟩
    case isFalse => exact ⟨rfl, alike.domain⟩

namespace ProfileInput

variable {input : ProfileInput} {config : Config}

/-- A handle that is respelled has a domain exactly if it had one before. -/
lemma hasDomainPart_withHandleText (handle : Handle.Respelled input.account.handleText text) :
    (input.withHandleText text).account.hasDomainPart = input.account.hasDomainPart := by
  rw [Bool.eq_iff_iff, Account.hasDomainPart, Account.hasDomainPart, List.contains_iff_mem,
    List.contains_iff_mem]
  exact handle.mem_iff

/-- The case of domains makes a difference to the case of titles only. -/
lemma title_withHandleText (handle : Handle.Respelled input.account.handleText text)
    (known : Text.sameUpToCase config.localDomain localDomain = true) :
    Text.sameUpToCase (Header.title input.account config)
      (Header.title (input.withHandleText text).account
        { config with localDomain := localDomain }) = true := by
  have shown : Text.sameUpToCase (input.account.titleName ++ " (@" ++ input.account.handleText)
      (input.account.titleName ++ " (@" ++ text) = true :=
    Text.sameUpToCase_append (Text.sameUpToCase_refl _) handle.sameUpToCase
  simp only [Header.title, hasDomainPart_withHandleText handle]
  split
  case isTrue => exact Text.sameUpToCase_append shown (Text.sameUpToCase_refl ")")
  case isFalse =>
    have marked := Text.sameUpToCase_append shown (Text.sameUpToCase_refl "@")
    exact Text.sameUpToCase_append (Text.sameUpToCase_append marked known)
      (Text.sameUpToCase_refl ")")

/-- Of the header only the title depends on the case of domains. -/
lemma header_withHandleText (handle : Handle.Respelled input.account.handleText text)
    (config config' : Config) :
    ((input.withHandleText text).decide config').header =
      { (input.decide config).header with
        pageTitle := Header.title (input.withHandleText text).account config' } := by
  have robots : Robots.ofAccount (input.withHandleText text).account =
      Robots.ofAccount input.account := by
    rw [Robots.ofAccount, hasDomainPart_withHandleText handle]
    rfl
  show Header.resolve _ _ _ _ _ = _
  rw [Header.resolve, robots]
  rfl

/-- A handle that is respelled respells what the menu is decided from. -/
lemma menuContext_withHandleText (handle : Handle.Respelled input.account.handleText text)
    (known : Text.sameUpToCase config.localDomain localDomain = true) :
    (input.menuContext config).Respelled
      ((input.withHandleText text).menuContext { config with localDomain := localDomain }) := by
  constructor
  case origin => exact Origin.ofAccount_alike handle known
  all_goals rfl

/-- What a profile shows does not depend on the case of the letters of domains, except that the
title of the page and the link to the page of a server show the letters as they are written. -/
theorem decide_respelled (handle : Handle.Respelled input.account.handleText text)
    (known : Text.sameUpToCase config.localDomain localDomain = true) :
    (input.decide config).Alike
      ((input.withHandleText text).decide { config with localDomain := localDomain }) := by
  have header := header_withHandleText handle config { config with localDomain := localDomain }
  constructor
  case menu =>
    have context := menuContext_withHandleText handle known
    exact Menu.Context.entries_rel context.lists context.item
  case header => exact header
  case pageTitle => exact title_withHandleText handle known
  all_goals rfl

/-- An account of another server in the sight of a moderator of servers. -/
def sampleCapital : ProfileInput where
  account := Account.onServer ⟨"1"⟩ "Bob" "REMOTE.example"
  relationship := some .unrelated
  session := { Session.ofViewer ⟨"100"⟩ with permissions := .manageFederation }

/-- The handle and the local server in other letters make no other difference. -/
theorem sampleCapital_respelled :
    Handle.Respelled sampleCapital.account.handleText "Bob@remote.Example" ∧
      Text.sameUpToCase "home.example" "HOME.example" = true ∧
      (sampleCapital.decide (.ofDomain "home.example")).Alike
        ((sampleCapital.withHandleText "Bob@remote.Example").decide
          (.ofDomain "HOME.example")) := by
  have handle : Handle.Respelled sampleCapital.account.handleText "Bob@remote.Example" :=
    .inr ⟨"Bob", "REMOTE.example", "remote.Example", by decide, by decide, rfl, rfl⟩
  have known : Text.sameUpToCase "home.example" "HOME.example" = true := by decide
  exact ⟨handle, known, decide_respelled handle known⟩

end ProfileInput

end ProfileControls
