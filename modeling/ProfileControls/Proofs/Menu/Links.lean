import Mathlib.Data.List.DropRight
import ProfileControls.Decision
import ProfileControls.Proofs.Menu.Order
import ProfileControls.Proofs.Profile.Origin

/-!
# Links

Three of the actions of a menu lead somewhere (`ProfileInput.wellLinked`). The page of a remote
account is shown under the address that the account gives, if that is an address of the web. The two
pages of the moderation are found under the configured path, whose trailing slashes are taken off
before anything is joined to it. What is joined last is a domain that may stand in a handle; such a
domain has no slash, so that it can be read off the link again.
-/

namespace ProfileControls

/-- The path is the prefix without the slashes at its end. -/
structure TrimsTo (pathPrefix path : String) : Prop where
  slashes : ∃ n, pathPrefix = path ++ String.ofList (List.replicate n '/')
  finish : path.toList.getLast? ≠ some '/'
  start : path = "" ∨ path.toList.head? = some '/'

/-- The link starts with a slash, and where it goes on from the path there is exactly one. -/
structure GoesOn (path rest link : String) : Prop where
  whole : link = path ++ "/" ++ rest
  start : link.toList.head? = some '/'
  before : path.toList.getLast? ≠ some '/'
  behind : rest.toList.head? ≠ some '/'

/-- What stands behind the last slash of a link. -/
def lastSegment (link : String) : String :=
  String.ofList (link.toList.rtakeWhile (· != '/'))

/-- The items of the menu that lead somewhere lead where they should. -/
structure WellLinked (input : ProfileInput) (config : Config) (menu : List MenuEntry) : Prop where
  path : TrimsTo config.adminPathPrefix config.adminPath
  linked : ∀ i ∈ Menu.items menu,
    i.href ≠ none ↔ i.action ∈ [.openHomePage, .moderateAccount, .moderateDomain]
  homePage : ∀ i ∈ Menu.items menu, i.action = .openHomePage →
    (∃ domain, (input.standing config).origin = .remote domain) ∧
      ∃ url, input.account.url = some url ∧ i.href = some url ∧ IsWebAddress url
  accountPage : ∀ i ∈ Menu.items menu, i.action = .moderateAccount →
    ∃ link, i.href = some link ∧
      GoesOn config.adminPath ("accounts/" ++ input.account.id.text) link
  domainPage : ∀ i ∈ Menu.items menu, i.action = .moderateDomain →
    ∃ h domain link, input.account.handle = .ok h ∧ h.domain = some domain ∧
      (input.standing config).origin = .remote (some domain) ∧ Domain.WellFormed domain ∧
      i.href = some link ∧ GoesOn config.adminPath ("instances/" ++ domain) link ∧
      lastSegment link = domain

/-! ## Paths -/

/-- The path of moderation pages is the prefix without the slashes at its end. -/
lemma toList_adminPath (config : Config) :
    config.adminPath.toList = config.adminPathPrefix.toList.rdropWhile (· == '/') :=
  String.toList_ofList

/-- A prefix that is valid starts with a slash. -/
lemma head?_of_fault? {config : Config} (valid : config.fault? = none) :
    config.adminPathPrefix.toList.head? = some '/' := by
  unfold Config.fault? at valid
  split at valid
  case h_1 => cases valid
  case h_2 =>
    split at valid
    case isTrue start => exact start
    case isFalse => cases valid

/-- A prefix that is valid is trimmed to its path. -/
lemma trimsTo_adminPath {config : Config} (valid : config.fault? = none) :
    TrimsTo config.adminPathPrefix config.adminPath := by
  have path := toList_adminPath config
  have start := head?_of_fault? valid
  generalize config.adminPathPrefix = pathPrefix at path start ⊢
  constructor
  case slashes =>
    have slashes : ∀ c ∈ pathPrefix.toList.rtakeWhile (· == '/'), c = '/' := by
      intro c mem
      have slash := List.mem_rtakeWhile_imp mem
      exact beq_iff_eq.1 slash
    refine ⟨(pathPrefix.toList.rtakeWhile (· == '/')).length, ?_⟩
    rw [← String.toList_inj, String.toList_append, String.toList_ofList, path,
      ← List.eq_replicate_of_mem slashes, List.rdropWhile_append_rtakeWhile]
  case finish =>
    intro last
    have kept := List.head?_dropWhile_not (· == '/') pathPrefix.toList.reverse
    rw [path, List.rdropWhile, List.getLast?_reverse] at last
    rw [last] at kept
    cases kept
  case start =>
    obtain ⟨slashes, whole⟩ := List.rdropWhile_prefix (· == '/') (l := pathPrefix.toList)
    rw [← path] at whole
    cases chars : config.adminPath.toList with
    | nil => exact .inl (String.toList_eq_nil_iff.1 chars)
    | cons c cs =>
      -- what is left of the prefix starts as the prefix does
      rw [← whole, chars] at start
      exact .inr start

/-- A link to something in a directory goes on from the path. -/
lemma TrimsTo.goesOn {pathPrefix path : String} (trims : TrimsTo pathPrefix path)
    {directory name : String} (behind : (directory ++ name).toList.head? ≠ some '/') :
    GoesOn path (directory ++ name) (path ++ ("/" ++ directory) ++ name) := by
  constructor
  case whole => simp only [String.append_assoc]
  case before => exact trims.finish
  case behind => exact behind
  case start =>
    have slash : ("/" ++ directory ++ name).toList.head? = some '/' := by
      rw [String.toList_append, String.toList_append]
      rfl
    rw [String.append_assoc, String.toList_append, List.head?_append, slash]
    obtain rfl | first := trims.start
    · rfl
    · rw [first]
      rfl

/-- What is put behind a slash is what stands behind the last slash. -/
lemma lastSegment_append {segment : String} (clean : '/' ∉ segment.toList) (base : String) :
    lastSegment (base ++ "/" ++ segment) = segment := by
  have chars : (base ++ "/" ++ segment).toList.reverse =
      segment.toList.reverse ++ '/' :: base.toList.reverse := by simp
  have before : ∀ c ∈ segment.toList.reverse, (c != '/') = true := by
    intro c mem
    rw [bne_iff_ne]
    rintro rfl
    exact clean (List.mem_reverse.1 mem)
  rw [lastSegment, List.rtakeWhile, chars, List.takeWhile_append_of_pos before,
    List.takeWhile_cons_of_neg (by decide), List.append_nil, List.reverse_reverse,
    String.ofList_toList]

/-! ## Items -/

namespace Menu.Context

variable {c : Context}

/-- The actions of a menu that lead somewhere. -/
lemma href?_ne_none_iff {a : Action} (listed : c.lists a = true) :
    c.href? a ≠ none ↔ a ∈ [.openHomePage, .moderateAccount, .moderateDomain] := by
  cases a
  case openHomePage =>
    rw [lists_iff_due] at listed
    obtain ⟨-, url, given, -⟩ := listed
    simp [given]
  case moderateAccount => simp
  case moderateDomain =>
    rw [lists_iff_due] at listed
    obtain ⟨-, -, -, domain, remote⟩ := listed
    simp [remoteDomain, remote, Origin.domain]
  all_goals simp

/-- The page of an account goes on from the path. -/
lemma accountPage_goesOn {pathPrefix : String} (trims : TrimsTo pathPrefix c.config.adminPath) :
    GoesOn c.config.adminPath ("accounts/" ++ c.account.id.text) c.accountPage := by
  apply trims.goesOn
  rw [String.toList_append]
  exact nofun

/-- The page of a domain goes on from the path. -/
lemma domainPage_goesOn {pathPrefix : String} (trims : TrimsTo pathPrefix c.config.adminPath)
    (domain : String) :
    GoesOn c.config.adminPath ("instances/" ++ domain) (c.domainPage domain) := by
  apply trims.goesOn
  rw [String.toList_append]
  exact nofun

/-- A domain that may stand in a handle is read off the link to its page. -/
lemma lastSegment_domainPage {domain : String} (wellFormed : Domain.WellFormed domain) :
    lastSegment (c.domainPage domain) = domain := by
  have page : c.domainPage domain = (c.config.adminPath ++ "/instances") ++ "/" ++ domain := by
    have apart : "/instances/" = "/instances" ++ "/" := rfl
    rw [domainPage, apart, ← String.append_assoc]
  have clean : '/' ∉ domain.toList := fun slash => (wellFormed.legal _ slash).2 (by decide)
  rw [page, lastSegment_append clean]

end Menu.Context

namespace ProfileInput

variable {input : ProfileInput} {config : Config} {i : MenuItem}

/-- The items of a menu are those of the actions that are due. -/
lemma mem_items_menu :
    i ∈ Menu.items (input.decide config).menu ↔
      ∃ a, (input.menuContext config).Due a ∧ i = (input.menuContext config).item a := by
  simp only [← Menu.Context.lists_iff_due]
  exact Menu.Context.mem_items

/-- A domain that is moderated is that of a handle. -/
lemma domain_of_remote {domain : String}
    (remote : (input.standing config).origin = .remote (some domain)) :
    ∃ h, input.account.handle = .ok h ∧ h.domain = some domain ∧ Domain.WellFormed domain := by
  obtain ⟨h, read, named⟩ := Origin.handle_of_remote remote
  obtain ⟨valid, -⟩ := Handle.parse_eq_ok_iff.1 read
  exact ⟨h, read, named, (Handle.valid_iff_wellFormed.1 valid).domain domain named⟩

/-- Every link of a menu leads where it should. -/
theorem wellLinked (valid : config.fault? = none) :
    WellLinked input config (input.decide config).menu := by
  have trims := trimsTo_adminPath valid
  constructor
  case path => exact trims
  case linked =>
    intro i mem
    obtain ⟨a, due, rfl⟩ := mem_items_menu.1 mem
    exact Menu.Context.href?_ne_none_iff (Menu.Context.lists_iff_due.2 due)
  case homePage =>
    rintro i mem is
    obtain ⟨a, due, rfl⟩ := mem_items_menu.1 mem
    obtain rfl : a = .openHomePage := is
    obtain ⟨remote, url, given, address⟩ := due
    exact ⟨remote, url, given, given, address⟩
  case accountPage =>
    rintro i mem is
    obtain ⟨a, due, rfl⟩ := mem_items_menu.1 mem
    obtain rfl : a = .moderateAccount := is
    have page := Menu.Context.accountPage_goesOn (c := input.menuContext config) trims
    exact ⟨(input.menuContext config).accountPage, rfl, page⟩
  case domainPage =>
    rintro i mem is
    obtain ⟨a, due, rfl⟩ := mem_items_menu.1 mem
    obtain rfl : a = .moderateDomain := is
    obtain ⟨-, -, -, domain, remote⟩ := due
    obtain ⟨h, read, named, wellFormed⟩ := domain_of_remote remote
    have href : ((input.menuContext config).item .moderateDomain).href =
        some ((input.menuContext config).domainPage domain) := by
      show (Origin.domain (input.menuContext config).standing.origin).map _ = _
      rw [remote]
      rfl
    have page := Menu.Context.domainPage_goesOn (c := input.menuContext config) trims domain
    exact ⟨h, domain, _, read, named, remote, wellFormed, href, page,
      Menu.Context.lastSegment_domainPage wellFormed⟩

/-- A server whose moderation pages are configured with slashes at the end. -/
def sampleSlashed : Config where
  localDomain := "home.example"
  adminPathPrefix := "/mod//"

/-- A remote account in the sight of a moderator. -/
def sampleFederated : ProfileInput where
  account := Account.onServer ⟨"7"⟩ "bob" "remote.example"
  session := { Session.ofViewer ⟨"100"⟩ with permissions := .manageFederation }

/-- The page of a remote domain is linked without the slashes at the end of the prefix. -/
theorem sampleFederated_wellLinked :
    sampleSlashed.fault? = none ∧
      .link .moderateDomain "/mod/instances/remote.example" ∈
        Menu.items (sampleFederated.decide sampleSlashed).menu ∧
      lastSegment "/mod/instances/remote.example" = "remote.example" := by
  have valid : sampleSlashed.fault? = none := by decide
  have mem : .link .moderateDomain "/mod/instances/remote.example" ∈
      Menu.items (sampleFederated.decide sampleSlashed).menu := by decide
  obtain ⟨h, domain, link, read, named, remote, -, href, -, last⟩ :=
    (wellLinked valid).domainPage _ mem rfl
  have there : (sampleFederated.standing sampleSlashed).origin =
      .remote (some "remote.example") := by decide
  cases there.symm.trans remote
  cases href
  exact ⟨valid, mem, last⟩

end ProfileInput

end ProfileControls
