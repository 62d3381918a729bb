import ProfileControls.Proofs.Account.Handle
import ProfileControls.Proofs.Profile.Concealment

/-!
# Handles written in full

An account of the local server may be written with or without its domain. Nearly all of a profile is
the same either way (`ProfileInput.decide_writtenInFull`): the origin compares domains, and the
title fills in the one that is missing. Only what search engines are told is decided from the text
itself, so that a local account whose handle is written in full is never indexed.
-/

namespace ProfileControls

/-- The account with the given handle written in full. -/
def Account.writtenInFull (a : Account) (h : Handle) (localDomain : String) : Account :=
  { a with handleText := h.qualified localDomain }

/-- The input with the given handle of its account written in full. -/
def ProfileInput.writtenInFull (input : ProfileInput) (h : Handle) (config : Config) :
    ProfileInput :=
  { input with account := input.account.writtenInFull h config.localDomain }

/-- The decision with another answer to what search engines are told. -/
def Decision.withRobots (d : Decision) (robots : Robots) : Decision :=
  { d with header := { d.header with robots := robots } }

variable {a : Account} {h : Handle} {config : Config} {localDomain : String}

/-- In a valid configuration the local domain has no fault. -/
lemma Config.localDomain_faultless (valid : config.fault? = none) :
    Domain.fault? config.localDomain.toList = none := by
  unfold fault? at valid
  split at valid
  case h_1 => cases valid
  case h_2 faultless => exact faultless

namespace Account

/-- A handle that is written in full is read as such. -/
lemma handle_writtenInFull (read : a.handle = .ok h)
    (known : Domain.fault? localDomain.toList = none) :
    (a.writtenInFull h localDomain).handle = .ok (h.inFull localDomain) := by
  obtain ⟨valid, -⟩ := Handle.parse_eq_ok_iff.1 read
  exact valid.parse_qualified known

/-- A handle that is written in full has a domain. -/
lemma hasDomainPart_writtenInFull (read : a.handle = .ok h)
    (known : Domain.fault? localDomain.toList = none) :
    (a.writtenInFull h localDomain).hasDomainPart = true :=
  hasDomainPart_of_handle (handle_writtenInFull read known)

end Account

/-- An account whose handle can be read is remote exactly if its handle says so. -/
lemma Origin.ofAccount_of_handle (read : a.handle = .ok h) (localDomain : String) :
    ofAccount a localDomain = if h.isRemoteFor localDomain then .remote h.domain else .local := by
  rw [ofAccount, Account.hasDomainPart_of_handle read, read]
  cases domain : h.domain with
  | none =>
    have home : h.isRemoteFor localDomain = false := by rw [Handle.isRemoteFor, domain]
    rw [home]
    rfl
  | some d =>
    show (if h.isRemoteFor localDomain then remote h.domain else .local) = _
    rw [domain]

/-- To write a handle in full makes no difference to the origin. -/
lemma Origin.ofAccount_writtenInFull (read : a.handle = .ok h)
    (known : Domain.fault? localDomain.toList = none) :
    ofAccount (a.writtenInFull h localDomain) localDomain = ofAccount a localDomain := by
  rw [ofAccount_of_handle read, ofAccount_of_handle (Account.handle_writtenInFull read known),
    Handle.isRemoteFor_inFull]
  cases remote : h.isRemoteFor localDomain with
  | true => rw [Handle.domain_of_isRemoteFor remote]
  | false => rfl

/-- The title shows a handle in full, however it is written. -/
lemma Header.title_of_handle (read : a.handle = .ok h) (config : Config) :
    title a config =
      (if Text.trim a.displayName = "" then a.username else Text.trim a.displayName) ++ " (@" ++
        h.qualified config.localDomain ++ ")" := by
  obtain ⟨-, text⟩ := Handle.parse_eq_ok_iff.1 read
  simp only [title, Account.hasDomainPart_of_handle read, text]
  obtain ⟨u, d⟩ := h
  cases d with
  | none => simp only [Handle.text, Handle.qualified, Option.isSome_none, Option.getD_none,
      Bool.false_eq_true, if_false, String.append_assoc]
  | some d => rfl

/-- To write a handle in full makes no difference to the title. -/
lemma Header.title_writtenInFull (read : a.handle = .ok h)
    (known : Domain.fault? config.localDomain.toList = none) :
    title (a.writtenInFull h config.localDomain) config = title a config := by
  rw [title_of_handle read, title_of_handle (Account.handle_writtenInFull read known)]
  rfl

/-- A decision does not change if search engines are told the same. -/
lemma Decision.withRobots_eq_self_iff {d : Decision} {robots : Robots} :
    d.withRobots robots = d ↔ d.header.robots = robots := by
  constructor
  · intro same
    exact (congrArg (·.header.robots) same).symm
  · rintro rfl
    rfl

/-- There are two things that search engines may be told. -/
lemma Robots.eq_noIndex_iff {robots : Robots} : robots = .noIndex ↔ robots ≠ .index := by
  cases robots <;> decide

/-- Search engines are welcome where no domain is written and the account does not object. -/
lemma Robots.ofAccount_eq_index_iff :
    ofAccount a = .index ↔ a.hasDomainPart = false ∧ a.noindex = false := by
  rw [ofAccount]
  cases a.hasDomainPart <;> cases a.noindex <;> decide

namespace ProfileInput

variable {input : ProfileInput}

/-- To write a handle in full makes no difference to the standing. -/
lemma standing_writtenInFull (read : input.account.handle = .ok h)
    (known : Domain.fault? config.localDomain.toList = none) :
    (input.writtenInFull h config).standing config = input.standing config := by
  have origin := Origin.ofAccount_writtenInFull read known
  show Standing.mk _ (Origin.ofAccount (input.account.writtenInFull h config.localDomain) _) _ _ _ =
    Standing.mk _ _ _ _ _
  rw [origin]
  rfl

/-- To write a handle in full makes no difference to the menu. -/
lemma menu_writtenInFull (read : input.account.handle = .ok h)
    (known : Domain.fault? config.localDomain.toList = none) :
    ((input.writtenInFull h config).decide config).menu = (input.decide config).menu := by
  have standing := standing_writtenInFull read known
  have same : (input.menuContext config).Alike
      ((input.writtenInFull h config).menuContext config) := by
    constructor
    case url | accountPage | domainPage | session => rfl
    case isSelf => exact congrArg Standing.isSelf standing
    case origin => exact congrArg Standing.origin standing
    case suspended => exact congrArg (·.lifecycle.isSuspended) standing
    case known => exact congrArg (·.ties.isSome) standing
    case ties => exact congrArg (fun s => s.actionableTies s.visibility input.session) standing
  exact congrArg Menu.layout same.sections

/-- To write a handle in full makes a difference to search engines only. -/
lemma header_writtenInFull (read : input.account.handle = .ok h)
    (known : Domain.fault? config.localDomain.toList = none) :
    ((input.writtenInFull h config).decide config).header =
      { (input.decide config).header with robots := .noIndex } := by
  have named : Robots.ofAccount (input.account.writtenInFull h config.localDomain) = .noIndex := by
    rw [Robots.ofAccount, Account.hasDomainPart_writtenInFull read known]
    rfl
  show Header.resolve (input.account.writtenInFull h config.localDomain)
    ((input.writtenInFull h config).standing config) _ _ _ = _
  rw [standing_writtenInFull read known, Header.resolve, named,
    Header.title_writtenInFull read known]
  rfl

/-- The decision on a handle that is written in full tells search engines to stay away. -/
lemma decide_eq_withRobots (read : input.account.handle = .ok h)
    (known : Domain.fault? config.localDomain.toList = none) :
    (input.writtenInFull h config).decide config =
      (input.decide config).withRobots .noIndex := by
  have standing := standing_writtenInFull read known
  have primary : ((input.writtenInFull h config).decide config).primaryAction =
      (input.decide config).primaryAction :=
    congrArg (fun s => PrimaryAction.resolve input.account s s.visibility input.session) standing
  have toggles : ((input.writtenInFull h config).decide config).toggles =
      (input.decide config).toggles :=
    congrArg (fun s => Toggles.resolve s s.visibility input.session) standing
  have visibility : ((input.writtenInFull h config).decide config).visibility =
      (input.decide config).visibility := congrArg Standing.visibility standing
  have redacted : ((input.writtenInFull h config).decide config).redacted =
      (input.decide config).redacted := congrArg (·.visibility.redacted) standing
  have tags : ((input.writtenInFull h config).decide config).tags = (input.decide config).tags :=
    congrArg (fun s => Tag.resolve s s.visibility) standing
  rw [Decision.withRobots, ← header_writtenInFull read known, ← menu_writtenInFull read known,
    ← primary, ← toggles, ← visibility, ← redacted, ← tags]

/-- Search engines are told by the text of the handle. -/
lemma robots_decide_eq_index_iff (read : input.account.handle = .ok h) (config : Config) :
    (input.decide config).header.robots = .index ↔
      h.domain = none ∧ input.account.noindex = false := by
  show Robots.ofAccount input.account = .index ↔ _
  rw [Robots.ofAccount_eq_index_iff, Account.hasDomainPart_of_handle read,
    Option.isSome_eq_false_iff, Option.isNone_iff_eq_none]

/-- An account without a domain in its handle is local. -/
lemma origin_of_no_domain (read : input.account.handle = .ok h) (none : h.domain = none)
    (config : Config) : (input.standing config).origin = .local := by
  show Origin.ofAccount input.account config.localDomain = .local
  rw [Origin.ofAccount_of_handle read, Handle.isRemoteFor, none]
  rfl

/-- To write the handle of an account in full takes its page from the search engines and changes
nothing else. So nothing changes exactly if the handle has a domain already or the account objects
to be found. Of the local accounts that do not object, those are indexed whose handles are written
without a domain. -/
theorem decide_writtenInFull (valid : config.fault? = none) (read : input.account.handle = .ok h) :
    (input.writtenInFull h config).decide config = (input.decide config).withRobots .noIndex ∧
    ((input.writtenInFull h config).decide config = input.decide config ↔
      h.domain ≠ none ∨ input.account.noindex = true) ∧
    ((input.decide config).header.robots = .index ↔
      (input.standing config).origin = .local ∧ input.account.noindex = false ∧
        h.domain = none) := by
  have changed := decide_eq_withRobots read (config.localDomain_faultless valid)
  have indexed := robots_decide_eq_index_iff read config
  refine ⟨changed, ?_, ?_⟩
  · rw [changed, Decision.withRobots_eq_self_iff, Robots.eq_noIndex_iff, ne_eq, indexed, not_and_or,
      Bool.not_eq_false]
  · rw [indexed]
    constructor
    · rintro ⟨none, welcome⟩
      exact ⟨origin_of_no_domain read none config, welcome, none⟩
    · rintro ⟨-, welcome, none⟩
      exact ⟨none, welcome⟩

/-- An account of the server "home.example" that names its domain in capitals. -/
def sampleShouted : ProfileInput where
  account := Account.onServer ⟨"1"⟩ "alice" "HOME.example"
  relationship := some .ofFollower
  session := .ofViewer ⟨"100"⟩

/-- Nothing changes for an account that names the local domain already. -/
theorem sampleShouted_writtenInFull :
    (Config.ofDomain "home.example").fault? = none ∧
      sampleShouted.account.handle = .ok ⟨"alice", some "HOME.example"⟩ ∧
      (sampleShouted.writtenInFull ⟨"alice", some "HOME.example"⟩ (.ofDomain "home.example")).decide
        (.ofDomain "home.example") = sampleShouted.decide (.ofDomain "home.example") := by
  have valid : (Config.ofDomain "home.example").fault? = none := by decide
  have read : sampleShouted.account.handle = .ok ⟨"alice", some "HOME.example"⟩ := by decide
  obtain ⟨-, same, -⟩ := decide_writtenInFull valid read
  exact ⟨valid, read, same.2 (.inl nofun)⟩

/-- A local account is not found any more once its handle is written in full. -/
theorem not_decide_writtenInFull :
    ¬ ∀ (config : Config) (input : ProfileInput) (h : Handle), config.fault? = none →
      input.account.handle = .ok h →
      (input.writtenInFull h config).decide config = input.decide config := by
  intro all
  have same := all (.ofDomain "home.example") (.anonymous (.onLocalServer ⟨"1"⟩ "alice"))
    ⟨"alice", none⟩ (by decide) (by decide)
  have robots := congrArg (·.header.robots) same
  revert robots
  decide

end ProfileInput

end ProfileControls
