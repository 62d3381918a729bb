import ProfileControls.Proofs.Account.Rules
import ProfileControls.Proofs.Profile.Qualification

/-!
# Where accounts live

The text of a handle is read in three places: the origin of an account looks for an `@` before it
reads the handle, the reading of handles takes the text apart at its first `@`, and the title of a
page looks for an `@` again. They agree (`ProfileInput.readersAgree`), since the domain of a handle
that can be read is what stands behind the only `@` of its text (`Handle.domain_eq_some_iff`). Texts
that cannot be read are told apart by the `@` alone.
-/

namespace ProfileControls

/-- The text has exactly one `@`, and the domain is all that stands behind it. -/
def Handle.StandsBehind (domain text : String) : Prop :=
  ∃ before : String, '@' ∉ before.toList ∧ '@' ∉ domain.toList ∧ text = before ++ "@" ++ domain

/-- The name that the title of a page begins with. -/
def Account.titleName (a : Account) : String :=
  if Text.trim a.displayName = "" then a.username else Text.trim a.displayName

/-- What an account with the given text of its handle is taken for, in the origin and in the title
of its page, is what the handle says. -/
structure Account.ReadersAgree (a : Account) (localDomain : String) (origin : Origin)
    (title : String) : Prop where
  isLocal : origin = .local ↔
    '@' ∉ a.handleText.toList ∨
      ∃ h d, a.handle = .ok h ∧ h.domain = some d ∧ Text.sameUpToCase d localDomain = true
  /-- remote without a domain -/
  unusable : origin = .remote none ↔ '@' ∈ a.handleText.toList ∧ ∃ e, a.handle = .error e
  remote : ∀ d, origin = .remote (some d) ↔
    (∃ h, a.handle = .ok h) ∧ Handle.StandsBehind d a.handleText ∧
      Domain.fault? d.toList = none ∧ Text.sameUpToCase d localDomain = false
  /-- the domain of a handle that can be read -/
  domain : ∀ h, a.handle = .ok h → ∀ d, h.domain = some d ↔
    Handle.StandsBehind d a.handleText ∧ Domain.fault? d.toList = none
  title : ∀ h, a.handle = .ok h →
    title = a.titleName ++ " (@" ++ h.qualified localDomain ++ ")"

/-! ## Handles -/

namespace Handle

variable {h : Handle} {text d : String}

/-- The text of a handle with a domain has both around a mark. -/
lemma text_of_domain (named : h.domain = some d) : h.text = h.username ++ "@" ++ d := by
  rw [Handle.text, named]

/-- The domain of a valid handle has no fault. -/
lemma Valid.domain_faultless (valid : h.Valid) (named : h.domain = some d) :
    Domain.fault? d.toList = none :=
  Domain.fault?_eq_none_iff.2 ((valid_iff_wellFormed.1 valid).domain d named)

/-- A domain that may stand in a handle has no `@`. -/
lemma not_mem_of_faultless (faultless : Domain.fault? d.toList = none) : '@' ∉ d.toList := by
  intro mem
  obtain ⟨-, free⟩ := (Domain.fault?_eq_none_iff.1 faultless).legal _ mem
  exact free (by decide)

/-- The domain of a handle is what stands behind the only `@`. -/
lemma domain_eq_some_iff (read : parse text = .ok h) :
    h.domain = some d ↔ StandsBehind d text ∧ Domain.fault? d.toList = none := by
  obtain ⟨valid, rfl⟩ := parse_eq_ok_iff.1 read
  constructor
  · intro named
    have faultless := valid.domain_faultless named
    exact ⟨⟨h.username, valid.username, not_mem_of_faultless faultless, text_of_domain named⟩,
      faultless⟩
  · rintro ⟨⟨before, clean, -, joined⟩, -⟩
    -- both ways of joining the text come apart at its first `@`
    have apart := split_join valid.username (h.domain.map String.toList)
    rw [← toList_text, joined, toList_mark, split_join clean] at apart
    have same := (Prod.mk.inj apart).2
    rw [← map_ofList_toList h.domain, ← same, Option.map_some, String.ofList_toList]

/-- A handle is remote if it has a domain that is not that of the local server. -/
lemma isRemoteFor_eq (h : Handle) (localDomain : String) :
    h.isRemoteFor localDomain = !h.domain.all (Text.sameUpToCase · localDomain) := by
  rw [isRemoteFor]
  cases h.domain <;> rfl

end Handle

/-! ## Origins -/

namespace Origin

variable {a : Account} {h : Handle} {localDomain : String}

/-- An account whose handle cannot be read is remote if there is a mark in it. -/
lemma ofAccount_of_unreadable {e : InvalidHandle} (read : a.handle = .error e)
    (localDomain : String) :
    ofAccount a localDomain = if '@' ∈ a.handleText.toList then .remote none else .local := by
  rw [ofAccount, read, Account.hasDomainPart]
  simp only [List.contains_iff_mem]

/-- An account whose handle can be read is remote if it has a domain of another server. -/
lemma ofAccount_of_readable (read : a.handle = .ok h) (localDomain : String) :
    ofAccount a localDomain =
      if h.domain.all (Text.sameUpToCase · localDomain) then .local else .remote h.domain := by
  rw [ofAccount_of_handle read, Handle.isRemoteFor_eq]
  cases h.domain.all (Text.sameUpToCase · localDomain) <;> rfl

/-- The domain of a remote account is that of its handle. -/
lemma handle_of_remote {d : String} (remote : ofAccount a localDomain = .remote (some d)) :
    ∃ h, a.handle = .ok h ∧ h.domain = some d := by
  cases read : a.handle with
  | error e =>
    rw [ofAccount_of_unreadable read] at remote
    split at remote <;> cases remote
  | ok h =>
    rw [ofAccount_of_readable read] at remote
    split at remote
    · cases remote
    · exact ⟨h, rfl, Origin.remote.inj remote⟩

end Origin

namespace ProfileInput

variable {input : ProfileInput} {config : Config}

/-- Texts that cannot be read are told apart by the `@` alone. -/
lemma readersAgree_of_unreadable {e : InvalidHandle} (read : input.account.handle = .error e)
    (config : Config) :
    input.account.ReadersAgree config.localDomain (input.standing config).origin
      (input.decide config).header.pageTitle := by
  have origin : (input.standing config).origin = _ :=
    Origin.ofAccount_of_unreadable read config.localDomain
  constructor
  case isLocal => simp [origin, read]
  case unusable => simp [origin, read]
  case remote =>
    intro d
    rw [origin, read]
    split <;> simp
  case domain | title =>
    intro h readable
    cases read.symm.trans readable

/-- A handle that can be read is told by its domain. -/
lemma readersAgree_of_readable {h : Handle} (read : input.account.handle = .ok h)
    (config : Config) :
    input.account.ReadersAgree config.localDomain (input.standing config).origin
      (input.decide config).header.pageTitle := by
  have origin : (input.standing config).origin = _ :=
    Origin.ofAccount_of_readable read config.localDomain
  have domain : ∀ d, h.domain = some d ↔
      Handle.StandsBehind d input.account.handleText ∧ Domain.fault? d.toList = none :=
    fun d => Handle.domain_eq_some_iff read
  have mark : '@' ∈ input.account.handleText.toList ↔ h.domain.isSome = true := by
    rw [← Account.hasDomainPart_of_handle read]
    exact List.contains_iff_mem.symm
  constructor
  case isLocal =>
    rw [origin, read, mark]
    cases named : h.domain <;> simp [named]
  case unusable =>
    rw [origin, read]
    cases named : h.domain with
    | none => simp
    | some d =>
      rw [Option.all_some]
      split <;> simp
  case remote =>
    intro d
    have readable : ∃ h', input.account.handle = .ok h' := ⟨h, read⟩
    rw [origin, ← and_assoc (a := Handle.StandsBehind _ _), ← domain d, and_iff_right readable]
    cases named : h.domain with
    | none => simp
    | some d' =>
      rw [Option.all_some, Option.some.injEq]
      cases same : Text.sameUpToCase d' config.localDomain with
      | true =>
        refine iff_of_false nofun ?_
        rintro ⟨rfl, other⟩
        cases same.symm.trans other
      | false =>
        constructor
        · intro remote
          cases remote
          exact ⟨rfl, same⟩
        · rintro ⟨rfl, -⟩
          rfl
  case domain =>
    intro h' readable
    cases read.symm.trans readable
    exact domain
  case title =>
    intro h' readable
    cases read.symm.trans readable
    exact Header.title_of_handle read config

/-- Where a subject is said to live, and how the title of its page shows its handle, agree with what
the text of the handle is read as, for every text. -/
theorem readersAgree (input : ProfileInput) (config : Config) :
    input.account.ReadersAgree config.localDomain (input.standing config).origin
      (input.decide config).header.pageTitle := by
  cases read : input.account.handle with
  | error e => exact readersAgree_of_unreadable read config
  | ok h => exact readersAgree_of_readable read config

end ProfileInput

end ProfileControls
