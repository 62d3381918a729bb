import Mathlib.Data.List.Induction
import Mathlib.Tactic.Lemma
import ProfileControls.Command

/-!
# Where settings come from

A setting has its value from the last variable of its name in the environment, or else from the
configuration file, or else it has the standard one (`Config.settled`). The file counts as a whole
first: one that is there has to be read and both settings in it have to be strings, whether or not
they are overridden. What is in force in the end is then validated, and nothing else is.

Variables are taken one after the other, so the last of each name wins. That is shown once, by
induction on the environment from its end (`Config.overrideAll_eq`); all else on variables is read
off the lists of those of either name.
-/

namespace ProfileControls

/-- The string that a document writes under a key. -/
def Toml.Entries.text? (t : Toml.Entries) (key : String) : Option String :=
  match t.lookup key with
  | some (.text s) => some s
  | _ => none

namespace Config

/-- The variables of a name, in their order. -/
def named (name : String) (environment : List (String × String)) : List (String × String) :=
  environment.filter (·.1 = name)

/-- The value of the last variable of a name. -/
def lastNamed? (name : String) (environment : List (String × String)) : Option String :=
  (named name environment).getLast?.map (·.2)

/-- What is written in a configuration file. A file that is absent writes nothing. -/
def document? : FileState → Option Toml.Entries
  | .missing => some []
  | .unreadable => none
  | .text content => Toml.parse? content

/-- Settings can be taken from the document: under their keys there are strings, or nothing. -/
structure Decodes (t : Toml.Entries) : Prop where
  localDomain : ∀ n ∈ t.lookup "local_domain", ∃ s, n = .text s
  adminPathPrefix : ∀ n ∈ t.lookup "admin_path_prefix", ∃ s, n = .text s

/-- The settings that are in force, given what the configuration file writes and the variables of
the environment. -/
def settled (t : Toml.Entries) (environment : List (String × String)) : Config where
  localDomain :=
    (lastNamed? "ROOST_LOCAL_DOMAIN" environment).getD ((t.text? "local_domain").getD "localhost")
  adminPathPrefix :=
    (lastNamed? "ROOST_ADMIN_PATH_PREFIX" environment).getD
      ((t.text? "admin_path_prefix").getD "/admin")

/-- The environments have the same variables of either name, in the same order for each name. -/
structure SameVariables (environment other : List (String × String)) : Prop where
  localDomain : named "ROOST_LOCAL_DOMAIN" other = named "ROOST_LOCAL_DOMAIN" environment
  adminPathPrefix :
    named "ROOST_ADMIN_PATH_PREFIX" other = named "ROOST_ADMIN_PATH_PREFIX" environment

/-- How settings are loaded from a file and an environment. -/
structure LoadedByRules (file : SourceFile) (environment : List (String × String)) : Prop where
  /-- loading succeeds exactly with settings that are in force and valid -/
  succeeds : ∀ c, loadWithEnvironment file environment = .ok c ↔
    ∃ t, document? file.state = some t ∧ Decodes t ∧ c = settled t environment ∧ c.fault? = none
  /-- settings that are in force and not valid are turned down, with the first fault -/
  turnedDown : ∀ fault, loadWithEnvironment file environment = .error (.invalidConfig fault) ↔
    ∃ t, document? file.state = some t ∧ Decodes t ∧ (settled t environment).fault? = some fault
  /-- a file from which no settings can be taken is reported as such -/
  unusable : (∃ fault, loadWithEnvironment file environment = .error (.config file.path fault)) ↔
    ∀ t, document? file.state = some t → ¬ Decodes t
  /-- of what a usable file writes, only that counts which is in force -/
  inForce : ∀ other t t', document? file.state = some t → document? other.state = some t' →
    Decodes t → Decodes t' → settled t' environment = settled t environment →
    loadWithEnvironment other environment = loadWithEnvironment file environment
  /-- other variables do not count, nor does how the two names are mixed -/
  others : ∀ other, SameVariables environment other →
    loadWithEnvironment file other = loadWithEnvironment file environment
  /-- the same variables once more change nothing -/
  again : loadWithEnvironment file (environment ++ environment) =
    loadWithEnvironment file environment

variable {environment other : List (String × String)} {t : Toml.Entries} {file : SourceFile}
  {c : Config}

/-! ## Variables -/

/-- A last variable of the name counts, and one of another name does not. -/
lemma lastNamed?_concat (name : String) (environment : List (String × String))
    (assignment : String × String) :
    lastNamed? name (environment ++ [assignment]) =
      if assignment.1 = name then some assignment.2 else lastNamed? name environment := by
  rw [lastNamed?, named, List.filter_append]
  by_cases same : assignment.1 = name
  · simp [same]
  · simp [same, lastNamed?, named]

/-- The same variables once more have the same last one. -/
lemma lastNamed?_again (name : String) (environment : List (String × String)) :
    lastNamed? name (environment ++ environment) = lastNamed? name environment := by
  rw [lastNamed?, named, List.filter_append, List.getLast?_append, Option.or_self]
  rfl

/-- Of each setting, the last variable of its name decides. -/
lemma overrideAll_eq (c : Config) (environment : List (String × String)) :
    c.overrideAll environment =
      ⟨(lastNamed? localDomainVariable environment).getD c.localDomain,
        (lastNamed? adminPathPrefixVariable environment).getD c.adminPathPrefix⟩ := by
  have apart : localDomainVariable ≠ adminPathPrefixVariable := by decide
  induction environment using List.reverseRecOn with
  | nil => rfl
  | append_singleton environment assignment ih =>
    rw [overrideAll, List.foldl_append, List.foldl_cons, List.foldl_nil, ← overrideAll, ih,
      override, lastNamed?_concat, lastNamed?_concat]
    -- the last variable has one of the names, or neither
    by_cases domain : assignment.1 = localDomainVariable
    · rw [if_pos domain, if_pos domain, if_neg (domain ▸ apart)]
      rfl
    · rw [if_neg domain, if_neg domain]
      by_cases path : assignment.1 = adminPathPrefixVariable
      · rw [if_pos path, if_pos path]
        rfl
      · rw [if_neg path, if_neg path]

/-- What is in force is what the file writes with the variables of the environment over it. -/
lemma settled_eq (t : Toml.Entries) (environment : List (String × String)) :
    settled t environment = (settled t []).overrideAll environment := by
  rw [overrideAll_eq]
  rfl

/-- Overriding sees of an environment only the variables of either name. -/
lemma overrideAll_congr (same : SameVariables environment other) (c : Config) :
    c.overrideAll other = c.overrideAll environment := by
  have domain : lastNamed? localDomainVariable other = lastNamed? localDomainVariable environment :=
    congrArg (·.getLast?.map (·.2)) same.localDomain
  have path : lastNamed? adminPathPrefixVariable other =
      lastNamed? adminPathPrefixVariable environment :=
    congrArg (·.getLast?.map (·.2)) same.adminPathPrefix
  rw [overrideAll_eq, overrideAll_eq, domain, path]

/-- To override once more with the same variables changes nothing. -/
lemma overrideAll_again (c : Config) (environment : List (String × String)) :
    c.overrideAll (environment ++ environment) = c.overrideAll environment := by
  rw [overrideAll_eq, overrideAll_eq, lastNamed?_again, lastNamed?_again]

/-! ## Files -/

/-- An entry is what stands under its key if that is a string, and the default if nothing does. -/
lemma entry?_eq_some_iff {key default s : String} :
    entry? t key default = some s ↔
      (∀ n ∈ t.lookup key, ∃ s, n = .text s) ∧ s = (t.text? key).getD default := by
  unfold entry? Toml.Entries.text?
  cases t.lookup key with
  | none => simp [eq_comm]
  | some n => cases n <;> simp [eq_comm]

/-- A text decodes to what it writes with nothing over it. -/
lemma ofToml?_eq_some_iff {content : String} :
    ofToml? content = some c ↔
      ∃ t, Toml.parse? content = some t ∧ Decodes t ∧ c = settled t [] := by
  simp only [ofToml?, Option.bind_eq_bind, Option.bind_eq_some_iff, entry?_eq_some_iff,
    Option.some.injEq]
  constructor
  · rintro ⟨t, written, _, ⟨domain, rfl⟩, _, ⟨path, rfl⟩, rfl⟩
    exact ⟨t, written, ⟨domain, path⟩, rfl⟩
  · rintro ⟨t, written, ⟨domain, path⟩, rfl⟩
    exact ⟨t, written, _, ⟨domain, rfl⟩, _, ⟨path, rfl⟩, rfl⟩

/-- Of a usable file the settings are taken, and without a file the standard ones. -/
lemma loadOrStandard_usable (written : document? file.state = some t) (decodes : Decodes t) :
    loadOrStandard file = .ok (settled t []) := by
  obtain ⟨path, state⟩ := file
  cases state with
  | missing =>
    cases written
    rfl
  | unreadable => cases written
  | text content =>
    have read := ofToml?_eq_some_iff.2 ⟨t, written, decodes, rfl⟩
    simp only [loadOrStandard, load, read]
    rfl

/-- A file that is not usable is reported with some fault. -/
lemma loadOrStandard_unusable (unusable : ∀ t, document? file.state = some t → ¬ Decodes t) :
    ∃ fault, loadOrStandard file = .error (.config file.path fault) := by
  obtain ⟨path, state⟩ := file
  cases state with
  | missing => exact absurd ⟨nofun, nofun⟩ (unusable [] rfl)
  | unreadable => exact ⟨.io, rfl⟩
  | text content =>
    have unread : ofToml? content = none := by
      rw [Option.eq_none_iff_forall_ne_some]
      intro c read
      obtain ⟨t, written, decodes, -⟩ := ofToml?_eq_some_iff.1 read
      exact unusable t written decodes
    refine ⟨.parse, ?_⟩
    simp only [loadOrStandard, load, unread]
    rfl

/-! ## Loading -/

/-- From a usable file, what is in force is validated and nothing else is. -/
lemma load_usable (written : document? file.state = some t) (decodes : Decodes t)
    (environment : List (String × String)) :
    loadWithEnvironment file environment =
      match (settled t environment).fault? with
      | some fault => .error (.invalidConfig fault)
      | none => .ok (settled t environment) := by
  rw [loadWithEnvironment, loadOrStandard_usable written decodes, settled_eq t environment]
  rfl

/-- The environment cannot make up for a file that is not usable. -/
lemma load_unusable (unusable : ∀ t, document? file.state = some t → ¬ Decodes t)
    (environment : List (String × String)) :
    ∃ fault, loadWithEnvironment file environment = .error (.config file.path fault) := by
  obtain ⟨fault, failed⟩ := loadOrStandard_unusable unusable
  refine ⟨fault, ?_⟩
  rw [loadWithEnvironment, failed]
  rfl

/-- A file is usable or it is not. -/
lemma usable_or (file : SourceFile) :
    (∃ t, document? file.state = some t ∧ Decodes t) ∨
      ∀ t, document? file.state = some t → ¬ Decodes t := by
  by_cases usable : ∃ t, document? file.state = some t ∧ Decodes t
  · exact .inl usable
  · exact .inr fun t written decodes => usable ⟨t, written, decodes⟩

/-- Loading succeeds exactly with valid settings that are in force. -/
lemma load_eq_ok_iff :
    loadWithEnvironment file environment = .ok c ↔
      ∃ t, document? file.state = some t ∧ Decodes t ∧ c = settled t environment ∧
        c.fault? = none := by
  constructor
  · intro loaded
    obtain ⟨t, written, decodes⟩ | unusable := usable_or file
    · rw [load_usable written decodes] at loaded
      cases valid : (settled t environment).fault? with
      | none =>
        rw [valid] at loaded
        cases loaded
        exact ⟨t, written, decodes, rfl, valid⟩
      | some fault =>
        rw [valid] at loaded
        cases loaded
    · obtain ⟨fault, failed⟩ := load_unusable unusable environment
      rw [failed] at loaded
      cases loaded
  · rintro ⟨t, written, decodes, rfl, valid⟩
    rw [load_usable written decodes, valid]

/-- Loading turns down exactly settings that are in force and not valid. -/
lemma load_eq_invalid_iff {fault : ConfigFault} :
    loadWithEnvironment file environment = .error (.invalidConfig fault) ↔
      ∃ t, document? file.state = some t ∧ Decodes t ∧
        (settled t environment).fault? = some fault := by
  constructor
  · intro turnedDown
    obtain ⟨t, written, decodes⟩ | unusable := usable_or file
    · rw [load_usable written decodes] at turnedDown
      cases invalid : (settled t environment).fault? with
      | none =>
        rw [invalid] at turnedDown
        cases turnedDown
      | some fault =>
        rw [invalid] at turnedDown
        cases turnedDown
        exact ⟨t, written, decodes, invalid⟩
    · obtain ⟨fault, failed⟩ := load_unusable unusable environment
      rw [failed] at turnedDown
      cases turnedDown
  · rintro ⟨t, written, decodes, invalid⟩
    rw [load_usable written decodes, invalid]

/-- Loading reports a file exactly if it is not usable. -/
lemma load_unusable_iff :
    (∃ fault, loadWithEnvironment file environment = .error (.config file.path fault)) ↔
      ∀ t, document? file.state = some t → ¬ Decodes t := by
  constructor
  · rintro ⟨fault, failed⟩ t written decodes
    rw [load_usable written decodes] at failed
    split at failed <;> cases failed
  · exact fun unusable => load_unusable unusable environment

/-- An environment counts by what it makes of settings. -/
lemma load_congr (same : ∀ c : Config, c.overrideAll other = c.overrideAll environment) :
    loadWithEnvironment file other = loadWithEnvironment file environment := by
  simp only [loadWithEnvironment, same]

/-- Settings are loaded by the rules, whatever the file holds and the environment gives. To take the
same variables twice is to take them once. -/
theorem loadedByRules (file : SourceFile) (environment : List (String × String)) :
    LoadedByRules file environment ∧
      ∀ c : Config, (c.overrideAll environment).overrideAll environment =
        c.overrideAll environment := by
  constructor
  · constructor
    case succeeds => exact fun c => load_eq_ok_iff
    case turnedDown => exact fun fault => load_eq_invalid_iff
    case unusable => exact load_unusable_iff
    case inForce =>
      intro other t t' written written' decodes decodes' same
      rw [load_usable written' decodes', load_usable written decodes, same]
    case others => exact fun other same => load_congr (overrideAll_congr same)
    case again => exact load_congr (overrideAll_again · environment)
  · intro c
    have twice : c.overrideAll (environment ++ environment) =
        (c.overrideAll environment).overrideAll environment := List.foldl_append
    rw [← twice, overrideAll_again]

/-- The domain of this file is invalid, and its path is not. -/
def sampleFile : SourceFile where
  path := "roost.toml"
  state := .text "local_domain = \"a@b\"\nadmin_path_prefix = \"/mod\"\n"

/-- An invalid setting does no harm if a variable overrides it, and a valid one does no good. -/
theorem sampleFile_overridden :
    (∃ t, document? sampleFile.state = some t ∧ Decodes t ∧
      t.text? "local_domain" = some "a@b" ∧ t.text? "admin_path_prefix" = some "/mod") ∧
    loadWithEnvironment sampleFile
        [("ROOST_LOCAL_DOMAIN", ""), ("HOME", "/root"), ("ROOST_LOCAL_DOMAIN", "home.example")] =
      .ok ⟨"home.example", "/mod"⟩ ∧
    loadWithEnvironment sampleFile
        [("ROOST_ADMIN_PATH_PREFIX", "mod"), ("ROOST_LOCAL_DOMAIN", "home.example")] =
      .error (.invalidConfig .adminPathPrefix) := by
  have written : document? sampleFile.state =
      some [("local_domain", .text "a@b"), ("admin_path_prefix", .text "/mod")] := by
    rfl
  have decodes : Decodes [("local_domain", .text "a@b"), ("admin_path_prefix", .text "/mod")] := by
    constructor
    case localDomain =>
      rintro n ⟨⟩
      exact ⟨_, rfl⟩
    case adminPathPrefix =>
      rintro n ⟨⟩
      exact ⟨_, rfl⟩
  refine ⟨⟨_, written, decodes, rfl, rfl⟩, ?_, ?_⟩
  · obtain ⟨rules, -⟩ := loadedByRules sampleFile
      [("ROOST_LOCAL_DOMAIN", ""), ("HOME", "/root"), ("ROOST_LOCAL_DOMAIN", "home.example")]
    exact (rules.succeeds _).2 ⟨_, written, decodes, by decide, by decide⟩
  · obtain ⟨rules, -⟩ := loadedByRules sampleFile
      [("ROOST_ADMIN_PATH_PREFIX", "mod"), ("ROOST_LOCAL_DOMAIN", "home.example")]
    exact (rules.turnedDown _).2 ⟨_, written, decodes, by decide⟩

end Config

end ProfileControls
