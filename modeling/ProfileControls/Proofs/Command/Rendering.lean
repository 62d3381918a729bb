import Mathlib.Tactic.Lemma
import ProfileControls.Command
import ProfileControls.Proofs.Json.RoundTrip
import ProfileControls.Proofs.Profile.Surfaces
import ProfileControls.Proofs.Record.Answers

/-!
# What commands show of files

The files of an input are read in a fixed order: account, relationship, session. Either every file
that is given holds its record, and then the files give one input (`InputFiles.Give`) whose decision
or row is printed, and can be read off what is printed; or some file does not, and then the first
one that does not is the error (`InputFiles.FailWith`), whatever is in those behind it.

For a relationship no file is not the same as an empty record. Without a file it is unknown, which
no record says, and what is printed tells the two apart (`InputFiles.Give.render_ne`). For a session
it is the same. Without a file the session is the anonymous one, which an empty record is too
(`InputFiles.Give.session_eq_anonymous_iff`).
-/

namespace ProfileControls

/-- To viewers who are signed in, no primary action is shown while the relationship is unknown. -/
lemma ProfileInput.primaryAction_of_unknown {input : ProfileInput} {config : Config}
    (signedIn : input.session.signedIn = true) (unknown : input.relationship = none) :
    (input.decide config).primaryAction = none := by
  by_contra offered
  obtain ⟨-, known, -⟩ := (primaryAction_ne_none_iff signedIn).1 offered
  exact known unknown

namespace SourceFile

variable {α : Type}

/-- There is a text in the file, it is JSON, and it decodes to the record. -/
def Holds (file : SourceFile) (read : Json.Value → Option α) (record : α) : Prop :=
  ∃ content v, file.state = .text content ∧ Json.parse? content = some v ∧ read v = some record

/-- How a file is reported that holds no record. -/
inductive Fails (file : SourceFile) (read : Json.Value → Option α) : CommandError → Prop where
  /-- there is no text in it -/
  | read :
    (∀ content, file.state ≠ .text content) →
    Fails file read (.read file.path)
  /-- the text is no JSON, or does not decode -/
  | parse {content : String} :
    file.state = .text content →
    (∀ v, Json.parse? content = some v → read v = none) →
    Fails file read (.parse file.path)

end SourceFile

namespace InputFiles

/-- Every file that is given holds its record. -/
structure Usable (files : InputFiles) : Prop where
  account : ∃ a, files.account.Holds Account.ofJson? a
  relationship : ∀ file ∈ files.relationship, ∃ r, file.Holds Relationship.ofJson? r
  session : ∀ file ∈ files.session, ∃ s, file.Holds Session.ofJson? s

/-- The input is put together from the records in the files. -/
structure Give (files : InputFiles) (input : ProfileInput) : Prop where
  account : files.account.Holds Account.ofJson? input.account
  known : ∀ file ∈ files.relationship,
    ∃ r, file.Holds Relationship.ofJson? r ∧ input.relationship = some r
  unknown : files.relationship = none → input.relationship = none
  session : ∀ file ∈ files.session, file.Holds Session.ofJson? input.session
  anonymous : files.session = none → input.session = .anonymous
  hidden : input.hidden = files.hidden

/-- The first file that holds no record is reported in this way. -/
inductive FailWith (files : InputFiles) : CommandError → Prop where
  | account {e : CommandError} :
    files.account.Fails Account.ofJson? e →
    FailWith files e
  | relationship {file : SourceFile} {e : CommandError} :
    (∃ a, files.account.Holds Account.ofJson? a) →
    files.relationship = some file →
    file.Fails Relationship.ofJson? e →
    FailWith files e
  | session {file : SourceFile} {e : CommandError} :
    (∃ a, files.account.Holds Account.ofJson? a) →
    (∀ file ∈ files.relationship, ∃ r, file.Holds Relationship.ofJson? r) →
    files.session = some file →
    file.Fails Session.ofJson? e →
    FailWith files e

/-- What commands show of files under a configuration, and how they fail. -/
structure ShownByRules (files : InputFiles) (config : Config) : Prop where
  /-- a command succeeds exactly if every given file holds its record -/
  succeeds : ∀ view : View, (∃ output, view.render config files = .ok output) ↔ files.Usable
  /-- the files then give one input -/
  given : files.Usable → ∃! input, files.Give input
  /-- what is printed reads back as the record of the decision on that input, and of no other -/
  decision : ∀ input, files.Give input → ∃ output,
    View.decision.render config files = .ok output ∧
      ∀ d : Decision, Json.parse? output = some d.toJson ↔ d = input.decide config
  /-- so it does as the record of the row of that input -/
  row : ∀ default input, files.Give input → ∃ output,
    (View.row default).render config files = .ok output ∧
      ∀ c : RowControls, Json.parse? output = some c.toJson ↔ c = input.row default
  /-- a command fails exactly in the way of the first file that holds no record -/
  fails : ∀ (view : View) e, view.render config files = .error e ↔ files.FailWith e
  /-- the relationship is known exactly if a file is given for it -/
  known : ∀ input, files.Give input → (input.relationship ≠ none ↔ files.relationship ≠ none)
  /-- the session is the anonymous one exactly if the file for it, if there is one, holds it -/
  anonymous : ∀ input, files.Give input →
    (input.session = .anonymous ↔ ∀ file ∈ files.session, file.Holds Session.ofJson? .anonymous)
  /-- where a viewer who is signed in sees another's account and nothing is redacted, what is
  printed tells whether a file is given for the relationship, whatever is in it -/
  tells : ∀ input output, files.Give input → files.relationship ≠ none →
    input.session.signedIn = true → input.session.isViewer input.account.id = false →
    (input.decide config).redacted = false → View.decision.render config files = .ok output →
    View.decision.render config { files with relationship := none } ≠ .ok output

end InputFiles

/-! ## Single files -/

namespace SourceFile

variable {α : Type} {file : SourceFile} {read : Json.Value → Option α} {a b : α} {e : CommandError}

/-- A file that holds a record is read as that record. -/
lemma Holds.record (holds : file.Holds read a) : file.record read = .ok a := by
  obtain ⟨content, v, found, written, decoded⟩ := holds
  simp only [SourceFile.record, found, written, Option.bind_eq_bind, Option.bind_some, decoded]

/-- A file that fails is reported in its way. -/
lemma Fails.record (fails : file.Fails read e) : file.record read = .error e := by
  cases fails with
  | read textless =>
    rw [SourceFile.record]
    split
    case h_3 content found => exact absurd found (textless content)
    all_goals rfl
  | @parse content found undecoded =>
    have unread : Json.parse? content >>= read = none := Option.bind_eq_none_iff.2 undecoded
    simp only [SourceFile.record, found, unread]

/-- A file holds a record or fails. -/
lemma holds_or_fails (file : SourceFile) (read : Json.Value → Option α) :
    (∃ a, file.Holds read a) ∨ ∃ e, file.Fails read e := by
  cases found : file.state with
  | missing | unreadable => exact .inr ⟨_, .read fun _ text => nomatch found.symm.trans text⟩
  | text content =>
    cases decoded : Json.parse? content >>= read with
    | none => exact .inr ⟨_, .parse found (Option.bind_eq_none_iff.1 decoded)⟩
    | some a =>
      obtain ⟨v, written, decoded⟩ := Option.bind_eq_some_iff.1 decoded
      exact .inl ⟨a, content, v, found, written, decoded⟩

/-- A file holds one record. -/
lemma Holds.unique (holds : file.Holds read a) (also : file.Holds read b) : b = a := by
  have same := also.record
  rw [holds.record] at same
  exact (Except.ok.inj same).symm

/-! ### Files that may not be given -/

variable {file? : Option SourceFile}

/-- A file that is given and holds a record is read as that record. -/
lemma mapM_record_of_holds (given : file? = some file) (holds : file.Holds read a) :
    file?.mapM (·.record read) = .ok (some a) := by
  rw [given]
  change some <$> file.record read = .ok (some a)
  rw [holds.record]
  rfl

/-- A file that is given and fails is reported in its way. -/
lemma mapM_record_of_fails (given : file? = some file) (fails : file.Fails read e) :
    file?.mapM (·.record read) = .error e := by
  rw [given]
  change some <$> file.record read = .error e
  rw [fails.record]
  rfl

/-- A file that holds a record if it is given can be read. -/
lemma mapM_record_of_usable (usable : ∀ file ∈ file?, ∃ a, file.Holds read a) :
    ∃ a?, file?.mapM (·.record read) = .ok a? := by
  cases given : file? with
  | none => exact ⟨none, rfl⟩
  | some file =>
    obtain ⟨a, holds⟩ := usable file given
    exact ⟨some a, mapM_record_of_holds rfl holds⟩

/-- A file that may not be given holds a record if it is given, or it is given and fails. -/
lemma usable_or_fails (file? : Option SourceFile) (read : Json.Value → Option α) :
    (∀ file ∈ file?, ∃ a, file.Holds read a) ∨ ∃ file e, file? = some file ∧ file.Fails read e := by
  cases file? with
  | none => exact .inl nofun
  | some file =>
    obtain holds | ⟨e, fails⟩ := file.holds_or_fails read
    · exact .inl fun _ given => Option.some.inj given ▸ holds
    · exact .inr ⟨file, e, rfl, fails⟩

end SourceFile

/-! ## All files of an input -/

namespace InputFiles

variable {files : InputFiles} {input : ProfileInput} {e : CommandError}

/-- Files that give an input are loaded as that input. -/
lemma Give.load (give : files.Give input) : files.load = .ok input := by
  have relationship :
      files.relationship.mapM (·.record Relationship.ofJson?) = .ok input.relationship := by
    cases given : files.relationship with
    | none =>
      rw [give.unknown given]
      rfl
    | some file =>
      obtain ⟨r, holds, known⟩ := give.known file given
      rw [known]
      exact SourceFile.mapM_record_of_holds rfl holds
  have session : ∃ s?, files.session.mapM (·.record Session.ofJson?) = .ok s? ∧
      s?.getD .anonymous = input.session := by
    cases given : files.session with
    | none => exact ⟨none, rfl, (give.anonymous given).symm⟩
    | some file =>
      have holds := give.session file given
      exact ⟨some input.session, SourceFile.mapM_record_of_holds rfl holds, rfl⟩
  obtain ⟨s?, session, settled⟩ := session
  rw [InputFiles.load, give.account.record, relationship, session]
  change Except.ok (ProfileInput.mk input.account input.relationship (s?.getD .anonymous)
    files.hidden) = .ok input
  rw [settled, ← give.hidden]

/-- Files of which one fails are reported in the way of the first such file. -/
lemma FailWith.load (fails : files.FailWith e) : files.load = .error e := by
  cases fails with
  | account fails =>
    rw [InputFiles.load, fails.record]
    rfl
  | relationship account given fails =>
    obtain ⟨a, account⟩ := account
    have relationship := SourceFile.mapM_record_of_fails given fails
    rw [InputFiles.load, account.record, relationship]
    rfl
  | session account usable given fails =>
    obtain ⟨a, account⟩ := account
    obtain ⟨r?, relationship⟩ := SourceFile.mapM_record_of_usable usable
    have session := SourceFile.mapM_record_of_fails given fails
    rw [InputFiles.load, account.record, relationship, session]
    rfl

/-- Files are usable, or the first one that is not fails in some way. -/
lemma usable_or_failWith (files : InputFiles) : files.Usable ∨ ∃ e, files.FailWith e := by
  obtain account | ⟨e, fails⟩ := files.account.holds_or_fails Account.ofJson?
  · obtain relationship | ⟨file, e, given, fails⟩ :=
      SourceFile.usable_or_fails files.relationship Relationship.ofJson?
    · obtain session | ⟨file, e, given, fails⟩ :=
        SourceFile.usable_or_fails files.session Session.ofJson?
      · exact .inl ⟨account, relationship, session⟩
      · exact .inr ⟨e, .session account relationship given fails⟩
    · exact .inr ⟨e, .relationship account given fails⟩
  · exact .inr ⟨e, .account fails⟩

/-- Files that give an input are usable. -/
lemma Give.usable (give : files.Give input) : files.Usable where
  account := ⟨_, give.account⟩
  relationship file given := by
    obtain ⟨r, holds, -⟩ := give.known file given
    exact ⟨r, holds⟩
  session file given := ⟨_, give.session file given⟩

/-- Files give at most one input. -/
lemma Give.unique {other : ProfileInput} (give : files.Give input) (also : files.Give other) :
    other = input := by
  have same := also.load
  rw [give.load] at same
  cases same
  rfl

/-- Usable files give an input. -/
lemma Usable.give (usable : files.Usable) : ∃ input, files.Give input := by
  obtain ⟨a, account⟩ := usable.account
  obtain ⟨r?, known, unknown⟩ : ∃ r? : Option Relationship,
      (∀ file ∈ files.relationship, ∃ r, file.Holds Relationship.ofJson? r ∧ r? = some r) ∧
        (files.relationship = none → r? = none) := by
    cases given : files.relationship with
    | none => exact ⟨none, nofun, fun _ => rfl⟩
    | some file =>
      obtain ⟨r, holds⟩ := usable.relationship file given
      refine ⟨some r, ?_, nofun⟩
      rintro _ ⟨⟩
      exact ⟨r, holds, rfl⟩
  obtain ⟨s, held, anonymous⟩ : ∃ s : Session,
      (∀ file ∈ files.session, file.Holds Session.ofJson? s) ∧
        (files.session = none → s = .anonymous) := by
    cases given : files.session with
    | none => exact ⟨.anonymous, nofun, fun _ => rfl⟩
    | some file =>
      obtain ⟨s, holds⟩ := usable.session file given
      refine ⟨s, ?_, nofun⟩
      rintro _ ⟨⟩
      exact holds
  exact ⟨⟨a, r?, s, files.hidden⟩, account, known, unknown, held, anonymous, rfl⟩

/-- A file for the session may hold the anonymous one, which is the same as no file. -/
lemma Give.session_eq_anonymous_iff (give : files.Give input) :
    input.session = .anonymous ↔
      ∀ file ∈ files.session, file.Holds Session.ofJson? .anonymous := by
  constructor
  · intro anonymous file given
    rw [← anonymous]
    exact give.session file given
  · intro holds
    cases given : files.session with
    | none => exact give.anonymous given
    | some file => exact (holds file given).unique (give.session file given)

/-! ## Commands -/

variable {config : Config}

/-- What a view shows of an input is printed for the files that give it. -/
lemma Give.render (give : files.Give input) (view : View) (config : Config) :
    view.render config files = .ok ((view.answer config input).text .pretty) := by
  rw [View.render, give.load]
  rfl

/-- Whatever the view, files of which one fails are reported in the way of the first such file. -/
lemma FailWith.render (fails : files.FailWith e) (view : View) (config : Config) :
    view.render config files = .error e := by
  rw [View.render, fails.load]
  rfl

/-- The relationship is known exactly if a file is given for it. -/
lemma Give.relationship_ne_none_iff (give : files.Give input) :
    input.relationship ≠ none ↔ files.relationship ≠ none := by
  constructor
  · exact mt give.unknown
  · intro given unknown
    obtain ⟨file, given⟩ := Option.ne_none_iff_exists'.1 given
    obtain ⟨r, -, known⟩ := give.known file given
    rw [unknown] at known
    cases known

/-- Without the file for the relationship, the same input is given but for the relationship. -/
lemma Give.withoutRelationship (give : files.Give input) :
    Give { files with relationship := none } { input with relationship := none } :=
  { give with
    known := nofun
    unknown := fun _ => rfl }

/-- Only for a relationship that is known there is a primary action. -/
lemma Give.render_ne {output : String} (give : files.Give input) (given : files.relationship ≠ none)
    (signedIn : input.session.signedIn = true)
    (other : input.session.isViewer input.account.id = false)
    (shown : (input.decide config).redacted = false)
    (printed : View.decision.render config files = .ok output) :
    View.decision.render config { files with relationship := none } ≠ .ok output := by
  intro also
  rw [give.render] at printed
  rw [give.withoutRelationship.render, ← printed] at also
  have record := Json.text_injective Json.Layout.pretty_blank (Except.ok.inj also)
  have same := Decision.toJson_injective record
  have offered := (ProfileInput.primaryAction_ne_none_iff signedIn).2
    ⟨other, give.relationship_ne_none_iff.2 given, shown⟩
  rw [← same] at offered
  exact offered (ProfileInput.primaryAction_of_unknown signedIn rfl)

/-- Commands show what is in the files by the rules. -/
theorem shownByRules (files : InputFiles) (config : Config) : ShownByRules files config where
  succeeds view := by
    constructor
    · rintro ⟨output, shown⟩
      obtain usable | ⟨e, fails⟩ := files.usable_or_failWith
      · exact usable
      · rw [fails.render] at shown
        cases shown
    · intro usable
      obtain ⟨input, give⟩ := usable.give
      exact ⟨_, give.render view config⟩
  given usable := by
    obtain ⟨input, give⟩ := usable.give
    exact ⟨input, give, fun other also => give.unique also⟩
  decision input give := by
    refine ⟨_, give.render .decision config, fun d => ?_⟩
    rw [Json.parse?_text Json.Layout.pretty_blank, Option.some.injEq]
    exact eq_comm.trans Decision.toJson_injective.eq_iff
  row default input give := by
    refine ⟨_, give.render (.row default) config, fun c => ?_⟩
    rw [Json.parse?_text Json.Layout.pretty_blank, Option.some.injEq]
    exact eq_comm.trans RowControls.toJson_injective.eq_iff
  fails view e := by
    constructor
    · intro failed
      obtain usable | ⟨e', fails⟩ := files.usable_or_failWith
      · obtain ⟨input, give⟩ := usable.give
        rw [give.render] at failed
        cases failed
      · rw [fails.render] at failed
        cases failed
        exact fails
    · exact fun fails => fails.render view config
  known input give := give.relationship_ne_none_iff
  anonymous input give := give.session_eq_anonymous_iff
  tells input output give given signedIn other shown printed :=
    give.render_ne given signedIn other shown printed

/-- Files of a signed-in viewer. The record of the relationship is empty. -/
def sampleFiles : InputFiles where
  account := ⟨"account.json", .text "[\"7\", \"bob\", \"bob\"]"⟩
  relationship := some ⟨"relationship.json", .text "\x7b\x7d"⟩
  session := some ⟨"session.json", .text "[true, \"100\"]"⟩

/-- The input that these files give. -/
def sampleInput : ProfileInput where
  account := .onLocalServer ⟨"7"⟩ "bob"
  relationship := some {}
  session := .ofViewer ⟨"100"⟩

/-- The sample files hold the records of the sample input. -/
lemma sampleFiles_give : sampleFiles.Give sampleInput where
  account := ⟨_, .array [.string "7", .string "bob", .string "bob"], rfl, by cbv, by rfl⟩
  known := by
    rintro _ ⟨⟩
    exact ⟨{}, ⟨_, .object [], rfl, by cbv, by rfl⟩, rfl⟩
  unknown := nofun
  session := by
    rintro _ ⟨⟩
    exact ⟨_, .array [.bool true, .string "100"], rfl, by cbv, by rfl⟩
  anonymous := nofun
  hidden := rfl

/-- The same account with the empty record of a session. -/
def emptySession : InputFiles where
  account := ⟨"account.json", .text "[\"7\", \"bob\", \"bob\"]"⟩
  session := some ⟨"session.json", .text "\x7b\x7d"⟩

/-- An empty record of a session holds the anonymous one. -/
lemma emptySession_give : emptySession.Give (.anonymous (.onLocalServer ⟨"7"⟩ "bob")) where
  account := ⟨_, .array [.string "7", .string "bob", .string "bob"], rfl, by cbv, by rfl⟩
  known := nofun
  unknown _ := rfl
  session := by
    rintro _ ⟨⟩
    exact ⟨_, .object [], rfl, by cbv, by rfl⟩
  anonymous := nofun
  hidden := rfl

/-- The session may be the anonymous one although a file is given for it. -/
theorem not_forall_anonymous_iff :
    ¬ ∀ (files : InputFiles) (input : ProfileInput), files.Give input →
      (input.session = .anonymous ↔ files.session = none) := by
  intro only
  have missing := (only _ _ emptySession_give).1 rfl
  cases missing

/-- An empty record is not the same as no file, and of two files at fault the first one counts. -/
theorem sampleFiles_shown :
    (∃ known unknown, View.decision.render {} sampleFiles = .ok known ∧
      View.decision.render {} { sampleFiles with relationship := none } = .ok unknown ∧
      known ≠ unknown) ∧
    View.decision.render {} { sampleFiles with
        relationship := some ⟨"relationship.json", .text "["⟩
        session := some ⟨"session.json", .missing⟩ } = .error (.parse "relationship.json") := by
  have give := sampleFiles_give
  have rules := shownByRules sampleFiles {}
  constructor
  · obtain ⟨known, printed, -⟩ := rules.decision _ give
    obtain ⟨unknown, printed', -⟩ := (shownByRules _ {}).decision _ give.withoutRelationship
    have differ := rules.tells _ known give nofun rfl rfl rfl printed
    refine ⟨known, unknown, printed, printed', ?_⟩
    rintro rfl
    exact differ printed'
  · have broken : Json.parse? "[" = none := by cbv
    refine ((shownByRules _ {}).fails .decision _).2 ?_
    refine .relationship ⟨_, give.account⟩ rfl (.parse rfl fun v parsed => ?_)
    rw [broken] at parsed
    cases parsed

end InputFiles

end ProfileControls
