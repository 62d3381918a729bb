import ProfileControls.Proofs.Record.Tagged
import ProfileControls.Record.Input

/-!
# Decoding of records

For every record its fields (`fields`), the ways to write it (`Written`), and what makes a value
unusable for it (`Flawed`): a known key that repeats, or `null` where it does not stand for a
missing value. Nested records may be written in any of their own ways, and are flawed in theirs.

The readers are inverted once (`ofJson?_eq_some_iff`), to a structure that says field by field what
is read (`ReadFrom`). What is written is read because its fields are found (`readFrom`), and what is
flawed is not because nothing unfit can have been found (`ReadFrom.lookup_ne`). So all readers are
robust (`allRobust`).

Not every permutation of the members of a tagged value can be read. A relationship that comes before
its status is set aside, so whether it can be read hangs on what stands under its unknown keys
(`Relationship.not_forall_permuted_read`).
-/

namespace ProfileControls

open Json (Value)
open Record (Field Robust Tagged.Alone Tagged.ContentFirst Tagged.WithContent)

/-! ## Accounts -/

namespace Account

/-- The fields of an account as they may be written. -/
def fields (a : Account) : List Field :=
  [.required "id" a.id.toJson,
    .required "username" (.string a.username),
    .required "acct" (.string a.handleText),
    .orDefault "display_name" (.string a.displayName) (a.displayName = ""),
    .optional "url" .string a.url,
    .flag "locked" a.locked,
    .flag "bot" a.bot,
    .flag "group" a.group,
    .flag "suspended" a.suspended,
    .optional "moved" AccountId.toJson a.moved,
    .flag "noindex" a.noindex,
    .flag "memorial" a.memorial]

/-- The ways to write an account. -/
def Written (a : Account) : Value → Prop :=
  Record.Written a.fields

/-- The fields for which `null` stands for a missing value. -/
def nullable : List String :=
  ["url", "moved"]

/-- The value cannot be an account, for a key that repeats or for a `null`. -/
def Flawed : Value → Prop :=
  Record.Flawed keys fun key v => key ∉ nullable ∧ v = .null

/-- The account is what the given fields are read as. -/
structure ReadFrom (a : Account) (given : Record.Fields) : Prop where
  id : given.required "id" AccountId.ofJson? = some a.id
  username : given.required "username" Value.string? = some a.username
  handleText : given.required "acct" Value.string? = some a.handleText
  displayName : given.orDefault "display_name" "" Value.string? = some a.displayName
  url : given.optional "url" Value.string? = some a.url
  locked : given.flag "locked" = some a.locked
  bot : given.flag "bot" = some a.bot
  group : given.flag "group" = some a.group
  suspended : given.flag "suspended" = some a.suspended
  moved : given.optional "moved" AccountId.ofJson? = some a.moved
  noindex : given.flag "noindex" = some a.noindex
  memorial : given.flag "memorial" = some a.memorial

variable {a : Account} {given : Record.Fields} {v : Value}

/-- No two fields of an account have the same key. -/
lemma keys_nodup : keys.Nodup := by
  decide

/-- An account is read exactly if known members are given that are read as its fields. -/
lemma ofJson?_eq_some_iff :
    ofJson? v = some a ↔ ∃ given, Record.fields? keys v = some given ∧ a.ReadFrom given := by
  constructor
  · intro read
    obtain ⟨given, taken, read⟩ := Option.bind_eq_some_iff.1 read
    obtain ⟨_, id, read⟩ := Option.bind_eq_some_iff.1 read
    obtain ⟨_, username, read⟩ := Option.bind_eq_some_iff.1 read
    obtain ⟨_, handleText, read⟩ := Option.bind_eq_some_iff.1 read
    obtain ⟨_, displayName, read⟩ := Option.bind_eq_some_iff.1 read
    obtain ⟨_, url, read⟩ := Option.bind_eq_some_iff.1 read
    obtain ⟨_, locked, read⟩ := Option.bind_eq_some_iff.1 read
    obtain ⟨_, bot, read⟩ := Option.bind_eq_some_iff.1 read
    obtain ⟨_, group, read⟩ := Option.bind_eq_some_iff.1 read
    obtain ⟨_, suspended, read⟩ := Option.bind_eq_some_iff.1 read
    obtain ⟨_, moved, read⟩ := Option.bind_eq_some_iff.1 read
    obtain ⟨_, noindex, read⟩ := Option.bind_eq_some_iff.1 read
    obtain ⟨_, memorial, read⟩ := Option.bind_eq_some_iff.1 read
    cases read
    exact ⟨given, taken, id, username, handleText, displayName, url, locked, bot, group, suspended,
      moved, noindex, memorial⟩
  · rintro ⟨given, taken, read⟩
    refine Option.bind_eq_some_iff.2 ⟨_, taken, ?_⟩
    refine Option.bind_eq_some_iff.2 ⟨_, read.id, ?_⟩
    refine Option.bind_eq_some_iff.2 ⟨_, read.username, ?_⟩
    refine Option.bind_eq_some_iff.2 ⟨_, read.handleText, ?_⟩
    refine Option.bind_eq_some_iff.2 ⟨_, read.displayName, ?_⟩
    refine Option.bind_eq_some_iff.2 ⟨_, read.url, ?_⟩
    refine Option.bind_eq_some_iff.2 ⟨_, read.locked, ?_⟩
    refine Option.bind_eq_some_iff.2 ⟨_, read.bot, ?_⟩
    refine Option.bind_eq_some_iff.2 ⟨_, read.group, ?_⟩
    refine Option.bind_eq_some_iff.2 ⟨_, read.suspended, ?_⟩
    refine Option.bind_eq_some_iff.2 ⟨_, read.moved, ?_⟩
    refine Option.bind_eq_some_iff.2 ⟨_, read.noindex, ?_⟩
    refine Option.bind_eq_some_iff.2 ⟨_, read.memorial, ?_⟩
    rfl

/-- An account whose fields are found is what these are read as. -/
lemma readFrom (found : ∀ f ∈ a.fields, f.FoundIn given) : a.ReadFrom given := by
  simp only [fields, List.forall_mem_cons] at found
  obtain ⟨id, username, handleText, displayName, url, locked, bot, group, suspended, moved, noindex,
    memorial, -⟩ := found
  exact {
    id := id.required_eq rfl
    username := username.required_eq rfl
    handleText := handleText.required_eq rfl
    displayName := displayName.orDefault_eq (fun empty => empty) rfl
    url := url.optional_eq rfl fun _ => rfl
    locked := locked.flag_eq
    bot := bot.flag_eq
    group := group.flag_eq
    suspended := suspended.flag_eq
    moved := moved.optional_eq rfl fun _ => rfl
    noindex := noindex.flag_eq
    memorial := memorial.flag_eq }

/-- Where an account is read, there is no `null` but for a missing value. -/
lemma ReadFrom.lookup_ne (read : a.ReadFrom given) :
    ∀ key ∈ keys, key ∉ nullable → given.lookup key ≠ some .null := by
  simp only [keys, List.forall_mem_cons]
  exact ⟨fun _ => Record.Fields.required_ne read.id rfl,
    fun _ => Record.Fields.required_ne read.username rfl,
    fun _ => Record.Fields.required_ne read.handleText rfl,
    fun _ => Record.Fields.orDefault_ne read.displayName rfl,
    fun needed => absurd (by decide) needed,
    fun _ => Record.Fields.flag_ne read.locked,
    fun _ => Record.Fields.flag_ne read.bot,
    fun _ => Record.Fields.flag_ne read.group,
    fun _ => Record.Fields.flag_ne read.suspended,
    fun needed => absurd (by decide) needed,
    fun _ => Record.Fields.flag_ne read.noindex,
    fun _ => Record.Fields.flag_ne read.memorial,
    List.forall_mem_nil _⟩

/-- The reader of accounts is robust. -/
theorem robust : Robust toJson ofJson? Written Flawed :=
  .of_fields keys_nodup (fun _ => rfl) (fun _ => rfl) (fun _ _ => ofJson?_eq_some_iff)
    (fun _ _ => readFrom) fun _ _ read key known _ ⟨needed, null⟩ =>
      null ▸ read.lookup_ne key known needed

end Account

/-! ## Relationships -/

namespace Relationship

/-- The fields of a relationship as they may be written. -/
def fields (r : Relationship) : List Field :=
  [.flag "following" r.following,
    .flag "requested" r.requested,
    .flag "followed_by" r.followedBy,
    .flag "requested_by" r.requestedBy,
    .flag "blocking" r.blocking,
    .flag "blocked_by" r.blockedBy,
    .flag "muting" r.muting,
    .flag "muting_notifications" r.mutingNotifications,
    .flag "domain_blocking" r.domainBlocking,
    .flag "showing_reblogs" r.showingReblogs,
    .flag "notifying" r.notifying,
    .flag "endorsed" r.endorsed,
    .orDefault "note" (.string r.note) (r.note = "")]

/-- The ways to write a relationship. -/
def Written (r : Relationship) : Value → Prop :=
  Record.Written r.fields

/-- The value cannot be a relationship, for a key that repeats or for a `null`. -/
def Flawed : Value → Prop :=
  Record.Flawed keys fun _ v => v = .null

/-- The relationship is what the given fields are read as. -/
structure ReadFrom (r : Relationship) (given : Record.Fields) : Prop where
  following : given.flag "following" = some r.following
  requested : given.flag "requested" = some r.requested
  followedBy : given.flag "followed_by" = some r.followedBy
  requestedBy : given.flag "requested_by" = some r.requestedBy
  blocking : given.flag "blocking" = some r.blocking
  blockedBy : given.flag "blocked_by" = some r.blockedBy
  muting : given.flag "muting" = some r.muting
  mutingNotifications : given.flag "muting_notifications" = some r.mutingNotifications
  domainBlocking : given.flag "domain_blocking" = some r.domainBlocking
  showingReblogs : given.flag "showing_reblogs" = some r.showingReblogs
  notifying : given.flag "notifying" = some r.notifying
  endorsed : given.flag "endorsed" = some r.endorsed
  note : given.orDefault "note" "" Value.string? = some r.note

variable {r : Relationship} {given : Record.Fields} {v : Value}

/-- No two fields of a relationship have the same key. -/
lemma keys_nodup : keys.Nodup := by
  decide

/-- A relationship is read exactly if known members are given that are read as its fields. -/
lemma ofJson?_eq_some_iff :
    ofJson? v = some r ↔ ∃ given, Record.fields? keys v = some given ∧ r.ReadFrom given := by
  constructor
  · intro read
    obtain ⟨given, taken, read⟩ := Option.bind_eq_some_iff.1 read
    obtain ⟨_, following, read⟩ := Option.bind_eq_some_iff.1 read
    obtain ⟨_, requested, read⟩ := Option.bind_eq_some_iff.1 read
    obtain ⟨_, followedBy, read⟩ := Option.bind_eq_some_iff.1 read
    obtain ⟨_, requestedBy, read⟩ := Option.bind_eq_some_iff.1 read
    obtain ⟨_, blocking, read⟩ := Option.bind_eq_some_iff.1 read
    obtain ⟨_, blockedBy, read⟩ := Option.bind_eq_some_iff.1 read
    obtain ⟨_, muting, read⟩ := Option.bind_eq_some_iff.1 read
    obtain ⟨_, mutingNotifications, read⟩ := Option.bind_eq_some_iff.1 read
    obtain ⟨_, domainBlocking, read⟩ := Option.bind_eq_some_iff.1 read
    obtain ⟨_, showingReblogs, read⟩ := Option.bind_eq_some_iff.1 read
    obtain ⟨_, notifying, read⟩ := Option.bind_eq_some_iff.1 read
    obtain ⟨_, endorsed, read⟩ := Option.bind_eq_some_iff.1 read
    obtain ⟨_, note, read⟩ := Option.bind_eq_some_iff.1 read
    cases read
    exact ⟨given, taken, following, requested, followedBy, requestedBy, blocking, blockedBy, muting,
      mutingNotifications, domainBlocking, showingReblogs, notifying, endorsed, note⟩
  · rintro ⟨given, taken, read⟩
    refine Option.bind_eq_some_iff.2 ⟨_, taken, ?_⟩
    refine Option.bind_eq_some_iff.2 ⟨_, read.following, ?_⟩
    refine Option.bind_eq_some_iff.2 ⟨_, read.requested, ?_⟩
    refine Option.bind_eq_some_iff.2 ⟨_, read.followedBy, ?_⟩
    refine Option.bind_eq_some_iff.2 ⟨_, read.requestedBy, ?_⟩
    refine Option.bind_eq_some_iff.2 ⟨_, read.blocking, ?_⟩
    refine Option.bind_eq_some_iff.2 ⟨_, read.blockedBy, ?_⟩
    refine Option.bind_eq_some_iff.2 ⟨_, read.muting, ?_⟩
    refine Option.bind_eq_some_iff.2 ⟨_, read.mutingNotifications, ?_⟩
    refine Option.bind_eq_some_iff.2 ⟨_, read.domainBlocking, ?_⟩
    refine Option.bind_eq_some_iff.2 ⟨_, read.showingReblogs, ?_⟩
    refine Option.bind_eq_some_iff.2 ⟨_, read.notifying, ?_⟩
    refine Option.bind_eq_some_iff.2 ⟨_, read.endorsed, ?_⟩
    refine Option.bind_eq_some_iff.2 ⟨_, read.note, ?_⟩
    rfl

/-- A relationship whose fields are found is what these are read as. -/
lemma readFrom (found : ∀ f ∈ r.fields, f.FoundIn given) : r.ReadFrom given := by
  simp only [fields, List.forall_mem_cons] at found
  obtain ⟨following, requested, followedBy, requestedBy, blocking, blockedBy, muting,
    mutingNotifications, domainBlocking, showingReblogs, notifying, endorsed, note, -⟩ := found
  exact {
    following := following.flag_eq
    requested := requested.flag_eq
    followedBy := followedBy.flag_eq
    requestedBy := requestedBy.flag_eq
    blocking := blocking.flag_eq
    blockedBy := blockedBy.flag_eq
    muting := muting.flag_eq
    mutingNotifications := mutingNotifications.flag_eq
    domainBlocking := domainBlocking.flag_eq
    showingReblogs := showingReblogs.flag_eq
    notifying := notifying.flag_eq
    endorsed := endorsed.flag_eq
    note := note.orDefault_eq (fun empty => empty) rfl }

/-- Where a relationship is read, there is no `null`. -/
lemma ReadFrom.lookup_ne (read : r.ReadFrom given) :
    ∀ key ∈ keys, given.lookup key ≠ some .null := by
  simp only [keys, List.forall_mem_cons]
  exact ⟨Record.Fields.flag_ne read.following,
    Record.Fields.flag_ne read.requested,
    Record.Fields.flag_ne read.followedBy,
    Record.Fields.flag_ne read.requestedBy,
    Record.Fields.flag_ne read.blocking,
    Record.Fields.flag_ne read.blockedBy,
    Record.Fields.flag_ne read.muting,
    Record.Fields.flag_ne read.mutingNotifications,
    Record.Fields.flag_ne read.domainBlocking,
    Record.Fields.flag_ne read.showingReblogs,
    Record.Fields.flag_ne read.notifying,
    Record.Fields.flag_ne read.endorsed,
    Record.Fields.orDefault_ne read.note rfl,
    List.forall_mem_nil _⟩

/-- The reader of relationships is robust. -/
theorem robust : Robust toJson ofJson? Written Flawed :=
  .of_fields keys_nodup (fun _ => rfl) (fun _ => rfl) (fun _ _ => ofJson?_eq_some_iff)
    (fun _ _ => readFrom) fun _ _ read key known _ null => null ▸ read.lookup_ne key known

/-! ### Relationships that may be unknown -/

/-- The ways to write a relationship or that it is unknown. -/
def StateWritten (room : Nat) : Option Relationship → Value → Prop
  | none => Tagged.Alone "status" "relationship" "unknown"
  | some r => Tagged.WithContent "status" "relationship" "loaded" r.Written room

/-- The value cannot say what the relationship is, for a key that repeats or a `null`, because the
relationship that it holds is flawed, or because it is not plain and comes before its status. -/
def StateFlawed (room : Nat) : Value → Prop :=
  Record.Tagged.Flawed "status" "relationship"
    (fun tag v => tag = "loaded" ∧ (v = .null ∨ Flawed v)) room

/-- What is written for a relationship that may be unknown is one of the ways to write it. -/
lemma stateWritten_own (room : Nat) (state : Option Relationship) :
    StateWritten room state (stateToJson state) := by
  cases state with
  | none => exact .own _ _ _
  | some r => exact .own _ _ _ room (robust.writes r)

/-- However it is written, a relationship that may be unknown is read back. -/
lemma stateOfJson?_written {room : Nat} {state : Option Relationship}
    (written : StateWritten room state v) : stateOfJson? room v = some state := by
  cases state with
  | none =>
    rw [stateOfJson?, Tagged.Alone.tagged written]
    rfl
  | some r =>
    obtain ⟨c, writes, taken⟩ := Tagged.WithContent.tagged written (by decide)
    rw [stateOfJson?, taken]
    exact congrArg (Option.map some) (robust.reads r c writes)

/-- What is flawed for a relationship that may be unknown is refused. -/
lemma stateOfJson?_flawed {room : Nat} (flawed : StateFlawed room v) :
    stateOfJson? room v = none := by
  rw [stateOfJson?]
  cases taken : Record.tagged? "status" "relationship" room v with
  | none => rfl
  | some t =>
    obtain ⟨tag, content⟩ := t
    obtain rfl | ⟨_, c, same, rfl, bad⟩ := Record.Tagged.Flawed.tagged flawed (by decide) taken
    · rfl
    · cases same
      have unread : ofJson? c = none := by
        obtain rfl | flawed := bad
        · rfl
        · exact robust.refuses c flawed
      exact congrArg (Option.map some) unread

/-- The reader of relationships that may be unknown is robust. -/
theorem state_robust (room : Nat) :
    Robust stateToJson (stateOfJson? room) (StateWritten room) (StateFlawed room) :=
  .of_forms (stateWritten_own room) (fun _ _ => stateOfJson?_written)
    fun _ => stateOfJson?_flawed

end Relationship

/-! ## Lifecycles -/

namespace Lifecycle

/-- The ways to write a lifecycle. -/
def Written (room : Nat) : Lifecycle → Value → Prop
  | .active => Tagged.Alone "state" "target" "active"
  | .suspended => Tagged.Alone "state" "target" "suspended"
  | .moved target => Tagged.WithContent "state" "target" "moved" (· = target.toJson) room
  | .suspendedAndMoved target =>
    Tagged.WithContent "state" "target" "suspended_and_moved" (· = target.toJson) room

/-- The value cannot be a lifecycle, for a key that repeats or for a `null`. -/
def Flawed (room : Nat) : Value → Prop :=
  Record.Tagged.Flawed "state" "target"
    (fun tag v => tag ∈ ["moved", "suspended_and_moved"] ∧ v = .null) room

variable {room : Nat} {l : Lifecycle} {v : Value}

/-- What is written for a lifecycle is one of the ways to write it. -/
lemma written_own (room : Nat) (l : Lifecycle) : Written room l l.toJson := by
  cases l with
  | active | suspended => exact .own _ _ _
  | moved | suspendedAndMoved => exact .own _ _ _ room rfl

/-- However it is written, a lifecycle is read back. -/
lemma ofJson?_written (written : Written room l v) : ofJson? room v = some l := by
  cases l with
  | active | suspended =>
    rw [ofJson?, Tagged.Alone.tagged written]
    rfl
  | moved | suspendedAndMoved =>
    obtain ⟨c, rfl, taken⟩ := Tagged.WithContent.tagged written (by decide)
    rw [ofJson?, taken]
    rfl

/-- What is flawed for a lifecycle is refused. -/
lemma ofJson?_flawed (flawed : Flawed room v) : ofJson? room v = none := by
  rw [ofJson?]
  cases taken : Record.tagged? "state" "target" room v with
  | none => rfl
  | some t =>
    obtain ⟨tag, content⟩ := t
    obtain rfl | ⟨tag, _, same, moved, rfl⟩ :=
      Record.Tagged.Flawed.tagged flawed (by decide) taken
    · rfl
    · cases same
      obtain rfl | moved := List.mem_cons.1 moved
      · rfl
      · rw [List.mem_singleton.1 moved]
        rfl

/-- The reader of lifecycles is robust. -/
theorem robust (room : Nat) : Robust toJson (ofJson? room) (Written room) (Flawed room) :=
  .of_forms (written_own room) (fun _ _ => ofJson?_written) fun _ => ofJson?_flawed

end Lifecycle

/-- The target of a move is a text, so it may as well come before the state. -/
lemma AccountId.isPlain_toJson (id : AccountId) (room : Nat) : id.toJson.isPlain room = true := by
  cases room <;> rfl

/-! ## Sessions -/

/-- Permissions fit into 64 bits, so they are read back from their number. -/
lemma Permissions.ofJson?_toJson (p : Permissions) : ofJson? p.toJson = some p := by
  have small : p.bits.toNat < UInt64.size := p.bits.toNat_lt_size
  change (if p.bits.toNat < UInt64.size then some ⟨UInt64.ofNat p.bits.toNat⟩ else none) = some p
  rw [if_pos small, UInt64.ofNat_toNat]

namespace Session

/-- The fields of a session as they may be written. -/
def fields (s : Session) : List Field :=
  [.flag "signed_in" s.signedIn,
    .optional "viewer_account_id" AccountId.toJson s.viewer,
    .orDefault "permissions" s.permissions.toJson (s.permissions = {})]

/-- The ways to write a session. -/
def Written (s : Session) : Value → Prop :=
  Record.Written s.fields

/-- The value cannot be a session, for a key that repeats or for a `null`. Only for the viewer does
`null` stand for a missing value. -/
def Flawed : Value → Prop :=
  Record.Flawed keys fun key v => key ≠ "viewer_account_id" ∧ v = .null

/-- The session is what the given fields are read as. -/
structure ReadFrom (s : Session) (given : Record.Fields) : Prop where
  signedIn : given.flag "signed_in" = some s.signedIn
  viewer : given.optional "viewer_account_id" AccountId.ofJson? = some s.viewer
  permissions : given.orDefault "permissions" {} Permissions.ofJson? = some s.permissions

variable {s : Session} {given : Record.Fields} {v : Value}

/-- No two fields of a session have the same key. -/
lemma keys_nodup : keys.Nodup := by
  decide

/-- A session is read exactly if known members are given that are read as its fields. -/
lemma ofJson?_eq_some_iff :
    ofJson? v = some s ↔ ∃ given, Record.fields? keys v = some given ∧ s.ReadFrom given := by
  simp only [ofJson?, Option.bind_eq_bind, Option.bind_eq_some_iff, Option.some.injEq]
  constructor
  · rintro ⟨given, taken, _, signedIn, _, viewer, _, permissions, rfl⟩
    exact ⟨given, taken, signedIn, viewer, permissions⟩
  · rintro ⟨given, taken, read⟩
    exact ⟨given, taken, _, read.signedIn, _, read.viewer, _, read.permissions, rfl⟩

/-- A session whose fields are found is what these are read as. -/
lemma readFrom (found : ∀ f ∈ s.fields, f.FoundIn given) : s.ReadFrom given := by
  simp only [fields, List.forall_mem_cons] at found
  obtain ⟨signedIn, viewer, permissions, -⟩ := found
  exact {
    signedIn := signedIn.flag_eq
    viewer := viewer.optional_eq rfl fun _ => rfl
    permissions := permissions.orDefault_eq (fun none => none) s.permissions.ofJson?_toJson }

/-- Where a session is read, there is no `null` but for a missing viewer. -/
lemma ReadFrom.lookup_ne (read : s.ReadFrom given) :
    ∀ key ∈ keys, key ≠ "viewer_account_id" → given.lookup key ≠ some .null := by
  simp only [keys, List.forall_mem_cons]
  exact ⟨fun _ => Record.Fields.flag_ne read.signedIn,
    fun needed => absurd rfl needed,
    fun _ => Record.Fields.orDefault_ne read.permissions rfl,
    List.forall_mem_nil _⟩

/-- The reader of sessions is robust. -/
theorem robust : Robust toJson ofJson? Written Flawed :=
  .of_fields keys_nodup (fun _ => rfl) (fun _ => rfl) (fun _ _ => ofJson?_eq_some_iff)
    (fun _ _ => readFrom) fun _ _ read key known _ ⟨needed, null⟩ =>
      null ▸ read.lookup_ne key known needed

end Session

/-! ## Configurations -/

namespace Config

/-- The fields of a configuration as they may be written. -/
def fields (c : Config) : List Field :=
  [.orDefault "local_domain" (.string c.localDomain) (c.localDomain = ({} : Config).localDomain),
    .orDefault "admin_path_prefix" (.string c.adminPathPrefix)
      (c.adminPathPrefix = ({} : Config).adminPathPrefix)]

/-- The ways to write a configuration. -/
def Written (c : Config) : Value → Prop :=
  Record.Written c.fields

/-- The value cannot be a configuration, for a key that repeats or for a `null`. -/
def Flawed : Value → Prop :=
  Record.Flawed keys fun _ v => v = .null

/-- The configuration is what the given fields are read as. -/
structure ReadFrom (c : Config) (given : Record.Fields) : Prop where
  localDomain : given.orDefault "local_domain" ({} : Config).localDomain Value.string? =
    some c.localDomain
  adminPathPrefix : given.orDefault "admin_path_prefix" ({} : Config).adminPathPrefix
    Value.string? = some c.adminPathPrefix

variable {c : Config} {given : Record.Fields} {v : Value}

/-- The two fields of a configuration have different keys. -/
lemma keys_nodup : keys.Nodup := by
  decide

/-- A configuration is read exactly if known members are given that are read as its fields. -/
lemma ofJson?_eq_some_iff :
    ofJson? v = some c ↔ ∃ given, Record.fields? keys v = some given ∧ c.ReadFrom given := by
  simp only [ofJson?, Option.bind_eq_bind, Option.bind_eq_some_iff, Option.some.injEq]
  constructor
  · rintro ⟨given, taken, _, localDomain, _, adminPathPrefix, rfl⟩
    exact ⟨given, taken, localDomain, adminPathPrefix⟩
  · rintro ⟨given, taken, read⟩
    exact ⟨given, taken, _, read.localDomain, _, read.adminPathPrefix, rfl⟩

/-- A configuration whose fields are found is what these are read as. -/
lemma readFrom (found : ∀ f ∈ c.fields, f.FoundIn given) : c.ReadFrom given := by
  simp only [fields, List.forall_mem_cons] at found
  obtain ⟨localDomain, adminPathPrefix, -⟩ := found
  exact {
    localDomain := localDomain.orDefault_eq (fun standard => standard) rfl
    adminPathPrefix := adminPathPrefix.orDefault_eq (fun standard => standard) rfl }

/-- Where a configuration is read, there is no `null`. -/
lemma ReadFrom.lookup_ne (read : c.ReadFrom given) :
    ∀ key ∈ keys, given.lookup key ≠ some .null := by
  simp only [keys, List.forall_mem_cons]
  exact ⟨Record.Fields.orDefault_ne read.localDomain rfl,
    Record.Fields.orDefault_ne read.adminPathPrefix rfl,
    List.forall_mem_nil _⟩

/-- The reader of configurations is robust. -/
theorem robust : Robust toJson ofJson? Written Flawed :=
  .of_fields keys_nodup (fun _ => rfl) (fun _ => rfl) (fun _ _ => ofJson?_eq_some_iff)
    (fun _ _ => readFrom) fun _ _ read key known _ null => null ▸ read.lookup_ne key known

end Config

/-! ## Complete inputs -/

namespace ProfileInput

/-- The fields of an input as they may be written. -/
def fields (room : Nat) (input : ProfileInput) : List Field :=
  [{ key := "account"
     value := input.account.toJson
     writes := input.account.Written
     isDefault := False
     writes_value := Account.robust.writes input.account },
    { key := "relationship"
      value := Relationship.stateToJson input.relationship
      writes := Relationship.StateWritten room input.relationship
      isDefault := input.relationship = none
      writes_value := (Relationship.state_robust room).writes input.relationship },
    { key := "session"
      value := input.session.toJson
      writes := input.session.Written
      isDefault := input.session = {}
      writes_value := Session.robust.writes input.session },
    .flag "hidden" input.hidden]

/-- The ways to write an input around relationships that nest at most `room` deep. -/
def Written (room : Nat) (input : ProfileInput) : Value → Prop :=
  Record.Written (input.fields room)

/-- What cannot stand under a key: `null`, or what is flawed for the record that goes there. -/
def Unfit (room : Nat) (key : String) (v : Value) : Prop :=
  v = .null ∨
  match key with
  | "account" => Account.Flawed v
  | "relationship" => Relationship.StateFlawed room v
  | "session" => Session.Flawed v
  | _ => False

/-- The value cannot be an input, for a key that repeats or for what stands under a key. -/
def Flawed (room : Nat) : Value → Prop :=
  Record.Flawed keys (Unfit room)

/-- The input is what the given fields are read as. -/
structure ReadFrom (room : Nat) (input : ProfileInput) (given : Record.Fields) : Prop where
  account : given.required "account" Account.ofJson? = some input.account
  relationship : given.orDefault "relationship" none (Relationship.stateOfJson? room) =
    some input.relationship
  session : given.orDefault "session" {} Session.ofJson? = some input.session
  hidden : given.flag "hidden" = some input.hidden

variable {room : Nat} {input : ProfileInput} {given : Record.Fields} {v : Value}

/-- No two fields of an input have the same key. -/
lemma keys_nodup : keys.Nodup := by
  decide

/-- An input is read exactly if known members are given that are read as its fields. -/
lemma ofJson?_eq_some_iff :
    ofJson? room v = some input ↔
      ∃ given, Record.fields? keys v = some given ∧ input.ReadFrom room given := by
  simp only [ofJson?, Option.bind_eq_bind, Option.bind_eq_some_iff, Option.some.injEq]
  constructor
  · rintro ⟨given, taken, _, account, _, relationship, _, session, _, hidden, rfl⟩
    exact ⟨given, taken, account, relationship, session, hidden⟩
  · rintro ⟨given, taken, read⟩
    exact ⟨given, taken, _, read.account, _, read.relationship, _, read.session, _, read.hidden,
      rfl⟩

/-- An input whose fields are found, each in any of its forms, is what these are read as. -/
lemma readFrom (found : ∀ f ∈ input.fields room, f.FoundIn given) : input.ReadFrom room given := by
  simp only [fields, List.forall_mem_cons] at found
  obtain ⟨account, relationship, session, hidden, -⟩ := found
  exact {
    account := account.required_eq_of_writes not_false (Account.robust.reads input.account)
    relationship := relationship.orDefault_eq_of_writes (fun unknown => unknown)
      ((Relationship.state_robust room).reads input.relationship)
    session := session.orDefault_eq_of_writes (fun anonymous => anonymous)
      (Session.robust.reads input.session)
    hidden := hidden.flag_eq }

/-- Where an input is read, nothing unfit stands under its keys. -/
lemma ReadFrom.lookup_ne (read : input.ReadFrom room given) :
    ∀ key ∈ keys, ∀ v, Unfit room key v → given.lookup key ≠ some v := by
  simp only [keys, List.forall_mem_cons]
  refine ⟨?account, ?relationship, ?session, ?hidden, List.forall_mem_nil _⟩
  case account =>
    rintro v (rfl | flawed)
    · exact Record.Fields.required_ne read.account rfl
    · exact Record.Fields.required_ne read.account (Account.robust.refuses v flawed)
  case relationship =>
    rintro v (rfl | flawed)
    · exact Record.Fields.orDefault_ne read.relationship rfl
    · exact Record.Fields.orDefault_ne read.relationship
        ((Relationship.state_robust room).refuses v flawed)
  case session =>
    rintro v (rfl | flawed)
    · exact Record.Fields.orDefault_ne read.session rfl
    · exact Record.Fields.orDefault_ne read.session (Session.robust.refuses v flawed)
  case hidden =>
    rintro v (rfl | flawed)
    · exact Record.Fields.flag_ne read.hidden
    · cases flawed

/-- The reader of inputs is robust, since those of the records in it are. -/
theorem robust (room : Nat) : Robust toJson (ofJson? room) (Written room) (Flawed room) :=
  .of_fields keys_nodup (fun _ => rfl) (fun _ => rfl) (fun _ _ => ofJson?_eq_some_iff)
    (fun _ _ => readFrom) fun _ _ => ReadFrom.lookup_ne

end ProfileInput

/-! ## All records -/

/-- The readers of all records are robust. What is set aside before its tag has to be plain, and may
nest `room` deep; if it is not, then it is refused. -/
structure Record.AllRobust (room : Nat) : Prop where
  account : Robust Account.toJson Account.ofJson? Account.Written Account.Flawed
  lifecycle :
    Robust Lifecycle.toJson (Lifecycle.ofJson? room) (Lifecycle.Written room)
      (Lifecycle.Flawed room)
  /-- what a lifecycle holds is a text, so it may always be set aside -/
  target : ∀ id : AccountId, id.toJson.isPlain room = true
  relationship :
    Robust Relationship.toJson Relationship.ofJson? Relationship.Written Relationship.Flawed
  relationshipState :
    Robust Relationship.stateToJson (Relationship.stateOfJson? room)
      (Relationship.StateWritten room) (Relationship.StateFlawed room)
  session : Robust Session.toJson Session.ofJson? Session.Written Session.Flawed
  config : Robust Config.toJson Config.ofJson? Config.Written Config.Flawed
  input :
    Robust ProfileInput.toJson (ProfileInput.ofJson? room) (ProfileInput.Written room)
      (ProfileInput.Flawed room)

/-- Every record is read back in all its forms, and nothing that is flawed is read. -/
theorem Record.allRobust (room : Nat) : Record.AllRobust room where
  account := Account.robust
  lifecycle := Lifecycle.robust room
  target id := id.isPlain_toJson room
  relationship := Relationship.robust
  relationshipState := Relationship.state_robust room
  session := Session.robust
  config := Config.robust
  input := ProfileInput.robust room

/-- An empty relationship, with a number under an unknown key that is no double. -/
def Relationship.unplainForm : Value :=
  .object [("x", .number ⟨false, 1, some 999⟩)]

/-- A relationship may be written without its defaults, and with any member under an unknown key. -/
lemma Relationship.unplainForm_written : Relationship.Written {} unplainForm :=
  .object (.of_defaults (by simp [fields, Field.flag, Field.orDefault]))
    (List.forall_mem_singleton.2 (by decide)) (.refl _)

/-- If its members are permuted, a tagged value need not be read any more. -/
theorem Relationship.not_forall_permuted_read :
    ¬ ∀ (r : Relationship) (v : Value) (members : List (String × Value)), r.Written v →
      members.Perm [("status", .string "loaded"), ("relationship", v)] →
        stateOfJson? 126 (.object members) = some (some r) := by
  intro reads
  have read := reads {} unplainForm _ unplainForm_written (.swap _ _ [])
  have first : Tagged.ContentFirst "status" "relationship" "loaded" unplainForm
      (.object [("relationship", unplainForm), ("status", .string "loaded")]) :=
    .object (List.forall_mem_nil _) (.refl _) (.refl _)
  have unplain : unplainForm.isPlain 126 = false := by decide +kernel
  rw [(state_robust 126).refuses _ (.setAside first unplain)] at read
  cases read

/-- An input with its members in reverse and something under an unknown key. The relationship comes
before its status, and all records are cut off where only defaults would follow. -/
def ProfileInput.sampleForm : Value :=
  .object [
    ("theme", .array [.null]),
    ("session", .array [.bool true, .string "100"]),
    ("relationship", .object [
      ("relationship", .array [.bool false, .bool false, .bool false, .bool false, .bool true]),
      ("status", .string "loaded")]),
    ("account", .array [.string "1", .string "alice", .string "alice"])]

/-- The reversed input is read, since the relationship before its status is plain. -/
theorem ProfileInput.sampleForm_read :
    ofJson? 1 sampleForm = some {
      account := .onLocalServer ⟨"1"⟩ "alice"
      relationship := some { blocking := true }
      session := .ofViewer ⟨"100"⟩ } := by
  have account : (Account.onLocalServer ⟨"1"⟩ "alice").Written
      (.array [.string "1", .string "alice", .string "alice"]) := by
    refine .array (.cons rfl (.cons rfl (.cons rfl (.nil ?_))))
    simp [Field.orDefault, Field.optional, Field.flag, Account.onLocalServer]
  have blocking : Relationship.Written { blocking := true }
      (.array [.bool false, .bool false, .bool false, .bool false, .bool true]) := by
    refine .array (.cons rfl (.cons rfl (.cons rfl (.cons rfl (.cons rfl (.nil ?_))))))
    simp [Field.orDefault, Field.flag]
  have loaded : Relationship.StateWritten 1 (some { blocking := true }) (.object [
      ("relationship", .array [.bool false, .bool false, .bool false, .bool false, .bool true]),
      ("status", .string "loaded")]) :=
    .object blocking (List.forall_mem_nil _) (.swap _ _ _) (.inl rfl)
  have session : (Session.ofViewer ⟨"100"⟩).Written (.array [.bool true, .string "100"]) := by
    refine .array (.cons rfl (.cons rfl (.nil ?_)))
    simp [Field.orDefault, Session.ofViewer]
  have others : ∀ m ∈ [("theme", Value.array [.null])], m.1 ∉ keys := by
    simp [keys]
  exact (Record.allRobust 1).input.reads _ _ (.object
    (.give account (.give loaded (.give session (.leave rfl .nil)))) others
    (List.reverse_perm [_, _, _, _]))

end ProfileControls
