import ProfileControls.Proofs.Profile.SignedOut

/-!
# What rows tell

The row of an account shows the first notable thing between viewer and subject: a request of the
viewer that waits, a block, or a mute with or without notifications (`Ties.notable`). In a list of
follow buttons a waiting request looks like nothing (`RowDefault.tells`), and everything else can be
read off the button and its menu.

A profile conceals all that while its subject is suspended or hidden; a row does not. Suspension and
hiding make no difference to it, and what keeps a row from telling of the relationship is only that
the viewer is signed out, or that the row is the viewer's own (`ProfileInput.row_of_alike`).
-/

namespace ProfileControls

/-- What is notable in a row. -/
inductive Notable where
  | requested
  | blocking
  | muting (notifications : Bool)
deriving DecidableEq, Repr

/-- What is notable of the flags in a row: the first that is set. -/
def Ties.notable (t : Ties) : Option Notable :=
  if t.requested then some .requested
  else if t.blocking then some .blocking
  else if t.muting then some (.muting t.mutingNotifications)
  else none

namespace RowDefault

/-- The button for accounts without a notable relationship. -/
def button : RowDefault → RowButton
  | .follow => .followButton
  | .mute => .mute
  | .block => .block

/-- What a list tells of what is notable. A waiting request has the button that accounts without a
notable relationship have in a list of follow buttons. -/
def tells (default : RowDefault) : Option Notable → Option Notable
  | some .requested => if default = .follow then none else some .requested
  | n => n

end RowDefault

namespace RowControls

/-- The controls for what is notable. -/
def ofNotable (default : RowDefault) : Option Notable → RowControls
  | none => ⟨default.button, []⟩
  | some .requested => ⟨.followButton, []⟩
  | some .blocking => ⟨.unblock, []⟩
  | some (.muting notifications) =>
    ⟨.unmute, [.plain (if notifications then .unmuteNotifications else .muteNotifications)]⟩

/-- A row is made from what is notable. -/
lemma ofTies_eq (t : Ties) (default : RowDefault) :
    ofTies t default = ofNotable default t.notable := by
  unfold ofTies Ties.notable
  cases t.requested with
  | true => rfl
  | false =>
    cases t.blocking with
    | true => rfl
    | false =>
      cases t.muting with
      | true => rfl
      | false => cases default <;> rfl

/-- A row shows no more than its list tells. -/
lemma ofNotable_tells (default : RowDefault) (n : Option Notable) :
    ofNotable default (default.tells n) = ofNotable default n := by
  match n with
  | none => rfl
  | some .blocking => rfl
  | some (.muting _) => rfl
  | some .requested => cases default <;> rfl

/-- Whatever a list tells can be read off the controls. -/
lemma tells_of_ofNotable {default : RowDefault} {n n' : Option Notable}
    (same : ofNotable default n = ofNotable default n') : default.tells n = default.tells n' := by
  have told : ∀ n, default.tells n =
      match (ofNotable default n).button, (ofNotable default n).menu with
      | .unblock, _ => some .blocking
      | .unmute, items => some (.muting (items.any (·.action = .unmuteNotifications)))
      | .followButton, _ => if default = .follow then none else some .requested
      | _, _ => none := by
    intro n
    match n with
    | none => cases default <;> rfl
    | some .requested => rfl
    | some .blocking => rfl
    | some (.muting notifications) => cases notifications <;> rfl
  rw [told n, told n', same]

/-- Rows are equal exactly if the list tells the same. -/
lemma ofNotable_eq_iff {default : RowDefault} {n n' : Option Notable} :
    ofNotable default n = ofNotable default n' ↔ default.tells n = default.tells n' := by
  constructor
  · exact tells_of_ofNotable
  · intro same
    rw [← ofNotable_tells default n, same, ofNotable_tells]

end RowControls

namespace ProfileInput

variable {input other : ProfileInput}

/-- The input with other answers to whether the subject is suspended and whether it is hidden. -/
def withMarks (input : ProfileInput) (suspended hidden : Bool) : ProfileInput :=
  { input with account := { input.account with suspended := suspended }, hidden := hidden }

/-- What is notable of the relationship, as far as it is known. -/
def notable (input : ProfileInput) : Option Notable :=
  input.relationship.bind (·.notable)

/-- In their own row viewers may edit their profile. -/
lemma row_of_viewer (self : input.session.isViewer input.account.id = true)
    (default : RowDefault) : input.row default = ⟨.editProfile, []⟩ := by
  rw [row, RowControls.resolve.eq_def, if_pos self]

/-- While the relationship is unknown, the row has the follow button. -/
lemma row_of_unknown (unknown : input.relationship = none)
    (other : input.session.isViewer input.account.id = false) (default : RowDefault) :
    input.row default = ⟨.followButton, []⟩ := by
  rw [row, RowControls.resolve.eq_def, other, unknown]
  rfl

/-- To others who are signed in, a row shows what is notable of the relationship. -/
lemma row_of_known {r : Relationship} (known : input.relationship = some r)
    (other : input.session.isViewer input.account.id = false)
    (signedIn : input.session.signedIn = true) (default : RowDefault) :
    input.row default = .ofNotable default input.notable := by
  rw [row, RowControls.resolve.eq_def, other, notable, known, signedIn]
  exact RowControls.ofTies_eq r.toTies default

/-- A row does not depend on whether its subject is suspended or hidden. Of two inputs that differ
in what the relationship is, the rows are equal exactly if the viewer is signed out, if the row is
the viewer's own, or if what the list tells of the two relationships is the same. -/
theorem row_of_alike (alike : input.Alike other) (default : RowDefault) :
    (∀ suspended hidden, (input.withMarks suspended hidden).row default = input.row default) ∧
    (other.row default = input.row default ↔
      input.session.signedIn = false ∨ input.session.isViewer input.account.id = true ∨
        default.tells other.notable = default.tells input.notable) := by
  refine ⟨fun _ _ => rfl, ?_⟩
  have viewer : other.session.isViewer other.account.id =
      input.session.isViewer input.account.id := by
    rw [alike.session, alike.account]
  -- what is notable comes last: the viewer's own row and a stranger's are settled before it
  cases self : input.session.isViewer input.account.id with
  | true =>
    have same : other.row default = input.row default := by
      rw [row_of_viewer self, row_of_viewer (viewer.trans self)]
    simp only [same, true_or, or_true]
  | false =>
    cases signedIn : input.session.signedIn with
    | false =>
      have signedOut : other.session.signedIn = false := by rw [alike.session, signedIn]
      have same : other.row default = input.row default := by
        rw [row_of_signedOut signedIn, row_of_signedOut signedOut, viewer]
      simp only [same, true_or]
    | true =>
      have signedIn' : other.session.signedIn = true := by rw [alike.session, signedIn]
      have known := alike.known
      cases r : input.relationship with
      | none =>
        rw [r, Option.isSome_none, Option.isSome_eq_false_iff, Option.isNone_iff_eq_none] at known
        have same : other.row default = input.row default := by
          rw [row_of_unknown r self, row_of_unknown known (viewer.trans self)]
        have notable : other.notable = input.notable := by
          rw [ProfileInput.notable, ProfileInput.notable, r, known]
        simp only [same, notable, or_true]
      | some r₀ =>
        rw [r, Option.isSome_some, Option.isSome_iff_exists] at known
        obtain ⟨r₁, known⟩ := known
        rw [row_of_known r self signedIn, row_of_known known (viewer.trans self) signedIn',
          RowControls.ofNotable_eq_iff]
        simp only [Bool.true_eq_false, Bool.false_eq_true, false_or]

/-- An account that is hidden from a viewer who mutes it. -/
def sampleHidden : ProfileInput where
  account := Account.onLocalServer ⟨"1"⟩ "alice"
  relationship := some { muting := true }
  session := .ofViewer ⟨"100"⟩
  hidden := true

/-- In the row of a hidden account it can be seen whether the viewer blocks it. -/
theorem sampleHidden_of_blocked :
    ({ sampleHidden with relationship := some { blocking := true } } : ProfileInput).row .follow ≠
        sampleHidden.row .follow ∧
      (sampleHidden.withMarks true false).row .follow = sampleHidden.row .follow := by
  have alike : sampleHidden.Alike
      { sampleHidden with relationship := some { blocking := true } } := ⟨rfl, rfl, rfl, rfl⟩
  obtain ⟨marks, rows⟩ := row_of_alike alike .follow
  refine ⟨fun same => ?_, marks true false⟩
  obtain signedOut | self | told := rows.1 same
  · cases signedOut
  · revert self
    decide
  · cases told

/-- Rows of hidden and of suspended accounts tell of the relationship. -/
theorem not_row_concealed :
    ¬ ∀ (default : RowDefault) (input other : ProfileInput), input.Alike other →
      input.account.suspended = true ∨ input.hidden = true →
      other.row default = input.row default := by
  intro all
  have same := all .follow sampleHidden
    { sampleHidden with relationship := some { blocking := true } } ⟨rfl, rfl, rfl, rfl⟩ (.inr rfl)
  revert same
  decide

end ProfileInput

end ProfileControls
