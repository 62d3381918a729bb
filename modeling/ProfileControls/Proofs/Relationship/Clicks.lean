import ProfileControls.ActionEffect
import ProfileControls.Proofs.Profile.Offers

/-!
# Runs of clicks

A relationship changes by clicks on controls that are offered for it, each in surroundings of its
own: another account record, session, configuration or list may stand around every click. What the
offers admit carries over to whole runs (`Clicks.forall_course`).

No run makes a coherent relationship incoherent (`Clicks.coherent_course`). The bell and the
endorsement, though, can be left behind when a follow or a request ends. That happens at the clicks
that `Ties.Strands` tells, and at no others (`Clicks.attached_iff`).
-/

namespace ProfileControls

/-- An action is chosen in some surroundings. -/
structure Click where
  account : Account
  session : Session
  hidden : Bool := false
  config : Config := {}
  default : RowDefault := .follow
  action : Action

namespace Click

def input (c : Click) (r : Relationship) : ProfileInput where
  account := c.account
  relationship := some r
  session := c.session
  hidden := c.hidden

def grant (c : Click) (r : Relationship) : Relationship :=
  r.after c.action c.account.locked

/-- The click is on a control of the profile, which changes the relationship. -/
def OnProfile (r : Relationship) (c : Click) : Prop :=
  c.action.field ≠ none ∧ c.action ∈ ((c.input r).decide c.config).actions

/-- The click is on a control of the row, which changes the relationship. -/
def OnRow (r : Relationship) (c : Click) : Prop :=
  c.action.field ≠ none ∧ c.action ∈ ((c.input r).row c.default).actions

instance (r : Relationship) (c : Click) : Decidable (c.OnProfile r) :=
  inferInstanceAs (Decidable (_ ∧ _))

instance (r : Relationship) (c : Click) : Decidable (c.OnRow r) :=
  inferInstanceAs (Decidable (_ ∧ _))

/-- A click by a viewer who is signed in, on a control of an active local account. -/
def sample (action : Action) : Click where
  account := .onLocalServer ⟨"1"⟩ "alice"
  session := .ofViewer ⟨"100"⟩
  action := action

end Click

/-- A run of clicks, each of which is allowed for the relationship that it finds. -/
inductive Clicks (allowed : Relationship → Click → Prop) : Relationship → List Click → Prop where
  | nil {r} :
    Clicks allowed r []
  | cons {r c clicks} :
    allowed r c →
    Clicks allowed (c.grant r) clicks →
    Clicks allowed r (c :: clicks)

/-- The relationships that a run goes through, from the first to the last. -/
def Relationship.course (r : Relationship) : List Click → List Relationship
  | [] => [r]
  | c :: clicks => r :: (c.grant r).course clicks

/-- A block leaves room for nothing else, a request is no follow yet, and a mute of the
notifications is part of a mute. -/
structure Ties.Coherent (t : Ties) : Prop where
  following : t.blocking = true → t.following = false
  requested : t.blocking = true → t.requested = false
  followedBy : t.blocking = true → t.followedBy = false
  notifying : t.blocking = true → t.notifying = false
  endorsed : t.blocking = true → t.endorsed = false
  once : ¬ (t.following = true ∧ t.requested = true)
  covered : t.mutingNotifications = true → t.muting = true

/-- The bell hangs on a follow or a request, and the endorsement on a follow. -/
structure Ties.Attached (t : Ties) : Prop where
  bell : t.notifying = true → t.following = true ∨ t.requested = true
  endorsement : t.endorsed = true → t.following = true

/-- The action ends a follow or a request and leaves the bell or the endorsement behind. -/
def Ties.Strands (t : Ties) : Action → Prop
  | .unfollow => t.endorsed = true
  | .withdrawRequest => t.notifying = true ∧ t.following = false
  | .blockDomain => t.notifying = true ∨ t.endorsed = true
  | _ => False

variable {r : Relationship} {clicks : List Click} {action : Action}

namespace Clicks

variable {allowed allowed' : Relationship → Click → Prop}

/-- A course goes through the relationship that it starts from. -/
lemma mem_course (r : Relationship) (clicks : List Click) : r ∈ r.course clicks := by
  cases clicks with
  | nil => exact List.mem_cons_self
  | cons => exact List.mem_cons_self

/-- What each allowed click preserves holds all along a run. -/
theorem forall_course {P : Relationship → Prop} (run : Clicks allowed r clicks)
    (step : ∀ s c, allowed s c → P s → P (c.grant s)) (start : P r) :
    ∀ s ∈ r.course clicks, P s := by
  induction run with
  | nil =>
    intro s mem
    cases List.mem_singleton.1 mem
    exact start
  | cons now _ ih =>
    intro s mem
    obtain rfl | mem := List.mem_cons.1 mem
    · exact start
    · exact ih (step _ _ now start) s mem

/-- What is allowed in either way all along is allowed in both ways. -/
lemma both (run : Clicks allowed r clicks) (run' : Clicks allowed' r clicks) :
    Clicks (fun s c => allowed s c ∧ allowed' s c) r clicks := by
  induction run with
  | nil => exact .nil
  | cons now _ ih =>
    cases run' with
    | cons now' run' => exact .cons ⟨now, now'⟩ (ih run')

end Clicks

/-! ## Coherence -/

/-- In coherent ties nobody is blocked who is followed or was asked. -/
lemma Ties.Coherent.unblocked {t : Ties} (coherent : t.Coherent)
    (near : t.following = true ∨ t.requested = true) : ¬ t.blocking = true := by
  intro blocking
  obtain following | requested := near
  · exact Bool.false_ne_true ((coherent.following blocking).symm.trans following)
  · exact Bool.false_ne_true ((coherent.requested blocking).symm.trans requested)

/-- The conditions under which an action is offered are those under which it keeps coherence: to
follow needs that there is no block, and so do the bell and the endorsement. -/
theorem Ties.Coherent.after (coherent : r.Coherent) (admits : r.Admits action) (locked : Bool) :
    (r.after action locked).Coherent := by
  cases action
  case follow =>
    obtain ⟨unfollowed, -, unblocked⟩ := admits
    have open' : ¬ r.blocking = true := ne_true_of_eq_false unblocked
    cases locked with
    | true =>
      exact { coherent with
        requested := fun blocking => absurd blocking open'
        once := fun both => ne_true_of_eq_false unfollowed both.1 }
    | false =>
      exact { coherent with
        following := fun blocking => absurd blocking open'
        requested := fun _ => rfl
        once := fun both => nomatch both.2 }
  case unfollow =>
    exact { coherent with
      following := fun _ => rfl
      requested := fun _ => rfl
      notifying := fun _ => rfl
      once := fun both => nomatch both.1 }
  case withdrawRequest =>
    exact { coherent with requested := fun _ => rfl, once := fun both => nomatch both.2 }
  case enableNotifications =>
    have open' := coherent.unblocked (Bool.or_eq_true _ _ ▸ admits.1)
    exact { coherent with notifying := fun blocking => absurd blocking open' }
  case disableNotifications => exact { coherent with notifying := fun _ => rfl }
  case mute => exact { coherent with covered := fun _ => rfl }
  case unmute | unmuteNotifications => exact { coherent with covered := nofun }
  case muteNotifications => exact { coherent with covered := fun _ => admits.1 }
  case block =>
    exact { coherent with
      following := fun _ => rfl
      requested := fun _ => rfl
      followedBy := fun _ => rfl
      notifying := fun _ => rfl
      endorsed := fun _ => rfl
      once := fun both => nomatch both.1 }
  case unblock =>
    exact { coherent with
      following := nofun
      requested := nofun
      followedBy := nofun
      notifying := nofun
      endorsed := nofun }
  case blockDomain =>
    exact { coherent with
      following := fun _ => rfl
      requested := fun _ => rfl
      once := fun both => nomatch both.1 }
  case endorse =>
    have open' := coherent.unblocked (.inl admits.1)
    exact { coherent with endorsed := fun blocking => absurd blocking open' }
  case unendorse => exact { coherent with endorsed := fun _ => rfl }
  case removeFromFollowers => exact { coherent with followedBy := fun _ => rfl }
  all_goals exact { coherent with covered := coherent.covered }

/-- What is offered on a profile is admitted. -/
lemma Click.OnProfile.admits {c : Click} (offered : c.OnProfile r) : r.Admits c.action := by
  have known : (c.input r).relationship = some r := rfl
  exact ProfileInput.admits_of_profile known offered.2

/-- What is offered in a row is admitted. -/
lemma Click.OnRow.admits {c : Click} (offered : c.OnRow r) : r.Admits c.action := by
  have known : (c.input r).relationship = some r := rfl
  exact ProfileInput.admits_of_row known offered.2

/-- Whatever is clicked on profiles and rows, a coherent relationship stays coherent. -/
theorem Clicks.coherent_course (run : Clicks (fun s c => c.OnProfile s ∨ c.OnRow s) r clicks)
    (start : r.Coherent) : ∀ s ∈ r.course clicks, s.Coherent := by
  apply run.forall_course (P := fun s => s.Coherent) ?_ start
  intro s c offered coherent
  have admits : s.Admits c.action := offered.elim Click.OnProfile.admits Click.OnRow.admits
  exact coherent.after admits c.account.locked

/-- From a follow to a block, with clicks on the row of a list of mutes on the way. -/
def sampleVisit : List Click :=
  [.sample .follow, .sample .enableNotifications, { Click.sample .mute with default := .mute },
    .sample .unmuteNotifications, .sample .block]

/-- A visit with clicks on profile and row keeps the relationship coherent. -/
theorem sampleVisit_coherent :
    Clicks (fun s c => c.OnProfile s ∨ c.OnRow s) .unrelated sampleVisit ∧
      Relationship.unrelated.Coherent ∧
      ∀ s ∈ Relationship.unrelated.course sampleVisit, s.Coherent := by
  have run : Clicks (fun s c => c.OnProfile s ∨ c.OnRow s) .unrelated sampleVisit :=
    .cons (.inl (by decide)) <| .cons (.inl (by decide)) <| .cons (.inr (by decide)) <|
      .cons (.inr (by decide)) <| .cons (.inl (by decide)) .nil
  have start : Relationship.unrelated.Coherent :=
    ⟨nofun, nofun, nofun, nofun, nofun, by decide, nofun⟩
  exact ⟨run, start, run.coherent_course start⟩

/-! ## What hangs on the follow -/

/-- The bell may only be switched on for a follow or a request, and the endorsement be given only
to somebody who is followed. So they come off only where the action that ends these forgets them. -/
lemma Ties.Attached.after (attached : r.Attached) (admits : r.Admits action)
    (kept : ¬ r.Strands action) (locked : Bool) : (r.after action locked).Attached := by
  cases action
  case follow =>
    obtain ⟨unfollowed, -, -⟩ := admits
    have unendorsed : ¬ r.endorsed = true := fun endorsed =>
      Bool.false_ne_true (unfollowed.symm.trans (attached.endorsement endorsed))
    cases locked with
    | true =>
      exact { attached with
        bell := fun _ => .inr rfl
        endorsement := fun endorsed => absurd endorsed unendorsed }
    | false => exact { bell := fun _ => .inl rfl, endorsement := fun _ => rfl }
  case unfollow => exact { bell := nofun, endorsement := fun endorsed => absurd endorsed kept }
  case withdrawRequest =>
    have bell (notifying : r.notifying = true) : r.following = true :=
      Bool.ne_false_iff.1 fun unfollowed => kept ⟨notifying, unfollowed⟩
    exact { attached with bell := fun notifying => .inl (bell notifying) }
  case enableNotifications =>
    exact { attached with bell := fun _ => Bool.or_eq_true _ _ ▸ admits.1 }
  case disableNotifications => exact { attached with bell := nofun }
  case block => exact { bell := nofun, endorsement := nofun }
  case blockDomain =>
    exact {
      bell := fun notifying => absurd (.inl notifying) kept
      endorsement := fun endorsed => absurd (.inr endorsed) kept }
  case endorse => exact { attached with endorsement := fun _ => admits.1 }
  case unendorse => exact { attached with endorsement := nofun }
  all_goals exact { attached with bell := attached.bell }

/-- What leaves an endorsement or the bell behind does so whatever is locked. -/
lemma Ties.Strands.not_attached (strands : r.Strands action) (locked : Bool) :
    ¬ (r.after action locked).Attached := by
  intro attached
  cases action
  case unfollow => cases attached.endorsement strands
  case withdrawRequest =>
    obtain ⟨notifying, unfollowed⟩ := strands
    obtain following | requested := attached.bell notifying
    · exact Bool.false_ne_true (unfollowed.symm.trans following)
    · cases requested
  case blockDomain =>
    obtain notifying | endorsed := strands
    · obtain following | requested := attached.bell notifying
      · cases following
      · cases requested
    · cases attached.endorsement endorsed
  all_goals exact strands

/-- A run leaves the bell or the endorsement behind exactly if one of its clicks does. -/
theorem Clicks.attached_iff (run : Clicks (fun s c => c.OnProfile s) r clicks)
    (start : r.Attached) :
    (∀ s ∈ r.course clicks, s.Attached) ↔ Clicks (fun s c => ¬ s.Strands c.action) r clicks := by
  constructor
  · intro attached
    clear start
    induction run with
    | nil => exact .nil
    | @cons r c clicks _ _ ih =>
      have later : ∀ s ∈ (c.grant r).course clicks, s.Attached := fun s mem =>
        attached s (List.mem_cons_of_mem _ mem)
      refine .cons ?_ (ih later)
      intro strands
      exact strands.not_attached c.account.locked (later _ (mem_course _ _))
  · intro kept
    apply (run.both kept).forall_course (P := fun s => s.Attached) ?_ start
    rintro s c ⟨offered, kept⟩ attached
    exact attached.after offered.admits kept c.account.locked

/-- A block takes the endorsement with the follow. -/
theorem sample_attached :
    Clicks (fun s c => c.OnProfile s) .unrelated
        [.sample .follow, .sample .endorse, .sample .block] ∧
      Relationship.unrelated.Attached ∧
      ∀ s ∈ Relationship.unrelated.course [.sample .follow, .sample .endorse, .sample .block],
        s.Attached := by
  have run : Clicks (fun s c => c.OnProfile s) .unrelated
      [.sample .follow, .sample .endorse, .sample .block] :=
    .cons (by decide) <| .cons (by decide) <| .cons (by decide) .nil
  have start : Relationship.unrelated.Attached := ⟨nofun, nofun⟩
  exact ⟨run, start, (run.attached_iff start).2 (.cons id (.cons id (.cons id .nil)))⟩

/-- Whoever stops to follow an account keeps it among the endorsed ones. -/
theorem not_attached_unfollow :
    ¬ ∀ (r : Relationship) (clicks : List Click),
      Clicks (fun s c => c.OnProfile s ∧ c.session.signedIn = true) r clicks → r.Attached →
        ∀ s ∈ r.course clicks, s.Attached := by
  intro all
  have start : ({ Relationship.ofFollower with endorsed := true } : Relationship).Attached :=
    ⟨nofun, fun _ => rfl⟩
  have run : Clicks (fun s c => c.OnProfile s ∧ c.session.signedIn = true)
      { Relationship.ofFollower with endorsed := true } [.sample .unfollow] :=
    .cons (by decide) .nil
  have attached := all _ _ run start _ (List.mem_cons_of_mem _ List.mem_cons_self)
  cases attached.endorsement rfl

end ProfileControls
