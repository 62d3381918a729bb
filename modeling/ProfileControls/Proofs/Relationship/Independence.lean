import Mathlib.Data.List.Nodup
import ProfileControls.ActionEffect
import ProfileControls.Proofs.Dispatch.Table

/-!
# Independence of requests

Requests on different fields of a relationship need not take turns, and yet their effects may meet:
a block also ends the follow, and to follow also shows boosts. What an action does to a relationship
is told by the flags that it sets and clears (`Action.marks`); all other flags and the note stay as
they are (`Relationship.flag_after`). Two demands clash if one sets a flag that the other clears. In
the two orders they then leave different relationships, and demands that do not clash can be swapped
(`Demand.granting_comm_iff`).

So the order of a number of demands matters as far as they clash, and no further
(`Demand.granting_orders`). Between different fields there are six kinds of clashes
(`Demand.rivals`).
-/

namespace ProfileControls

/-- The flags of a relationship. -/
inductive Flag where
  | following
  | requested
  | followedBy
  | requestedBy
  | blocking
  | blockedBy
  | muting
  | mutingNotifications
  | domainBlocking
  | showingReblogs
  | notifying
  | endorsed
deriving DecidableEq, Repr

/-- The state of a flag. -/
def Ties.flag (t : Ties) : Flag → Bool
  | .following => t.following
  | .requested => t.requested
  | .followedBy => t.followedBy
  | .requestedBy => t.requestedBy
  | .blocking => t.blocking
  | .blockedBy => t.blockedBy
  | .muting => t.muting
  | .mutingNotifications => t.mutingNotifications
  | .domainBlocking => t.domainBlocking
  | .showingReblogs => t.showingReblogs
  | .notifying => t.notifying
  | .endorsed => t.endorsed

/-- The flags that an action sets or clears; `locked` tells whether the subject is locked. -/
def Action.marks (action : Action) (locked : Bool) : List (Flag × Bool) :=
  match action with
  | .follow =>
    if locked then [(.requested, true)]
    else [(.following, true), (.requested, false), (.showingReblogs, true)]
  | .unfollow => [(.following, false), (.requested, false), (.notifying, false)]
  | .withdrawRequest => [(.requested, false)]
  | .hideReblogs => [(.showingReblogs, false)]
  | .showReblogs => [(.showingReblogs, true)]
  | .enableNotifications => [(.notifying, true)]
  | .disableNotifications => [(.notifying, false)]
  | .mute => [(.muting, true), (.mutingNotifications, true)]
  | .unmute => [(.muting, false), (.mutingNotifications, false)]
  | .muteNotifications => [(.mutingNotifications, true)]
  | .unmuteNotifications => [(.mutingNotifications, false)]
  | .block =>
    [(.blocking, true), (.following, false), (.requested, false), (.followedBy, false),
      (.notifying, false), (.endorsed, false)]
  | .unblock => [(.blocking, false)]
  | .blockDomain => [(.domainBlocking, true), (.following, false), (.requested, false)]
  | .unblockDomain => [(.domainBlocking, false)]
  | .endorse => [(.endorsed, true)]
  | .unendorse => [(.endorsed, false)]
  | .removeFromFollowers => [(.followedBy, false)]
  | .mention | .directMention | .openHomePage | .changeLanguages | .manageLists | .report
  | .moderateAccount | .moderateDomain => []

/-- Relationships are equal if all flags and the note are. -/
lemma Relationship.ext_flag {r r' : Relationship} (flags : ∀ f, r.flag f = r'.flag f)
    (note : r.note = r'.note) : r = r' := by
  obtain ⟨⟨⟩, _⟩ := r
  obtain ⟨⟨⟩, _⟩ := r'
  cases flags .following
  cases flags .requested
  cases flags .followedBy
  cases flags .requestedBy
  cases flags .blocking
  cases flags .blockedBy
  cases flags .muting
  cases flags .mutingNotifications
  cases flags .domainBlocking
  cases flags .showingReblogs
  cases flags .notifying
  cases flags .endorsed
  cases note
  rfl

/-- An action leaves its marks and nothing else. -/
theorem Relationship.flag_after (r : Relationship) (action : Action) (locked : Bool) (f : Flag) :
    (r.after action locked).flag f = ((action.marks locked).lookup f).getD (r.flag f) := by
  cases action <;> cases locked <;> cases f <;> rfl

/-- What is asked of the server: an action, and whether the subject is locked. -/
structure Demand where
  action : Action
  locked : Bool
deriving DecidableEq, Repr

/-- What becomes of the relationship when a demand is granted. -/
def Relationship.granting (r : Relationship) (d : Demand) : Relationship :=
  r.after d.action d.locked

/-- What becomes of the relationship when demands are granted one after the other. -/
def Relationship.grantingAll (r : Relationship) (ds : List Demand) : Relationship :=
  ds.foldl granting r

namespace Demand

/-- The flags that a demand sets or clears. -/
def marks (d : Demand) : List (Flag × Bool) :=
  d.action.marks d.locked

/-- One of the demands sets a flag that the other clears. -/
def Clash (d d' : Demand) : Prop :=
  ∃ m ∈ d.marks, (m.1, !m.2) ∈ d'.marks

instance (d d' : Demand) : Decidable (d.Clash d') :=
  inferInstanceAs (Decidable (∃ m ∈ d.marks, (m.1, !m.2) ∈ d'.marks))

/-- The kinds of clashes between demands on different fields. -/
def rivals (d d' : Demand) : Bool :=
  match d.action, d'.action with
  | .follow, .block | .follow, .blockDomain => true
  | .follow, .hideReblogs => !d.locked
  | .enableNotifications, .unfollow | .enableNotifications, .block | .endorse, .block => true
  | _, _ => false

variable {d d' : Demand} {f : Flag}

/-! ## Two demands -/

/-- No demand marks a flag twice. -/
lemma marks_nodup (d : Demand) : (d.marks.map (·.1)).Nodup := by
  obtain ⟨action, locked⟩ := d
  cases action <;> cases locked <;> decide

/-- Granting a demand sets and clears the flags that it marks. -/
lemma flag_granting (r : Relationship) (d : Demand) (f : Flag) :
    (r.granting d).flag f = (d.marks.lookup f).getD (r.flag f) :=
  r.flag_after d.action d.locked f

/-- A flag that is marked is as it is marked. -/
lemma flag_granting_marked {v : Bool} (mark : d.marks.lookup f = some v) (r : Relationship) :
    (r.granting d).flag f = v := by
  rw [flag_granting, mark, Option.getD_some]

/-- A flag that is not marked stays as it is. -/
lemma flag_granting_unmarked (none : d.marks.lookup f = none) (r : Relationship) :
    (r.granting d).flag f = r.flag f := by
  rw [flag_granting, none, Option.getD_none]

/-- Granting a demand leaves the note as it is. -/
lemma note_granting (r : Relationship) (d : Demand) : (r.granting d).note = r.note :=
  r.note_after d.action d.locked

/-- Demands clash if one sets a flag that the other one clears. -/
lemma clash_iff :
    d.Clash d' ↔ ∃ f v, d.marks.lookup f = some v ∧ d'.marks.lookup f = some (!v) := by
  constructor
  · rintro ⟨⟨f, v⟩, mark, mark'⟩
    exact ⟨f, v, (Dispatch.Table.lookup_eq_some_iff d.marks_nodup).2 mark,
      (Dispatch.Table.lookup_eq_some_iff d'.marks_nodup).2 mark'⟩
  · rintro ⟨f, v, mark, mark'⟩
    exact ⟨(f, v), (Dispatch.Table.lookup_eq_some_iff d.marks_nodup).1 mark,
      (Dispatch.Table.lookup_eq_some_iff d'.marks_nodup).1 mark'⟩

/-- Clashes are mutual. -/
lemma Clash.symm (clash : d.Clash d') : d'.Clash d := by
  obtain ⟨⟨f, v⟩, mark, mark'⟩ := clash
  exact ⟨(f, !v), mark', by rwa [Bool.not_not]⟩

/-- No demand clashes with itself. -/
lemma not_clash_self (d : Demand) : ¬ d.Clash d := by
  intro clash
  obtain ⟨f, v, mark, mark'⟩ := clash_iff.1 clash
  rw [mark] at mark'
  cases v <;> cases mark'

/-- If two demands clash, the later one decides a flag. -/
lemma Clash.granting_ne (clash : d.Clash d') (r s : Relationship) :
    (r.granting d).granting d' ≠ (s.granting d').granting d := by
  obtain ⟨f, v, mark, mark'⟩ := clash_iff.1 clash
  intro same
  have flag := congrArg (·.flag f) same
  simp only [flag_granting_marked mark, flag_granting_marked mark'] at flag
  cases v <;> cases flag

/-- Demands that do not clash may be granted in either order. -/
lemma granting_comm (apart : ¬ d.Clash d') (r : Relationship) :
    (r.granting d).granting d' = (r.granting d').granting d := by
  apply Relationship.ext_flag
  case note => simp only [note_granting]
  case flags =>
    intro f
    cases mark : d.marks.lookup f with
    | none =>
      rw [flag_granting_unmarked mark, flag_granting, flag_granting_unmarked mark, flag_granting]
    | some v =>
      cases mark' : d'.marks.lookup f with
      | none =>
        rw [flag_granting_unmarked mark', flag_granting_marked mark, flag_granting_marked mark]
      | some v' =>
        have agree : v' = v := by
          by_contra differ
          exact apart (clash_iff.2 ⟨f, v, mark, by rw [mark', Bool.eq_not.2 differ]⟩)
        rw [flag_granting_marked mark', flag_granting_marked mark, agree]

/-- In the two orders, two demands leave the same relationship exactly if they do not clash. -/
theorem granting_comm_iff (r : Relationship) (d d' : Demand) :
    (r.granting d).granting d' = (r.granting d').granting d ↔ ¬ d.Clash d' := by
  constructor
  · intro same clash
    exact clash.granting_ne r r same
  · intro apart
    exact granting_comm apart r

/-- Demands on different fields clash exactly if they are rivals. -/
theorem clash_iff_rivals (fields : d.action.field ≠ d'.action.field) :
    d.Clash d' ↔ d.rivals d' = true ∨ d'.rivals d = true := by
  have table : ∀ a ∈ Action.all, ∀ a' ∈ Action.all, ∀ locked locked', a.field ≠ a'.field →
      ((⟨a, locked⟩ : Demand).Clash ⟨a', locked'⟩ ↔
        rivals ⟨a, locked⟩ ⟨a', locked'⟩ = true ∨ rivals ⟨a', locked'⟩ ⟨a, locked⟩ = true) := by
    decide +kernel
  exact table d.action d.action.mem_all d'.action d'.action.mem_all d.locked d'.locked fields

/-! ## Any number of demands -/

/-- To grant demands is to grant the first and then the others. -/
lemma grantingAll_cons (r : Relationship) (d : Demand) (ds : List Demand) :
    r.grantingAll (d :: ds) = (r.granting d).grantingAll ds := rfl

/-- Demands may be granted in two parts. -/
lemma grantingAll_append (r : Relationship) (ds ds' : List Demand) :
    r.grantingAll (ds ++ ds') = (r.grantingAll ds).grantingAll ds' :=
  List.foldl_append

/-- A demand can be granted before others that do not clash with it. -/
lemma granting_past {ds : List Demand} (apart : ∀ x ∈ ds, ¬ x.Clash d) (r : Relationship) :
    (r.grantingAll ds).granting d = (r.granting d).grantingAll ds := by
  induction ds generalizing r with
  | nil => rfl
  | cons x ds ih =>
    rw [grantingAll_cons, grantingAll_cons, ih (fun y mem => apart y (List.mem_cons_of_mem _ mem)),
      granting_comm (apart x List.mem_cons_self)]

/-- Of two demands that stand after each other, the first does not stand after the second. -/
lemma not_before_of_mem {x : Demand} {pre post : List Demand} (nd : (pre ++ d :: post).Nodup)
    (mem : x ∈ pre) : ¬ List.Sublist [d, x] (pre ++ d :: post) := by
  intro before
  have absent : d ∉ pre := fun here =>
    (List.nodup_append.1 nd).2.2 d here d List.mem_cons_self rfl
  have gone : x ∉ post := fun there =>
    (List.nodup_append.1 nd).2.2 x mem x (List.mem_cons_of_mem _ there) rfl
  obtain ⟨l₁, l₂, split, sub, sub'⟩ := List.sublist_append_iff.1 before
  cases l₁ with
  | nil =>
    cases split
    exact gone (List.singleton_sublist.1 (List.cons_sublist_cons.1 sub'))
  | cons y l₁ =>
    obtain ⟨rfl, -⟩ := List.cons_eq_cons.1 split
    exact absent (sub.subset List.mem_cons_self)

/-- The order of demands matters as far as they clash. -/
theorem granting_reorder {ds ds' : List Demand} (perm : ds'.Perm ds) (nd : ds.Nodup)
    (order : ∀ d d', d.Clash d' → [d, d'].Sublist ds → [d, d'].Sublist ds') (r : Relationship) :
    r.grantingAll ds' = r.grantingAll ds := by
  induction ds generalizing ds' r with
  | nil => rw [perm.eq_nil]
  | cons d ds ih =>
    -- the first demand of one order can be granted first in the other one too
    obtain ⟨pre, post, rfl⟩ := List.append_of_mem (perm.symm.subset List.mem_cons_self)
    have nd' : (pre ++ d :: post).Nodup := perm.nodup_iff.2 nd
    have rest : (pre ++ post).Perm ds := (List.perm_middle.symm.trans perm).cons_inv
    have apart : ∀ x ∈ pre, ¬ x.Clash d := by
      intro x mem clash
      have later : x ∈ ds := rest.subset (List.mem_append_left _ mem)
      have before : [d, x].Sublist (d :: ds) :=
        List.cons_sublist_cons.2 (List.singleton_sublist.2 later)
      exact not_before_of_mem nd' mem (order d x clash.symm before)
    rw [List.nodup_cons] at nd
    rw [grantingAll_append, grantingAll_cons, granting_past apart, ← grantingAll_append,
      grantingAll_cons]
    apply ih rest nd.2
    intro x y clash before
    have keep := order x y clash (before.cons _)
    -- neither of the two is the first demand, so they stand in the rest
    have others : [x, y].filter (· ≠ d) = [x, y] := by
      rw [List.filter_eq_self]
      rintro z mem
      have ne : z ≠ d := fun same => nd.1 (same ▸ before.subset mem)
      simpa using ne
    rw [← others]
    apply (keep.filter (· ≠ d)).trans
    rw [List.filter_append, List.filter_cons_of_neg (by simp), ← List.filter_append]
    exact List.filter_sublist

/-- Demands that clash leave different relationships, depending on the order of the two. -/
lemma Clash.exists_orders {ds : List Demand} (clash : d.Clash d') (mem : d ∈ ds) (mem' : d' ∈ ds) :
    ∃ es es' : List Demand, es.Perm ds ∧ es'.Perm ds ∧
      ∀ r : Relationship, r.grantingAll es ≠ r.grantingAll es' := by
  have ne : d' ≠ d := by
    rintro rfl
    exact not_clash_self _ clash
  have mem'' : d' ∈ ds.erase d := (List.mem_erase_of_ne ne).2 mem'
  have split : ds.Perm (d :: d' :: (ds.erase d).erase d') :=
    (List.perm_cons_erase mem).trans ((List.perm_cons_erase mem'').cons d)
  -- let the two be the last ones
  generalize (ds.erase d).erase d' = rest at split
  refine ⟨rest ++ [d, d'], rest ++ [d', d], ?_, ?_, ?_⟩
  · exact List.perm_append_comm.trans split.symm
  · exact List.perm_append_comm.trans ((List.Perm.swap d d' rest).trans split.symm)
  · intro r
    rw [grantingAll_append, grantingAll_append]
    exact clash.granting_ne _ _

/-- Demands on different fields lead to the same relationship in any two orders that agree on those
which clash. They do so in all orders exactly if none of them clash, and the clashes are known. -/
theorem granting_orders {ds : List Demand} (fields : (ds.map (·.action.field)).Nodup)
    (r : Relationship) :
    (∀ ds' : List Demand, ds'.Perm ds →
      (∀ d d', d.Clash d' → [d, d'].Sublist ds → [d, d'].Sublist ds') →
      r.grantingAll ds' = r.grantingAll ds) ∧
    ((∀ ds' : List Demand, ds'.Perm ds →
        r.grantingAll ds' = r.grantingAll ds) ↔
      ∀ d ∈ ds, ∀ d' ∈ ds, ¬ d.Clash d') ∧
    (∀ d ∈ ds, ∀ d' ∈ ds, d ≠ d' → (d.Clash d' ↔ d.rivals d' = true ∨ d'.rivals d = true)) := by
  have nd : ds.Nodup := fields.of_map _
  refine ⟨fun ds' perm order => granting_reorder perm nd order r, ⟨?_, ?_⟩, ?_⟩
  · intro same d mem d' mem' clash
    obtain ⟨es, es', perm, perm', differ⟩ := clash.exists_orders mem mem'
    exact differ r ((same es perm).trans (same es' perm').symm)
  · intro apart ds' perm
    apply granting_reorder perm nd
    intro d d' clash before
    exact absurd clash (apart d (before.subset (by simp)) d' (before.subset (by simp)))
  · intro d mem d' mem' ne
    apply clash_iff_rivals
    intro field
    exact ne (List.inj_on_of_nodup_map fields mem mem' field)

/-- To follow and to mute are independent of each other. -/
theorem follow_mute_orders :
    Relationship.unrelated.grantingAll [⟨.mute, false⟩, ⟨.follow, false⟩] =
      Relationship.unrelated.grantingAll [⟨.follow, false⟩, ⟨.mute, false⟩] := by
  have fields : ([(⟨.follow, false⟩ : Demand), ⟨.mute, false⟩].map (·.action.field)).Nodup := by
    decide
  obtain ⟨-, all, -⟩ := granting_orders fields .unrelated
  exact all.2 (by decide) _ (List.Perm.swap _ _ _)

/-- A block after a follow ends it, and a follow after a block does not lift the block. -/
theorem follow_block_orders :
    ¬ ∀ (r : Relationship) (ds ds' : List Demand), (∀ d ∈ ds, d.action.field ≠ none) →
      (ds.map (·.action.field)).Nodup → ds'.Perm ds →
      r.grantingAll ds' = r.grantingAll ds := by
  intro all
  have wrong := all .unrelated [⟨.follow, false⟩, ⟨.block, false⟩]
    [⟨.block, false⟩, ⟨.follow, false⟩] (by decide) (by decide) (List.Perm.swap _ _ _)
  revert wrong
  decide

end Demand

end ProfileControls
