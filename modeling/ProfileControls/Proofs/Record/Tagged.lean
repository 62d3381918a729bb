import Mathlib.Data.List.Permutation
import ProfileControls.Proofs.Record.Forms

/-!
# The forms of a tagged value

A tag may go alone (`Alone`) or with content (`WithContent`). The members of its object stand in any
order, with anything under unknown keys in between. Content that comes before its tag is set aside
until the tag is known, so it has to be plain (`ContentFirst.tagged`); after the tag it may be
anything that can be read.

As for records, all forms come down to the same members (`Alone.tagged`, `WithContent.tagged`), and
what makes a tagged value unusable is among them, or keeps them from being taken (`Flawed.tagged`).
-/

namespace ProfileControls.Record.Tagged

open Json (Value)

/-- The ways to write a tag that goes alone. -/
inductive Alone (tagKey contentKey tag : String) : Value → Prop where
  | object {members unknown} :
    (∀ m ∈ unknown, m.1 ∉ [tagKey, contentKey]) →
    members.Perm ([(tagKey, .string tag)] ++ unknown) →
    Alone tagKey contentKey tag (.object members)

/-- The ways to write a tag that goes with content, and the content as one of the given values. -/
inductive WithContent (tagKey contentKey tag : String) (writes : Value → Prop) (room : Nat) :
    Value → Prop where
  | object {members unknown v} :
    writes v →
    (∀ m ∈ unknown, m.1 ∉ [tagKey, contentKey]) →
    members.Perm ([(tagKey, .string tag), (contentKey, v)] ++ unknown) →
    v.isPlain room = true ∨ [(tagKey, .string tag), (contentKey, v)].Sublist members →
    WithContent tagKey contentKey tag writes room (.object members)
  /-- the tag and its content in this order -/
  | array {v} :
    writes v →
    WithContent tagKey contentKey tag writes room (.array [.string tag, v])

/-- The content comes before its tag. -/
inductive ContentFirst (tagKey contentKey tag : String) (content : Value) : Value → Prop where
  | object {members unknown} :
    (∀ m ∈ unknown, m.1 ∉ [tagKey, contentKey]) →
    members.Perm ([(contentKey, content), (tagKey, .string tag)] ++ unknown) →
    [(contentKey, content), (tagKey, .string tag)].Sublist members →
    ContentFirst tagKey contentKey tag content (.object members)

/-- The value repeats the tag or the content, has no tag but `null`, has content that is unfit for
its tag, or has content that cannot be set aside until its tag comes. -/
inductive Flawed (tagKey contentKey : String) (unfit : String → Value → Prop) (room : Nat) :
    Value → Prop where
  | repeated {members key} :
    key ∈ [tagKey, contentKey] →
    2 ≤ (members.map (·.1)).count key →
    Flawed tagKey contentKey unfit room (.object members)
  | tag {members} :
    (tagKey, .null) ∈ members →
    Flawed tagKey contentKey unfit room (.object members)
  | content {members tag v} :
    (tagKey, .string tag) ∈ members →
    (contentKey, v) ∈ members →
    unfit tag v →
    Flawed tagKey contentKey unfit room (.object members)
  | item {tag v} :
    unfit tag v →
    Flawed tagKey contentKey unfit room (.array [.string tag, v])
  | setAside {tag c v} :
    ContentFirst tagKey contentKey tag c v →
    c.isPlain room = false →
    Flawed tagKey contentKey unfit room v

variable {tagKey contentKey tag : String} {writes : Value → Prop}
  {unfit : String → Value → Prop} {room : Nat} {members : List (String × Value)}
  {v w : Value} {t : Tagged}

/-! ## Writers -/

/-- A writer puts down nothing but the tag. -/
lemma Alone.own (tagKey contentKey tag : String) :
    Alone tagKey contentKey tag (.object [(tagKey, .string tag)]) :=
  .object (List.forall_mem_nil _) (by rw [List.append_nil])

/-- A writer puts the tag first, so it does not matter whether the content is plain. -/
lemma WithContent.own (tagKey contentKey tag : String) (room : Nat) (own : writes v) :
    WithContent tagKey contentKey tag writes room
      (.object [(tagKey, .string tag), (contentKey, v)]) :=
  .object own (List.forall_mem_nil _) (by rw [List.append_nil]) (.inr (.refl _))

/-! ## Readers -/

/-- The members of the tag and of the content, in the order in which they come. -/
def known (tagKey contentKey : String) (members : List (String × Value)) : Fields :=
  members.filter fun m => [tagKey, contentKey].contains m.1

/-- A tag that goes alone is taken. -/
lemma tagged?_alone (taken : known tagKey contentKey members = [(tagKey, w)]) :
    tagged? tagKey contentKey room (.object members) = some ⟨w, none⟩ := by
  simp only [known] at taken
  simp only [tagged?, taken, if_true]

/-- A tag and its content are taken in this order, whatever the content is. -/
lemma tagged?_tagFirst (taken : known tagKey contentKey members = [(tagKey, w), (contentKey, v)]) :
    tagged? tagKey contentKey room (.object members) = some ⟨w, some v⟩ := by
  simp only [known] at taken
  simp only [tagged?, taken, and_self, if_true]

/-- Content before its tag is taken if it is plain. -/
lemma tagged?_contentFirst (distinct : tagKey ≠ contentKey)
    (taken : known tagKey contentKey members = [(contentKey, v), (tagKey, w)]) :
    tagged? tagKey contentKey room (.object members) =
      if v.isPlain room then some ⟨w, some v⟩ else none := by
  simp only [known] at taken
  simp only [tagged?, taken, distinct.symm, false_and, if_false, true_and]

/-- What is taken for a tag and its content are all the members under the two keys. -/
lemma known_of_tagged (taken : tagged? tagKey contentKey room (.object members) = some t) :
    (known tagKey contentKey members).Perm
      ((tagKey, t.tag) :: t.content.toList.map fun c => (contentKey, c)) := by
  simp only [tagged?] at taken
  rw [known]
  split at taken
  · next k w eq =>
    obtain ⟨rfl, same⟩ := Option.ite_none_right_eq_some.1 taken
    cases same
    exact eq ▸ .refl _
  · next k a k' b eq =>
    split at taken
    · next keys =>
      obtain ⟨rfl, rfl⟩ := keys
      cases taken
      exact eq ▸ .refl _
    · obtain ⟨⟨rfl, rfl, -⟩, same⟩ := Option.ite_none_right_eq_some.1 taken
      cases same
      exact eq ▸ .swap _ _ _
  · cases taken

/-- A member under one of the two keys is the tag or the content that was taken. -/
lemma mem_of_tagged (taken : tagged? tagKey contentKey room (.object members) = some t)
    {m : String × Value} (mem : m ∈ members) (key : m.1 ∈ [tagKey, contentKey]) :
    m = (tagKey, t.tag) ∨ ∃ c, t.content = some c ∧ m = (contentKey, c) := by
  have given := (known_of_tagged taken).mem_iff.1
    (List.mem_filter.2 ⟨mem, List.contains_iff_mem.2 key⟩)
  obtain same | given := List.mem_cons.1 given
  · exact .inl same
  · obtain ⟨c, content, same⟩ := List.mem_map.1 given
    exact .inr ⟨c, Option.mem_toList.1 content, same.symm⟩

/-- What stands under the key of the tag is the tag that was taken. -/
lemma tag_of_mem (taken : tagged? tagKey contentKey room (.object members) = some t)
    (distinct : tagKey ≠ contentKey) (mem : (tagKey, v) ∈ members) : t.tag = v := by
  obtain same | ⟨c, -, other⟩ := mem_of_tagged taken mem List.mem_cons_self
  · exact (congrArg Prod.snd same).symm
  · exact absurd (congrArg Prod.fst other) distinct

/-- What stands under the key of the content is the content that was taken. -/
lemma content_of_mem (taken : tagged? tagKey contentKey room (.object members) = some t)
    (distinct : tagKey ≠ contentKey) (mem : (contentKey, v) ∈ members) : t.content = some v := by
  obtain other | ⟨c, content, same⟩ := mem_of_tagged taken mem (by simp)
  · exact absurd (congrArg Prod.fst other).symm distinct
  · cases same
    exact content

/-- A tag that goes alone is taken in all its forms. -/
theorem Alone.tagged (written : Alone tagKey contentKey tag v) :
    tagged? tagKey contentKey room v = some ⟨.string tag, none⟩ := by
  cases written with
  | object others perm =>
    refine tagged?_alone (List.perm_singleton.1 (known_perm ?_ others perm))
    rintro m mem
    rw [List.mem_singleton.1 mem]
    exact List.mem_cons_self

/-- Members that come in a given order are taken in that order. -/
lemma known_of_sublist {given unknown : List (String × Value)}
    (all : ∀ m ∈ given, m.1 ∈ [tagKey, contentKey])
    (others : ∀ m ∈ unknown, m.1 ∉ [tagKey, contentKey]) (perm : members.Perm (given ++ unknown))
    (order : given.Sublist members) : known tagKey contentKey members = given := by
  have taken := known_perm all others perm
  have kept := order.filter fun m => [tagKey, contentKey].contains m.1
  rw [List.filter_eq_self.2 fun m mem => List.contains_iff_mem.2 (all m mem)] at kept
  exact (kept.eq_of_length taken.length_eq.symm).symm

/-- A tag is taken in all its forms with the content that it goes with. -/
theorem WithContent.tagged (written : WithContent tagKey contentKey tag writes room v)
    (distinct : tagKey ≠ contentKey) :
    ∃ c, writes c ∧ tagged? tagKey contentKey room v = some ⟨.string tag, some c⟩ := by
  cases written with
  | array writes => exact ⟨_, writes, rfl⟩
  | @object members unknown c writes others perm order =>
    refine ⟨c, writes, ?_⟩
    have all : ∀ m ∈ [(tagKey, Value.string tag), (contentKey, c)], m.1 ∈ [tagKey, contentKey] := by
      simp
    obtain plain | first := order
    · obtain taken | taken := List.perm_pair.1 (known_perm all others perm)
      · exact tagged?_tagFirst taken
      · rw [tagged?_contentFirst distinct taken, if_pos plain]
    · exact tagged?_tagFirst (known_of_sublist all others perm first)

/-- Content that comes before its tag is taken exactly if it is plain. -/
theorem ContentFirst.tagged (written : ContentFirst tagKey contentKey tag v w)
    (distinct : tagKey ≠ contentKey) :
    tagged? tagKey contentKey room w =
      if v.isPlain room then some ⟨.string tag, some v⟩ else none := by
  cases written with
  | object others perm order =>
    exact tagged?_contentFirst distinct (known_of_sublist (by simp) others perm order)

/-- If anything is taken from what is flawed, then it is unfit. -/
theorem Flawed.tagged (flawed : Flawed tagKey contentKey unfit room v)
    (distinct : tagKey ≠ contentKey) (taken : tagged? tagKey contentKey room v = some t) :
    t.tag = .null ∨ ∃ tag c, t = ⟨.string tag, some c⟩ ∧ unfit tag c := by
  cases flawed with
  | @repeated members key mem twice =>
    -- what was taken has each of the two keys at most once
    have once : (tagKey :: t.content.toList.map fun _ => contentKey).Nodup := by
      cases t.content <;> simp [distinct]
    have keys := (known_of_tagged taken).map (·.1)
    rw [List.map_cons, List.map_map] at keys
    have bound := List.nodup_iff_count_le_one.1 (keys.nodup_iff.2 once) key
    rw [known, count_known mem] at bound
    omega
  | tag mem => exact .inl (tag_of_mem taken distinct mem)
  | @content members tag c tagged given bad =>
    refine .inr ⟨tag, c, ?_, bad⟩
    rw [← tag_of_mem taken distinct tagged, ← content_of_mem taken distinct given]
  | item bad =>
    cases taken
    exact .inr ⟨_, _, rfl, bad⟩
  | setAside first unplain =>
    rw [first.tagged distinct, unplain] at taken
    cases taken

end ProfileControls.Record.Tagged
