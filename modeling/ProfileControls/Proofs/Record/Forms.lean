import Mathlib.Data.List.Nodup
import Mathlib.Data.List.Perm.Basic
import ProfileControls.Proofs.Dispatch.Table
import ProfileControls.Record.Fields

/-!
# The forms of a record

A record can be written in many ways that mean the same (`Record.Written`). In an object its members
stand in any order, anything may stand under unknown keys, and a field may be left out that has a
default and holds it. In an array the fields stand in their declared order, and such fields may be
left out at the end.

Reading takes the known members first and then looks up one key after the other, so the order and
the unknown keys are gone before any field is read. What is left is the same for all forms
(`Written.found`): each field is found with one of the values that it may be written as, or it is
not found and holds its default. What makes a record unusable is found as well, or keeps the members
from being taken (`Flawed.found`). A reader that goes by what is found is robust
(`Robust.of_fields`).
-/

namespace ProfileControls.Record

open Json (Value)

/-- A field as it may be written. -/
structure Field where
  key : String
  /-- the value that a writer gives it -/
  value : Value
  /-- the values that it may be written as -/
  writes : Value → Prop
  /-- it has a default and holds it -/
  isDefault : Prop
  writes_value : writes value

namespace Field

/-- A field without a default. -/
def required (key : String) (v : Value) : Field :=
  ⟨key, v, (· = v), False, rfl⟩

/-- A field that has a default, and whether it holds it. -/
def orDefault (key : String) (v : Value) (isDefault : Prop) : Field :=
  ⟨key, v, (· = v), isDefault, rfl⟩

/-- A field whose value may be missing. -/
def optional {α : Type} (key : String) (write : α → Value) (a : Option α) : Field :=
  .orDefault key (.orNull write a) (a = none)

/-- A truth value. -/
def flag (key : String) (b : Bool) : Field :=
  .orDefault key (.bool b) (b = false)

/-- The member of a record that a writer makes of the field. -/
def member (f : Field) : String × Value :=
  (f.key, f.value)

/-- The field is found among the members that a record gives, or its default is meant. -/
def FoundIn (f : Field) (given : Fields) : Prop :=
  (∃ v, given.lookup f.key = some v ∧ f.writes v) ∨ (given.lookup f.key = none ∧ f.isDefault)

end Field

/-- Members that give the fields in their order. Defaults may be left out. -/
inductive Given : List Field → List (String × Value) → Prop where
  | nil :
    Given [] []
  | give {f v fields members} :
    f.writes v →
    Given fields members →
    Given (f :: fields) ((f.key, v) :: members)
  | leave {f fields members} :
    f.isDefault →
    Given fields members →
    Given (f :: fields) members

/-- Items that give the fields in their order. Defaults may be left out at the end. -/
inductive Listed : List Field → List Value → Prop where
  | nil {fields} :
    (∀ f ∈ fields, f.isDefault) →
    Listed fields []
  | cons {f v fields items} :
    f.writes v →
    Listed fields items →
    Listed (f :: fields) (v :: items)

/-- The ways to write a record with the given fields. -/
inductive Written (fields : List Field) : Value → Prop where
  /-- the members of the fields, and any others under unknown keys, in any order -/
  | object {members given unknown} :
    Given fields given →
    (∀ m ∈ unknown, m.1 ∉ fields.map (·.key)) →
    members.Perm (given ++ unknown) →
    Written fields (.object members)
  /-- the fields in their declared order -/
  | array {items} :
    Listed fields items →
    Written fields (.array items)

/-- The value repeats a known key of a record, or has something unfit under it. -/
inductive Flawed (keys : List String) (unfit : String → Value → Prop) : Value → Prop where
  | repeated {members key} :
    key ∈ keys →
    2 ≤ (members.map (·.1)).count key →
    Flawed keys unfit (.object members)
  | member {members key v} :
    key ∈ keys →
    (key, v) ∈ members →
    unfit key v →
    Flawed keys unfit (.object members)
  | item {items : List Value} {key v} :
    (key, v) ∈ keys.zip items →
    unfit key v →
    Flawed keys unfit (.array items)

variable {fields : List Field} {given : List (String × Value)} {items : List Value}
  {f : Field} {v : Value} {keys : List String} {unfit : String → Value → Prop}

/-! ## Fields that are given -/

/-- The keys that are given are some of those of the fields, in the same order. -/
lemma Given.sublist (all : Given fields given) :
    (given.map (·.1)).Sublist (fields.map (·.key)) := by
  induction all with
  | nil => exact .slnil
  | give _ _ ih => exact ih.cons_cons _
  | leave _ _ ih => exact ih.cons _

/-- A field is given, or else it is left out and holds its default. -/
lemma Given.mem_or (all : Given fields given) (nodup : (fields.map (·.key)).Nodup)
    (mem : f ∈ fields) :
    (∃ v, (f.key, v) ∈ given ∧ f.writes v) ∨ (f.key ∉ given.map (·.1) ∧ f.isDefault) := by
  -- the step of the field itself decides, since all other steps are about other keys
  induction all with
  | nil => cases mem
  | @give g v fields members writes all ih =>
    obtain ⟨new, nodup⟩ := List.nodup_cons.1 nodup
    obtain rfl | mem := List.mem_cons.1 mem
    · exact .inl ⟨v, List.mem_cons_self, writes⟩
    · have other : f.key ≠ g.key := by
        intro same
        exact new (List.mem_map.2 ⟨f, mem, same⟩)
      obtain ⟨w, given, writes⟩ | ⟨missing, isDefault⟩ := ih nodup mem
      · exact .inl ⟨w, List.mem_cons_of_mem _ given, writes⟩
      · refine .inr ⟨?_, isDefault⟩
        rw [List.map_cons, List.mem_cons, not_or]
        exact ⟨other, missing⟩
  | leave isDefault all ih =>
    obtain ⟨new, nodup⟩ := List.nodup_cons.1 nodup
    obtain rfl | mem := List.mem_cons.1 mem
    · exact .inr ⟨fun given => new (all.sublist.subset given), isDefault⟩
    · exact ih nodup mem

/-- Where all fields hold their defaults, nothing need be given. -/
lemma Given.of_defaults (isDefault : ∀ f ∈ fields, f.isDefault) : Given fields [] := by
  induction fields with
  | nil => exact .nil
  | cons f fields ih =>
    obtain ⟨isDefault, others⟩ := List.forall_mem_cons.1 isDefault
    exact .leave isDefault (ih others)

/-- The items of an array give the fields that they stand for. -/
lemma Listed.gives (all : Listed fields items) : Given fields ((fields.map (·.key)).zip items) := by
  induction all with
  | nil isDefault =>
    rw [List.zip_nil_right]
    exact .of_defaults isDefault
  | cons writes _ ih => exact .give writes ih

/-- A list of items has no more items than there are fields. -/
lemma Listed.length_le (all : Listed fields items) : items.length ≤ fields.length := by
  induction all with
  | nil => exact Nat.zero_le _
  | cons _ _ ih => exact Nat.succ_le_succ ih

/-- A writer gives every field. -/
lemma given_members (fields : List Field) : Given fields (fields.map Field.member) := by
  induction fields with
  | nil => exact .nil
  | cons f fields ih => exact .give f.writes_value ih

/-- What a writer makes of the fields is one of the ways to write them. -/
lemma Written.members (fields : List Field) : Written fields (.object (fields.map Field.member)) :=
  .object (given_members fields) (List.forall_mem_nil _) (by rw [List.append_nil])

/-! ## Known members -/

/-- The keys that items stand for are the first ones. -/
lemma map_fst_zip_sublist (keys : List String) (items : List Value) :
    ((keys.zip items).map (·.1)).Sublist keys := by
  rw [List.zip_eq_zip_take_min, List.map_fst_zip (by simp)]
  exact List.take_sublist _ _

/-- Nothing is found under a key that is not given. -/
lemma lookup_eq_none_iff {given : Fields} {key : String} :
    given.lookup key = none ↔ key ∉ given.map (·.1) := by
  rw [List.lookup_eq_none_iff, List.mem_map]
  constructor
  · rintro none ⟨m, mem, rfl⟩
    have other := none m mem
    simp at other
  · intro none m mem
    rw [bne_iff_ne]
    rintro rfl
    exact none ⟨m, mem, rfl⟩

/-- In whatever order the members are given, a field is found. -/
lemma found_of_perm (all : Given fields given) (nodup : (fields.map (·.key)).Nodup)
    {known : Fields} (perm : known.Perm given) (mem : f ∈ fields) : f.FoundIn known := by
  have nodup' : (known.map (·.1)).Nodup :=
    (perm.map _).nodup_iff.2 (nodup.sublist all.sublist)
  obtain ⟨v, there, writes⟩ | ⟨missing, isDefault⟩ := all.mem_or nodup mem
  · exact .inl ⟨v, (Dispatch.Table.lookup_eq_some_iff nodup').2 (perm.mem_iff.2 there), writes⟩
  · refine .inr ⟨lookup_eq_none_iff.2 fun there => missing ?_, isDefault⟩
    exact (perm.map _).mem_iff.1 there

/-- Of the members of an object, the known ones are taken. -/
lemma known_perm {members given unknown : List (String × Value)} (all : ∀ m ∈ given, m.1 ∈ keys)
    (others : ∀ m ∈ unknown, m.1 ∉ keys) (perm : members.Perm (given ++ unknown)) :
    (members.filter fun m => keys.contains m.1).Perm given := by
  have known : given.filter (fun m => keys.contains m.1) = given := by
    rw [List.filter_eq_self]
    intro m mem
    exact List.contains_iff_mem.2 (all m mem)
  have none : unknown.filter (fun m => keys.contains m.1) = [] := by
    rw [List.filter_eq_nil_iff]
    intro m mem known
    exact others m mem (List.contains_iff_mem.1 known)
  have filtered := perm.filter fun m => keys.contains m.1
  rwa [List.filter_append, known, none, List.append_nil] at filtered

/-- All copies of a known key are taken. -/
lemma count_known {members : List (String × Value)} {key : String} (known : key ∈ keys) :
    ((members.filter fun m => keys.contains m.1).map (·.1)).count key =
      (members.map (·.1)).count key := by
  have kept : members.filter (fun m => keys.contains m.1) =
      members.filter ((fun k => keys.contains k) ∘ (·.1)) := rfl
  rw [kept, ← List.filter_map, List.count_filter (List.contains_iff_mem.2 known)]

/-- Whatever the form of a record, its fields are found. -/
theorem Written.found (written : Written fields v) (nodup : (fields.map (·.key)).Nodup) :
    ∃ given, fields? (fields.map (·.key)) v = some given ∧ ∀ f ∈ fields, f.FoundIn given := by
  cases written with
  | object all others perm =>
    have known := known_perm (fun m mem => all.sublist.subset (List.mem_map_of_mem mem)) others perm
    have unique := (known.map (·.1)).nodup_iff.2 (nodup.sublist all.sublist)
    refine ⟨_, if_pos unique, fun f mem => found_of_perm all nodup known mem⟩
  | array all =>
    have enough := all.length_le
    rw [← List.length_map Field.key] at enough
    refine ⟨_, if_pos enough, fun f mem => found_of_perm all.gives nodup (List.Perm.refl _) mem⟩

/-- What is unfit in a record is found, and if a key repeats, then nothing is. -/
theorem Flawed.found (flawed : Flawed keys unfit v) (nodup : keys.Nodup) {given : Fields}
    (taken : fields? keys v = some given) :
    ∃ key ∈ keys, ∃ w, given.lookup key = some w ∧ unfit key w := by
  cases flawed with
  | @repeated members key known twice =>
    -- every copy of a known key is taken, so the taken keys are not unique
    obtain ⟨unique, -⟩ := Option.ite_none_right_eq_some.1 taken
    have once := List.nodup_iff_count_le_one.1 unique key
    rw [count_known known] at once
    omega
  | @member members key w known there bad =>
    obtain ⟨unique, taken⟩ := Option.ite_none_right_eq_some.1 taken
    cases taken
    refine ⟨key, known, w, (Dispatch.Table.lookup_eq_some_iff unique).2 ?_, bad⟩
    exact List.mem_filter.2 ⟨there, List.contains_iff_mem.2 known⟩
  | @item items key w there bad =>
    obtain ⟨-, taken⟩ := Option.ite_none_right_eq_some.1 taken
    cases taken
    have unique := nodup.sublist (map_fst_zip_sublist keys items)
    exact ⟨key, (List.of_mem_zip there).1, w,
      (Dispatch.Table.lookup_eq_some_iff unique).2 there, bad⟩

/-! ## Reading fields -/

section

variable {α : Type} {given : Fields} {key : String} {a standard : α} {read : Value → Option α}

namespace Field.FoundIn

/-- A field without a default is read if its value is read in all its forms. -/
lemma required_eq_of_writes (found : f.FoundIn given) (needed : ¬ f.isDefault)
    (reads : ∀ v, f.writes v → read v = some a) : given.required f.key read = some a := by
  obtain ⟨v, there, writes⟩ | ⟨-, isDefault⟩ := found
  · rw [Fields.required, there]
    exact reads v writes
  · exact absurd isDefault needed

/-- A field without a default is read if its value is. -/
lemma required_eq (found : (required key v).FoundIn given) (reads : read v = some a) :
    given.required key read = some a := by
  refine found.required_eq_of_writes not_false ?_
  rintro w rfl
  exact reads

/-- A field with a default is read if its value is read in all its forms. -/
lemma orDefault_eq_of_writes (found : f.FoundIn given) (holds : f.isDefault → a = standard)
    (reads : ∀ v, f.writes v → read v = some a) :
    given.orDefault f.key standard read = some a := by
  obtain ⟨v, there, writes⟩ | ⟨missing, isDefault⟩ := found
  · simp only [Fields.orDefault, there]
    exact reads v writes
  · simp only [Fields.orDefault, missing, holds isDefault]

/-- A field with a default is read if its value is. -/
lemma orDefault_eq {isDefault : Prop} (found : (orDefault key v isDefault).FoundIn given)
    (holds : isDefault → a = standard) (reads : read v = some a) :
    given.orDefault key standard read = some a := by
  refine found.orDefault_eq_of_writes holds ?_
  rintro w rfl
  exact reads

/-- A value that may be missing is read if it is read wherever it is there. -/
lemma optional_eq {write : α → Value} {o : Option α} (found : (optional key write o).FoundIn given)
    (null : read .null = none) (reads : ∀ b, read (write b) = some b) :
    given.optional key read = some o := by
  obtain ⟨v, there, rfl⟩ | ⟨missing, rfl⟩ := found
  · have there : given.lookup key = some (.orNull write o) := there
    cases o with
    | none =>
      rw [Value.orNull] at there
      simp only [Fields.optional, there]
    | some b =>
      have other : write b ≠ .null := by
        intro same
        have none := reads b
        rw [same, null] at none
        cases none
      rw [Value.orNull] at there
      simp only [Fields.optional, there]
      rw [reads b, Option.map_some]
  · have missing : given.lookup key = none := missing
    simp only [Fields.optional, missing]

/-- A truth value is read. -/
lemma flag_eq {b : Bool} (found : (flag key b).FoundIn given) : given.flag key = some b :=
  found.orDefault_eq id rfl

end Field.FoundIn

/-! ## Fields that cannot be read -/

namespace Fields

/-- Where a field without a default is read, its value cannot be one that is not read. -/
lemma required_ne (taken : given.required key read = some a) (unread : read v = none) :
    given.lookup key ≠ some v := by
  intro there
  rw [required, there] at taken
  cases unread.symm.trans taken

/-- Where a field with a default is read, its value cannot be one that is not read. -/
lemma orDefault_ne (taken : given.orDefault key standard read = some a) (unread : read v = none) :
    given.lookup key ≠ some v := by
  intro there
  simp only [orDefault, there] at taken
  cases unread.symm.trans taken

/-- Where a truth value is read, it cannot be `null`. -/
lemma flag_ne {b : Bool} (taken : given.flag key = some b) : given.lookup key ≠ some .null :=
  orDefault_ne taken rfl

end Fields

end

/-! ## Robust readers -/

/-- A reader undoes its writer, whichever way the record is written, and takes nothing flawed. -/
structure Robust {α : Type} (write : α → Value) (read : Value → Option α)
    (Written : α → Value → Prop) (Flawed : Value → Prop) : Prop where
  undoes : ∀ a, read (write a) = some a
  writes : ∀ a, Written a (write a)
  reads : ∀ a v, Written a v → read v = some a
  refuses : ∀ v, Flawed v → read v = none

namespace Robust

variable {α : Type} {write : α → Value} {read : Value → Option α}

/-- A reader that takes all forms takes what its writer makes. -/
lemma of_forms {Written : α → Value → Prop} {Flawed : Value → Prop}
    (writes : ∀ a, Written a (write a)) (reads : ∀ a v, Written a v → read v = some a)
    (refuses : ∀ v, Flawed v → read v = none) : Robust write read Written Flawed where
  undoes a := reads a _ (writes a)
  writes := writes
  reads := reads
  refuses := refuses

/-- A reader of fields is robust if it makes of a record what it finds for its fields, and cannot
have found anything unfit. -/
theorem of_fields {fields : α → List Field} {ReadFrom : α → Fields → Prop} (nodup : keys.Nodup)
    (own : ∀ a, (fields a).map Field.key = keys)
    (members : ∀ a, write a = .object ((fields a).map Field.member))
    (inverted : ∀ a v, read v = some a ↔ ∃ given, fields? keys v = some given ∧ ReadFrom a given)
    (readFrom : ∀ a given, (∀ f ∈ fields a, f.FoundIn given) → ReadFrom a given)
    (fit : ∀ a given, ReadFrom a given →
      ∀ key ∈ keys, ∀ w, unfit key w → given.lookup key ≠ some w) :
    Robust write read (fun a => Written (fields a)) (Flawed keys unfit) := by
  refine of_forms ?writes ?reads ?refuses
  case writes =>
    intro a
    rw [members]
    exact .members (fields a)
  case reads =>
    intro a v written
    obtain ⟨given, taken, found⟩ := written.found (own a ▸ nodup)
    exact (inverted a v).2 ⟨given, own a ▸ taken, readFrom a given found⟩
  case refuses =>
    intro v flawed
    rw [Option.eq_none_iff_forall_ne_some]
    intro a read
    obtain ⟨given, taken, read⟩ := (inverted a v).1 read
    obtain ⟨key, known, w, there, bad⟩ := flawed.found nodup taken
    exact fit a given read key known w bad there

end Robust

end ProfileControls.Record
