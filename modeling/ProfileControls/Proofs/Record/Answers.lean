import Mathlib.Data.List.Basic
import Mathlib.Tactic.Lemma
import ProfileControls.Record.Answer

/-!
# What is shown is told by its record

The records of what a profile or a row shows are only written, so there is no reader to invert.
Still no two decisions have the same record (`Decision.toJson_injective`), and no two rows
(`RowControls.toJson_injective`): whatever stands in them can be told from what is written.

Where a record has all its members, they tell its fields one by one. Where members may be missing
(`Record.member?`), what follows has other keys, so a member that is there is never mistaken for
another one (`Record.member?_append_inj`).
-/

namespace ProfileControls

open Json (Value)
open Function (Injective)

/-! ## Values that may be missing -/

/-- What is written in place of a missing value is told from what is there if that is not `null`. -/
lemma Json.Value.orNull_injective {α : Type} {write : α → Value} (inj : Injective write)
    (some_ne : ∀ a, write a ≠ .null) : Injective (orNull write) := by
  intro o o' same
  match o, o' with
  | none, none => rfl
  | none, some a => exact absurd same.symm (some_ne a)
  | some a, none => exact absurd same (some_ne a)
  | some a, some b => exact congrArg some (inj same)

namespace Record

variable {α : Type} {write : α → Value} {key : String} {o o' : Option α}
  {rest rest' : List (String × Value)}

/-- A member that may be missing is told from those behind it, which have other keys. -/
lemma member?_append_inj (inj : Injective write) (other : ∀ m ∈ rest, m.1 ≠ key)
    (other' : ∀ m ∈ rest', m.1 ≠ key)
    (same : member? key write o ++ rest = member? key write o' ++ rest') :
    o = o' ∧ rest = rest' := by
  match o, o' with
  | none, none => exact ⟨rfl, same⟩
  | none, some b =>
    have first : (key, write b) ∈ rest := by
      rw [show rest = _ from same]
      exact List.mem_cons_self
    exact absurd rfl (other _ first)
  | some a, none =>
    have first : (key, write a) ∈ rest' := by
      rw [show rest' = _ from same.symm]
      exact List.mem_cons_self
    exact absurd rfl (other' _ first)
  | some a, some b =>
    obtain ⟨first, behind⟩ := List.cons.inj same
    exact ⟨congrArg some (inj (congrArg Prod.snd first)), behind⟩

/-- A last member that may be missing tells whether it is there, and its content. -/
lemma member?_injective (inj : Injective write) : Injective (member? key write) := by
  intro o o' same
  have last : member? key write o ++ [] = member? key write o' ++ [] := by
    rw [same]
  exact (member?_append_inj inj (List.forall_mem_nil _) (List.forall_mem_nil _) last).1

/-- A member that may be missing has no key but its own. -/
lemma fst_ne_of_mem_member? {key' : String} (other : key ≠ key') :
    ∀ m ∈ member? key write o, m.1 ≠ key' := by
  cases o with
  | none => exact List.forall_mem_nil _
  | some a => exact List.forall_mem_singleton.2 other

end Record

/-! ## Names -/

/-- Different kinds of prompts have different names. -/
lemma PromptKind.name_injective : Injective name := by
  intro k k'
  cases k <;> cases k' <;> decide

/-- Different tags have different names. -/
lemma Tag.name_injective : Injective name := by
  intro t t'
  cases t <;> cases t' <;> decide

/-- Different buttons have different names. -/
lemma RowButton.name_injective : Injective name := by
  intro b b'
  cases b <;> cases b' <;> decide

/-- An action is told by its record. -/
lemma Action.toJson_injective : Injective toJson :=
  fun _ _ same => name_inj (Value.string.inj same)

/-! ## Parts of decisions and rows -/

/-- A tag is told by its record. -/
lemma Tag.toJson_injective : Injective toJson :=
  fun _ _ same => name_injective (Value.string.inj same)

/-- A button is told by its record. -/
lemma RowButton.toJson_injective : Injective toJson :=
  fun _ _ same => name_injective (Value.string.inj same)

/-- The parts of a visibility that lead to redaction are told by their record. -/
lemma RedactionReasons.toJson_injective : Injective toJson := by
  rintro ⟨⟩ ⟨⟩ same
  simpa [toJson] using same

/-- A visibility is told by its record. -/
lemma Visibility.toJson_injective : Injective toJson := by
  rintro ⟨⟩ ⟨⟩ same
  simpa [toJson, RedactionReasons.toJson_injective.eq_iff] using same

/-- A primary action is told by its record. -/
lemma PrimaryAction.toJson_injective : Injective toJson := by
  intro p p' same
  cases p <;> cases p' <;> simp_all [toJson]

/-- A primary action is never written as if it were missing. -/
lemma PrimaryAction.toJson_ne_null (p : PrimaryAction) : p.toJson ≠ .null := by
  cases p <;> exact nofun

/-- A switch is told by its record. -/
lemma Toggle.toJson_injective : Injective toJson := by
  rintro ⟨⟩ ⟨⟩ same
  simpa [toJson, Action.toJson_injective.eq_iff] using same

/-- The switches are told by their record, which has only those that are there. -/
lemma Toggles.toJson_injective : Injective toJson := by
  intro t t' same
  have other : "reblog_visibility" ≠ "notify" := by decide
  obtain ⟨notify, reblogs⟩ := Record.member?_append_inj Toggle.toJson_injective
    (Record.fst_ne_of_mem_member? other) (Record.fst_ne_of_mem_member? other)
    (Value.object.inj same)
  exact congrArg₂ mk notify (Record.member?_injective Toggle.toJson_injective reblogs)

/-- A prompt is told by its record. -/
lemma Prompt.toJson_injective : Injective toJson := by
  rintro ⟨⟩ ⟨⟩ same
  simpa [toJson, PromptKind.name_injective.eq_iff] using same

/-- An item is told by the members of its record. -/
lemma MenuItem.members_injective : Injective members := by
  rintro ⟨label, action, dangerous, href, prompt⟩ ⟨label', action', dangerous', href', prompt'⟩ same
  have other : "confirmation" ≠ "href" := by decide
  simp only [members, List.cons_append, List.nil_append, List.cons.injEq, Prod.mk.injEq, true_and,
    Value.string.injEq, Value.bool.injEq, Action.toJson_injective.eq_iff] at same
  obtain ⟨rfl, rfl, rfl, same⟩ := same
  obtain ⟨rfl, prompts⟩ := Record.member?_append_inj (fun _ _ => Value.string.inj)
    (Record.fst_ne_of_mem_member? other) (Record.fst_ne_of_mem_member? other) same
  rw [Record.member?_injective Prompt.toJson_injective prompts]

/-- An item is told by its record. -/
lemma MenuItem.toJson_injective : Injective toJson :=
  fun _ _ same => members_injective (Value.object.inj same)

/-- An entry of a menu is told by its record. -/
lemma MenuEntry.toJson_injective : Injective toJson := by
  intro e e' same
  match e, e' with
  | .separator, .separator => rfl
  | .separator, .item i | .item i, .separator => simp [toJson] at same
  | .item i, .item i' =>
    have members := (List.cons.inj (Value.object.inj same)).2
    exact congrArg item (MenuItem.members_injective members)

/-- A badge is told by its record. -/
lemma Badge.toJson_injective : Injective toJson := by
  intro b b' same
  cases b <;> cases b' <;> simp_all [toJson]

/-- A badge is never written as if it were missing. -/
lemma Badge.toJson_ne_null (b : Badge) : b.toJson ≠ .null := by
  cases b <;> exact nofun

/-- What search engines are told is told by its record. -/
lemma Robots.toJson_injective : Injective toJson := by
  intro r r' same
  cases r <;> cases r' <;> simp_all [toJson]

/-- A header is told by its record. -/
lemma Header.toJson_injective : Injective toJson := by
  have badge := Value.orNull_injective Badge.toJson_injective Badge.toJson_ne_null
  rintro ⟨⟩ ⟨⟩ same
  simpa [toJson, badge.eq_iff, Robots.toJson_injective.eq_iff] using same

/-! ## Decisions and rows -/

/-- A decision is told by its record. -/
theorem Decision.toJson_injective : Injective toJson := by
  have primaryAction :=
    Value.orNull_injective PrimaryAction.toJson_injective PrimaryAction.toJson_ne_null
  have menu := List.map_injective_iff.2 MenuEntry.toJson_injective
  have tags := List.map_injective_iff.2 Tag.toJson_injective
  rintro ⟨⟩ ⟨⟩ same
  simpa [toJson, primaryAction.eq_iff, Toggles.toJson_injective.eq_iff, menu.eq_iff,
    Visibility.toJson_injective.eq_iff, tags.eq_iff, Header.toJson_injective.eq_iff] using same

/-- The controls of a row are told by their record. -/
theorem RowControls.toJson_injective : Injective toJson := by
  have menu := List.map_injective_iff.2 MenuItem.toJson_injective
  rintro ⟨⟩ ⟨⟩ same
  simpa [toJson, RowButton.toJson_injective.eq_iff, menu.eq_iff] using same

end ProfileControls
