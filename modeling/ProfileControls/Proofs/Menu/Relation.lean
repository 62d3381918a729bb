import Mathlib.Data.List.Forall2
import ProfileControls.Proofs.Menu.Table

/-!
# Menus with related items

A menu is laid out by a fold that looks at the groups of its sections, and at the items only to see
whether there are any. So whatever relates the items of two lists of sections one by one relates the
entries of the two menus, and the separators stand at the same places (`layout_rel`). For two
contexts that list the same actions it is enough to relate the items that they list these as
(`Context.entries_rel`).
-/

namespace ProfileControls

/-- The two entries are separators, or items that are related. -/
inductive MenuEntry.Rel (R : MenuItem → MenuItem → Prop) : MenuEntry → MenuEntry → Prop where
  | separator :
    Rel R .separator .separator
  | item {i i'} :
    R i i' →
    Rel R (.item i) (.item i')

namespace Menu

/-- The two sections are of one group, and their items are related one by one. -/
structure Section.Rel (R : MenuItem → MenuItem → Prop) (s s' : Section) : Prop where
  group : s'.group = s.group
  items : List.Forall₂ R s.items s'.items

/-- The two drafts have entries that are related one by one, and remember the same group. -/
structure Draft.Rel (R : MenuItem → MenuItem → Prop) (d d' : Draft) : Prop where
  entries : List.Forall₂ (MenuEntry.Rel R) d.entries d'.entries
  lastGroup : d'.lastGroup = d.lastGroup

/-- The actions that the sections choose among, with the groups of the sections. -/
def blocks : List (Group × List Action) :=
  [(.engagement, [.mention, .directMention]), (.origin, [.openHomePage]),
    (.followPreferences, [.hideReblogs, .showReblogs, .changeLanguages]),
    (.curation, [.endorse, .unendorse, .manageLists]), (.relationship, [.removeFromFollowers]),
    (.relationship, [.mute, .unmute]), (.relationship, [.block, .unblock]),
    (.relationship, [.report]), (.domain, [.blockDomain, .unblockDomain]),
    (.admin, [.moderateAccount, .moderateDomain])]

variable {R : MenuItem → MenuItem → Prop}

/-! ## Layout -/

/-- A separator is related to itself. -/
lemma separatorBefore_rel (last : Option Group) (g : Group) :
    List.Forall₂ (MenuEntry.Rel R) (separatorBefore last g) (separatorBefore last g) := by
  cases last with
  | none => exact .nil
  | some last =>
    rw [separatorBefore]
    split
    · exact .nil
    · exact .cons .separator .nil

/-- A section is added in the same way, whatever its items are. -/
lemma Draft.Rel.push {d d' : Draft} {s s' : Section} (related : d.Rel R d') (same : s.Rel R s') :
    (d.push s).Rel R (d'.push s') := by
  obtain ⟨g, is⟩ := s
  obtain ⟨g', is'⟩ := s'
  obtain ⟨group, items⟩ := same
  obtain rfl : g' = g := group
  have added : List.Forall₂ (MenuEntry.Rel R) (is.map .item) (is'.map .item) := by
    rw [List.forall₂_map_left_iff, List.forall₂_map_right_iff]
    exact items.imp fun _ _ => MenuEntry.Rel.item
  cases items with
  | nil => exact related
  | cons first rest =>
    refine ⟨?_, rfl⟩
    have before : separatorBefore d'.lastGroup g' = separatorBefore d.lastGroup g' := by
      rw [related.lastGroup]
    show List.Forall₂ _ (d.entries ++ _ ++ _) (d'.entries ++ _ ++ _)
    rw [before]
    exact List.rel_append (List.rel_append related.entries (separatorBefore_rel _ _)) added

/-- Sections with related items are laid out in the same way. -/
lemma layout_rel {sections sections' : List Section}
    (related : List.Forall₂ (Section.Rel R) sections sections') :
    List.Forall₂ (MenuEntry.Rel R) (layout sections) (layout sections') := by
  have drafts : Draft.Rel R (sections.foldl Draft.push {}) (sections'.foldl Draft.push {}) :=
    List.rel_foldl (fun _ _ related _ _ same => related.push same) ⟨.nil, rfl⟩ related
  exact drafts.entries

/-! ## Sections -/

namespace Context

/-- The sections list what the table makes of their actions. -/
lemma sections_eq (c : Context) : c.sections = blocks.map fun b => ⟨b.1, c.listed b.2⟩ := by
  rw [sections, engagement_eq, origin_eq, followPreferences_eq, curation_eq, follower_eq, mute_eq,
    block_eq, report_eq, domain_eq, moderation_eq]
  rfl

variable {c c' : Context}

/-- Where the same actions are listed, with items that are related, the lists are related. -/
lemma listed_rel (lists : ∀ a, c'.lists a = c.lists a) (item : ∀ a, R (c.item a) (c'.item a))
    (actions : List Action) : List.Forall₂ R (c.listed actions) (c'.listed actions) := by
  have same : c'.lists = c.lists := funext lists
  rw [listed, listed, same, List.forall₂_map_left_iff, List.forall₂_map_right_iff,
    List.forall₂_same]
  exact fun a _ => item a

/-- Two contexts that list the same actions have the same menu, as far as the items that they list
them as are the same. -/
lemma entries_rel (lists : ∀ a, c'.lists a = c.lists a) (item : ∀ a, R (c.item a) (c'.item a)) :
    List.Forall₂ (MenuEntry.Rel R) c.entries c'.entries := by
  rw [entries, entries, sections_eq, sections_eq]
  apply layout_rel
  rw [List.forall₂_map_left_iff, List.forall₂_map_right_iff, List.forall₂_same]
  exact fun b _ => ⟨rfl, listed_rel lists item b.2⟩

end Context

end Menu

end ProfileControls
