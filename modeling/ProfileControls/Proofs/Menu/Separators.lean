import Mathlib.Data.List.Chain
import ProfileControls.Menu.Sections

/-!
# Separators

A menu is the list of the items of its sections, with a separator wherever two neighbouring items
come from sections of different groups (`spaced`). Sections without items have no part in that, so
the separators are one for each change of the group among the sections that have items
(`WellSpaced`).

What ties the fold over the sections to the list of the items is that the group which a draft
remembers is that of its last item: the entries that the remaining sections will add depend on the
draft through this group alone (`entries_foldl_push`). All else is then read off the list of the
items, by induction on it.
-/

namespace ProfileControls.Menu

/-- An item of a menu, with the number and the group of the section that it comes from. -/
structure Placed where
  place : Nat
  group : Group
  item : MenuItem

/-- The items of sections that are numbered from `n` on. -/
def placedFrom (n : Nat) (sections : List Section) : List Placed :=
  (sections.zipIdx n).flatMap fun (s, place) => s.items.map (⟨place, s.group, ·⟩)

/-- The items of the sections in their order. -/
def placed (sections : List Section) : List Placed :=
  placedFrom 0 sections

/-- The items with separators between those of different groups, behind an item of the group `last`
if there is one. -/
def spaced : Option Group → List Placed → List MenuEntry
  | _, [] => []
  | last, x :: xs => separatorBefore last x.group ++ .item x.item :: spaced (some x.group) xs

/-- There is a separator with exactly `n` items before it. -/
def SeparatedAfter (entries : List MenuEntry) (n : Nat) : Prop :=
  ∃ before after, entries = before ++ .separator :: after ∧ (items before).length = n

/-- How often one group is followed by another. -/
def changes (groups : List Group) : Nat :=
  (groups.zip groups.tail).countP fun p => p.1 ≠ p.2

/-- The entries are the items of the sections, and separators where they should be. -/
structure WellSpaced (sections : List Section) (entries : List MenuEntry) : Prop where
  contents : items entries = sections.flatMap (·.items)
  sources : items entries = (placed sections).map (·.item)
  first : entries.head? ≠ some .separator
  last : entries.getLast? ≠ some .separator
  apart : entries.IsChain fun e e' => ¬ (e = .separator ∧ e' = .separator)
  between : ∀ n x y, (placed sections)[n]? = some x → (placed sections)[n + 1]? = some y →
    (SeparatedAfter entries (n + 1) ↔ x.place ≠ y.place ∧ x.group ≠ y.group)
  count : entries.countP (·.isSeparator) =
    changes ((sections.filter (!·.items.isEmpty)).map (·.group))

/-! ## The items of the sections -/

/-- The items of the first section come first. -/
lemma placedFrom_cons (n : Nat) (s : Section) (sections : List Section) :
    placedFrom n (s :: sections) =
      s.items.map (⟨n, s.group, ·⟩) ++ placedFrom (n + 1) sections := by
  rw [placedFrom, List.zipIdx_cons, List.flatMap_cons]
  rfl

/-- The placed items are the items of the sections. -/
lemma map_item_placedFrom (n : Nat) (sections : List Section) :
    (placedFrom n sections).map (·.item) = sections.flatMap (·.items) := by
  induction sections generalizing n with
  | nil => rfl
  | cons s sections ih =>
    rw [placedFrom_cons, List.map_append, ih, List.map_map, List.flatMap_cons]
    exact congrArg (· ++ _) (List.map_id s.items)

/-- A placed item has the group of its section. -/
lemma group_of_mem_placed {sections : List Section} {x : Placed} (mem : x ∈ placed sections) :
    (sections[x.place]?).map (·.group) = some x.group := by
  obtain ⟨⟨s, n⟩, numbered, mem⟩ := List.mem_flatMap.1 mem
  obtain ⟨i, -, rfl⟩ := List.mem_map.1 mem
  rw [List.mem_zipIdx_iff_getElem?.1 numbered]
  rfl

/-- Items of different groups come from different sections. -/
lemma place_ne_of_group_ne {sections : List Section} {x y : Placed} (hx : x ∈ placed sections)
    (hy : y ∈ placed sections) (other : x.group ≠ y.group) : x.place ≠ y.place := by
  intro same
  have group := group_of_mem_placed hx
  rw [same, group_of_mem_placed hy] at group
  exact other (Option.some.inj group).symm

/-! ## The fold -/

/-- Within one group there are no separators. -/
lemma spaced_same (n : Nat) (g : Group) (is : List MenuItem) (rest : List Placed) :
    spaced (some g) (is.map (⟨n, g, ·⟩) ++ rest) = is.map .item ++ spaced (some g) rest := by
  induction is with
  | nil => rfl
  | cons i is ih =>
    have near : separatorBefore (some g) g = [] := if_pos rfl
    show separatorBefore (some g) g ++ .item i :: spaced (some g) (is.map _ ++ rest) = _
    rw [near, ih]
    rfl

/-- A section has at most one separator, before its first item. -/
lemma spaced_section (n : Nat) (last : Option Group) (g : Group) {is : List MenuItem}
    (some_items : is ≠ []) (rest : List Placed) :
    spaced last (is.map (⟨n, g, ·⟩) ++ rest) =
      separatorBefore last g ++ is.map .item ++ spaced (some g) rest := by
  cases is with
  | nil => exact absurd rfl some_items
  | cons i is =>
    show separatorBefore last g ++ .item i :: spaced (some g) (is.map _ ++ rest) = _
    rw [spaced_same, List.append_assoc]
    rfl

/-- What the sections add to a draft depends on the group of its last item. -/
lemma entries_foldl_push (sections : List Section) (d : Draft) (n : Nat) :
    (sections.foldl Draft.push d).entries =
      d.entries ++ spaced d.lastGroup (placedFrom n sections) := by
  induction sections generalizing d n with
  | nil => exact (List.append_nil _).symm
  | cons s sections ih =>
    rw [List.foldl_cons, ih (d.push s) (n + 1), placedFrom_cons, Draft.push]
    split
    case isTrue none => rw [List.isEmpty_iff.1 none, List.map_nil, List.nil_append]
    case isFalse some =>
      rw [spaced_section n d.lastGroup s.group (mt List.isEmpty_iff.2 some)]
      simp only [List.append_assoc]

/-- A menu is its items, spaced. -/
lemma layout_eq_spaced (sections : List Section) :
    layout sections = spaced none (placed sections) :=
  (entries_foldl_push sections {} 0).trans (List.nil_append _)

/-! ## Where separators stand -/

/-- Between two groups there is one separator or none. -/
lemma separatorBefore_eq (last : Option Group) (g : Group) :
    separatorBefore last g = [] ∨ separatorBefore last g = [.separator] := by
  cases last with
  | none => exact .inl rfl
  | some last =>
    rw [separatorBefore]
    split
    · exact .inl rfl
    · exact .inr rfl

/-- A menu does not begin with a separator. -/
lemma head_spaced (xs : List Placed) : (spaced none xs).head? ≠ some .separator := by
  cases xs with
  | nil => exact nofun
  | cons x xs => exact nofun

/-- A menu does not end with a separator. -/
lemma getLast_spaced (last : Option Group) (xs : List Placed) :
    (spaced last xs).getLast? ≠ some .separator := by
  induction xs generalizing last with
  | nil => exact nofun
  | cons x xs ih =>
    have rest := ih (some x.group)
    rw [spaced, List.getLast?_append_of_ne_nil _ (List.cons_ne_nil _ _), List.getLast?_cons]
    cases end' : (spaced (some x.group) xs).getLast? with
    | none => exact nofun
    | some e => exact end' ▸ rest

/-- No two separators stand side by side. -/
lemma isChain_spaced (last : Option Group) (i : MenuItem) (xs : List Placed) :
    (.item i :: spaced last xs).IsChain fun e e' => ¬ (e = .separator ∧ e' = .separator) := by
  induction xs generalizing last i with
  | nil => exact .singleton _
  | cons x xs ih =>
    have rest := ih (some x.group) x.item
    rw [spaced]
    obtain near | far := separatorBefore_eq last x.group
    · rw [near]
      exact .cons_cons nofun rest
    · rw [far]
      exact .cons_cons nofun (.cons_cons nofun rest)

/-- An item counts once before the separators behind it. -/
lemma separatedAfter_item {i : MenuItem} {entries : List MenuEntry} {n : Nat} :
    SeparatedAfter (.item i :: entries) (n + 1) ↔ SeparatedAfter entries n := by
  constructor
  · rintro ⟨before, after, split, length⟩
    cases before with
    | nil => cases split
    | cons e before =>
      obtain ⟨rfl, rfl⟩ := List.cons.inj split
      exact ⟨before, after, rfl, Nat.succ.inj length⟩
  · rintro ⟨before, after, rfl, length⟩
    exact ⟨.item i :: before, after, rfl, congrArg Nat.succ length⟩

/-- A separator does not count before those behind it. -/
lemma separatedAfter_separator {entries : List MenuEntry} {n : Nat} :
    SeparatedAfter (.separator :: entries) (n + 1) ↔ SeparatedAfter entries (n + 1) := by
  constructor
  · rintro ⟨before, after, split, length⟩
    cases before with
    | nil => cases length
    | cons e before =>
      obtain ⟨rfl, rfl⟩ := List.cons.inj split
      exact ⟨before, after, rfl, length⟩
  · rintro ⟨before, after, rfl, length⟩
    exact ⟨.separator :: before, after, rfl, length⟩

/-- Behind its first item a menu is spaced by the items behind that one. -/
lemma separatedAfter_spaced_succ (last : Option Group) (x : Placed) (xs : List Placed) (n : Nat) :
    SeparatedAfter (spaced last (x :: xs)) (n + 1) ↔
      SeparatedAfter (spaced (some x.group) xs) n := by
  rw [spaced]
  obtain near | far := separatorBefore_eq last x.group
  · rw [near]
    exact separatedAfter_item
  · rw [far]
    exact separatedAfter_separator.trans separatedAfter_item

/-- A menu that goes on behind a group begins with a separator exactly if its first item is of
another. -/
lemma separatedAfter_spaced_zero (g : Group) (x : Placed) (xs : List Placed) :
    SeparatedAfter (spaced (some g) (x :: xs)) 0 ↔ g ≠ x.group := by
  rw [spaced, separatorBefore]
  split
  case isTrue near =>
    refine iff_of_false ?_ (not_not_intro near)
    rintro ⟨before, after, split, length⟩
    cases before with
    | nil => cases split
    | cons e before =>
      obtain ⟨rfl, -⟩ := List.cons.inj split
      cases length
  case isFalse far => exact iff_of_true ⟨[], _, rfl, rfl⟩ far

/-- Two neighbouring items are separated if their groups differ. -/
lemma separatedAfter_spaced {xs : List Placed} {n : Nat} {x y : Placed} (hx : xs[n]? = some x)
    (hy : xs[n + 1]? = some y) (last : Option Group) :
    SeparatedAfter (spaced last xs) (n + 1) ↔ x.group ≠ y.group := by
  induction xs generalizing last n with
  | nil => cases hx
  | cons z xs ih =>
    rw [separatedAfter_spaced_succ]
    cases n with
    | succ n => exact ih hx hy (some z.group)
    | zero =>
      cases hx
      cases xs with
      | nil => cases hy
      | cons w xs =>
        cases hy
        exact separatedAfter_spaced_zero x.group y xs

/-! ## How many there are -/

/-- A first group counts if the second one is different. -/
lemma changes_cons_cons (g g' : Group) (gs : List Group) :
    changes (g :: g' :: gs) = (if g = g' then 0 else 1) + changes (g' :: gs) := by
  show List.countP _ ((g, g') :: (g' :: gs).zip gs) = _
  rw [List.countP_cons, Nat.add_comm]
  cases decEq g g' with
  | isTrue same => simp [same, changes]
  | isFalse differ => simp [differ, changes]

/-- Items are no separators. -/
lemma countP_map_item (is : List MenuItem) :
    (is.map MenuEntry.item).countP (·.isSeparator) = 0 := by
  rw [List.countP_map]
  exact List.countP_eq_zero.2 fun i _ => nofun

/-- There is a separator exactly where the group changes. -/
lemma countP_separatorBefore (last : Option Group) (g : Group) (gs : List Group) :
    (separatorBefore last g).countP (·.isSeparator) + changes (g :: gs) =
      changes (last.toList ++ g :: gs) := by
  cases last with
  | none => exact Nat.zero_add _
  | some last =>
    show _ = changes (last :: g :: gs)
    rw [changes_cons_cons, separatorBefore]
    split
    · rfl
    · rfl

/-- There are as many separators as changes of groups. -/
lemma countP_spaced (last : Option Group) (n : Nat) (sections : List Section) :
    (spaced last (placedFrom n sections)).countP (·.isSeparator) =
      changes (last.toList ++ (sections.filter (!·.items.isEmpty)).map (·.group)) := by
  induction sections generalizing last n with
  | nil => cases last <;> rfl
  | cons s sections ih =>
    rw [placedFrom_cons]
    cases empty : s.items.isEmpty with
    | true =>
      rw [List.filter_cons_of_neg (by rw [empty]; exact nofun), List.isEmpty_iff.1 empty,
        List.map_nil, List.nil_append]
      exact ih last (n + 1)
    | false =>
      have some_items : s.items ≠ [] := by
        rintro none
        rw [none] at empty
        cases empty
      rw [List.filter_cons_of_pos (by rw [empty]; rfl), List.map_cons,
        spaced_section n last s.group some_items, List.countP_append, List.countP_append,
        countP_map_item, Nat.add_zero, ih (some s.group) (n + 1)]
      exact countP_separatorBefore last s.group _

/-! ## Menus -/

/-- Every layout is well spaced. -/
lemma wellSpaced_layout (sections : List Section) : WellSpaced sections (layout sections) := by
  have entries := layout_eq_spaced sections
  constructor
  case contents => exact items_layout sections
  case sources => exact (items_layout sections).trans (map_item_placedFrom 0 sections).symm
  case first =>
    rw [entries]
    exact head_spaced _
  case last =>
    rw [entries]
    exact getLast_spaced none _
  case apart =>
    rw [entries]
    cases placed sections with
    | nil => exact .nil
    | cons x xs => exact isChain_spaced (some x.group) x.item xs
  case between =>
    intro n x y hx hy
    rw [entries, separatedAfter_spaced hx hy none]
    constructor
    · intro other
      have place := place_ne_of_group_ne (List.mem_of_getElem? hx) (List.mem_of_getElem? hy) other
      exact ⟨place, other⟩
    · exact And.right
  case count =>
    rw [entries]
    exact countP_spaced none 0 sections

/-- However sections are put together, the separators of the menu are where they should be. The menu
of a profile is put together so. -/
theorem menus_wellSpaced :
    (∀ sections, WellSpaced sections (layout sections)) ∧
      ∀ c : Context, WellSpaced c.sections c.entries :=
  ⟨wellSpaced_layout, fun c => wellSpaced_layout c.sections⟩

/-- A section without items does not keep its neighbours apart. -/
example (i j k : MenuItem) :
    layout [⟨.engagement, [i]⟩, ⟨.origin, []⟩, ⟨.engagement, [j]⟩, ⟨.origin, [k]⟩] =
      [.item i, .item j, .separator, .item k] :=
  rfl

end ProfileControls.Menu
