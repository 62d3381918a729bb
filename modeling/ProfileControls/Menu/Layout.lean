import ProfileControls.Menu.Item

/-!
# Laying out a menu

A menu is put together from sections, each of which belongs to a group. Sections without items
leave no trace. Between two neighbouring sections that are left there is one separator if they
belong to different groups, and none if they belong to the same one.
-/

namespace ProfileControls.Menu

/-- The groups of sections. -/
inductive Group where
  | engagement
  | origin
  | followPreferences
  | curation
  | relationship
  | domain
  | admin
deriving DecidableEq, Repr

/-- A section: the group it belongs to, and its items. -/
structure Section where
  group : Group
  items : List MenuItem
deriving DecidableEq, Repr

/-- A menu under construction: its entries, and the group of the last section that had items. -/
structure Draft where
  entries : List MenuEntry := []
  lastGroup : Option Group := none
deriving DecidableEq, Repr

/-- The separator, if any, before a section of group `g` that follows one of group `last`. -/
def separatorBefore (last : Option Group) (g : Group) : List MenuEntry :=
  match last with
  | none => []
  | some last => if last = g then [] else [.separator]

/-- The draft with one more section. -/
def Draft.push (d : Draft) (s : Section) : Draft :=
  if s.items.isEmpty then d
  else
    { entries := d.entries ++ separatorBefore d.lastGroup s.group ++ s.items.map .item
      lastGroup := some s.group }

/-- The entries of a menu with the given sections. -/
def layout (sections : List Section) : List MenuEntry :=
  (sections.foldl Draft.push {}).entries

/-- The items of a menu in order. -/
def items (entries : List MenuEntry) : List MenuItem :=
  entries.filterMap MenuEntry.item?

/-- The actions of a menu in order. -/
def actions (entries : List MenuEntry) : List Action :=
  (items entries).map (·.action)

/-- The positions of the separators of a menu. -/
def separators (entries : List MenuEntry) : List Nat :=
  (entries.zipIdx.filter (·.1.isSeparator)).map (·.2)

/-- The items of two menus one after the other are those of both. -/
theorem items_append (entries entries' : List MenuEntry) :
    items (entries ++ entries') = items entries ++ items entries' :=
  List.filterMap_append

/-- A separator is no item. -/
theorem items_separatorBefore (last : Option Group) (g : Group) :
    items (separatorBefore last g) = [] := by
  cases last with
  | none => rfl
  | some last =>
    rw [separatorBefore]
    split <;> rfl

/-- Entries that are made of items have these items. -/
theorem items_map_item (is : List MenuItem) : items (is.map .item) = is := by
  induction is with
  | nil => rfl
  | cons i is ih => exact congrArg (i :: ·) ih

/-- A section adds its own items to the menu, whatever separators it needs. -/
theorem Draft.items_push (d : Draft) (s : Section) :
    items (d.push s).entries = items d.entries ++ s.items := by
  rw [push]
  split
  case isTrue none => rw [List.isEmpty_iff.1 none, List.append_nil]
  case isFalse =>
    rw [items_append, items_append, items_separatorBefore, items_map_item, List.append_nil]

/-- A menu has the items of its sections, in their order. -/
theorem items_layout (sections : List Section) :
    items (layout sections) = sections.flatMap (·.items) := by
  suffices pushed : ∀ d : Draft, items (sections.foldl Draft.push d).entries =
      items d.entries ++ sections.flatMap (·.items) from pushed {}
  induction sections with
  | nil =>
    intro d
    exact (List.append_nil _).symm
  | cons s sections ih =>
    intro d
    rw [List.foldl_cons, ih, Draft.items_push, List.flatMap_cons, List.append_assoc]

end ProfileControls.Menu
