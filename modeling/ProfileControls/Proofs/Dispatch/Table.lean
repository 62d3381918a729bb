import Mathlib.Data.List.Nodup
import ProfileControls.Dispatch.Table

/-!
# Rows of tables

`get?` is the view of a table, and it says nothing of the order of the rows. The laws here are about
the rows: a new key goes to the end (`rows_put_new`), a known key keeps its place
(`map_rows_put_known`), and two changes under one key come down to the last one (`put_put`,
`erase_put`, `put_self`). Equality of tables is equality of rows, since the proof that keys are
unique has no content of its own.

The lemmas on `putRow` are by induction along its recursion; those on tables apply them.
-/

namespace ProfileControls.Dispatch.Table

variable {κ α : Type} [DecidableEq κ]

/-- Tables with the same rows are the same. -/
lemma ext_rows {t u : Table κ α} (h : t.rows = u.rows) : t = u := by
  cases t
  cases u
  cases h
  rfl

/-- The view finds the rows of a list without repeated keys. -/
lemma lookup_eq_some_iff {k : κ} {a : α} {rows : List (κ × α)} (nd : (rows.map (·.1)).Nodup) :
    rows.lookup k = some a ↔ (k, a) ∈ rows := by
  induction rows with
  | nil => simp
  | cons row rows ih =>
    obtain ⟨j, b⟩ := row
    rw [List.map_cons, List.nodup_cons] at nd
    rw [lookup_cons_eq_ite, List.mem_cons, Prod.mk.injEq]
    by_cases e : k = j
    · subst e
      have absent : (k, a) ∉ rows := fun m => nd.1 (List.mem_map.2 ⟨_, m, rfl⟩)
      simp [absent, eq_comm]
    · simp [e, ih nd.2]

/-- What the view shows is what the rows hold. -/
lemma get?_eq_some_iff {t : Table κ α} {k : κ} {a : α} : t.get? k = some a ↔ (k, a) ∈ t.rows :=
  lookup_eq_some_iff t.nodup

/-- The view shows nothing exactly under keys without a row. -/
lemma get?_eq_none_iff {t : Table κ α} {k : κ} : t.get? k = none ↔ k ∉ t.rows.map (·.1) := by
  constructor
  · intro h m
    obtain ⟨⟨j, a⟩, mem, rfl⟩ := List.mem_map.1 m
    rw [get?_eq_some_iff.2 mem] at h
    cases h
  · intro h
    cases e : t.get? k with
    | none => rfl
    | some a => exact absurd (List.mem_map_of_mem (get?_eq_some_iff.1 e)) h

/-- Under a new key a row is put last. -/
lemma putRow_new {k : κ} {a : α} {rows : List (κ × α)} (h : k ∉ rows.map (·.1)) :
    putRow k a rows = rows ++ [(k, a)] := by
  fun_induction putRow k a rows with
  | case1 => rfl
  | case2 => exact absurd List.mem_cons_self h
  | case3 j b rows ne ih =>
    rw [List.map_cons, List.mem_cons, not_or] at h
    rw [ih h.2, List.cons_append]

/-- Putting a row makes no difference to what does not tell it from the row that it replaces. -/
lemma map_putRow_known {β : Type} {f : κ × α → β} {k : κ} {a b : α} {rows : List (κ × α)}
    (h : rows.lookup k = some b) (same : f (k, a) = f (k, b)) :
    (putRow k a rows).map f = rows.map f := by
  fun_induction putRow k a rows with
  | case1 => cases h
  | case2 c rows =>
    rw [lookup_cons_eq_ite, if_pos rfl] at h
    cases h
    rw [List.map_cons, List.map_cons, same]
  | case3 j c rows ne ih =>
    rw [lookup_cons_eq_ite, if_neg (Ne.symm ne)] at h
    rw [List.map_cons, List.map_cons, ih h]

/-- Of two rows that are put under one key, the second one stays. -/
lemma putRow_putRow (k : κ) (a b : α) (rows : List (κ × α)) :
    putRow k b (putRow k a rows) = putRow k b rows := by
  fun_induction putRow k a rows with
  | case1 => simp [putRow]
  | case2 => simp [putRow]
  | case3 j c rows ne ih => simp [putRow, ne, ih]

/-- Putting what is there already changes nothing. -/
lemma putRow_self {k : κ} {a : α} {rows : List (κ × α)} (h : rows.lookup k = some a) :
    putRow k a rows = rows := by
  fun_induction putRow k a rows with
  | case1 => cases h
  | case2 c rows =>
    rw [lookup_cons_eq_ite, if_pos rfl] at h
    cases h
    rfl
  | case3 j c rows ne ih =>
    rw [lookup_cons_eq_ite, if_neg (Ne.symm ne)] at h
    rw [ih h]

/-- The rows under other keys stay as they are. -/
lemma filter_putRow (k : κ) (a : α) (rows : List (κ × α)) :
    (putRow k a rows).filter (fun row => row.1 ≠ k) = rows.filter fun row => row.1 ≠ k := by
  fun_induction putRow k a rows with
  | case1 => simp
  | case2 => simp
  | case3 j c rows ne ih => rw [List.filter_cons, List.filter_cons, ih]

/-- A new key goes to the end. -/
lemma rows_put_new {t : Table κ α} {k : κ} (h : t.get? k = none) (a : α) :
    (t.put k a).rows = t.rows ++ [(k, a)] :=
  putRow_new (get?_eq_none_iff.1 h)

/-- A known key keeps its place, so a reading that does not tell the contents apart stays. -/
lemma map_rows_put_known {β : Type} {f : κ × α → β} {t : Table κ α} {k : κ} {a b : α}
    (h : t.get? k = some b) (same : f (k, a) = f (k, b)) :
    (t.put k a).rows.map f = t.rows.map f :=
  map_putRow_known h same

/-- Of two contents put under a key, the second counts. -/
lemma put_put (t : Table κ α) (k : κ) (a b : α) : (t.put k a).put k b = t.put k b :=
  ext_rows (putRow_putRow k a b t.rows)

/-- Putting what is there changes nothing. -/
lemma put_self {t : Table κ α} {k : κ} {a : α} (h : t.get? k = some a) : t.put k a = t :=
  ext_rows (putRow_self h)

/-- A key that is erased was put in vain. -/
lemma erase_put (t : Table κ α) (k : κ) (a : α) : (t.put k a).erase k = t.erase k :=
  ext_rows (filter_putRow k a t.rows)

/-- The rows are the row of a known key and those of the other keys. -/
lemma rows_perm_erase {t : Table κ α} {k : κ} {a : α} (h : t.get? k = some a) :
    t.rows.Perm ((k, a) :: (t.erase k).rows) := by
  have nodup : ∀ u : Table κ α, u.rows.Nodup := fun u => u.nodup.of_map _
  have new : (k, a) ∉ (t.erase k).rows := by simp [erase]
  rw [List.perm_ext_iff_of_nodup (nodup t) (List.nodup_cons.2 ⟨new, nodup _⟩)]
  rintro ⟨j, b⟩
  rw [List.mem_cons, ← get?_eq_some_iff, ← get?_eq_some_iff, get?_erase, Prod.mk.injEq]
  by_cases e : j = k
  · subst e
    simp [h, eq_comm]
  · simp [e]

/-- But for their order, the rows after putting one are that row and those under other keys. -/
lemma rows_put_perm (t : Table κ α) (k : κ) (a : α) :
    (t.put k a).rows.Perm ((k, a) :: (t.erase k).rows) := by
  have there : (t.put k a).get? k = some a := by rw [get?_put, if_pos rfl]
  have perm := rows_perm_erase there
  rwa [erase_put] at perm

end ProfileControls.Dispatch.Table
