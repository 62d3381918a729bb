/-!
# Tables

A finite map, kept as the rows in which its keys were first given. No key has two rows. The view
of a table is `get?`, and each operation comes with its equation on it.
-/

namespace ProfileControls.Dispatch

/-- A finite map from keys to contents. -/
structure Table (κ α : Type) [DecidableEq κ] where
  rows : List (κ × α) := []
  nodup : (rows.map (·.1)).Nodup := by simp

namespace Table

variable {κ α : Type} [DecidableEq κ]

/-- The content under a key. -/
def get? (t : Table κ α) (k : κ) : Option α :=
  t.rows.lookup k

/-- The number of keys. -/
def size (t : Table κ α) : Nat :=
  t.rows.length

/-- The rows with the content under a key replaced or, for a new key, added at the end. -/
def putRow (k : κ) (a : α) : List (κ × α) → List (κ × α)
  | [] => [(k, a)]
  | (j, b) :: rows => if j = k then (j, a) :: rows else (j, b) :: putRow k a rows

/-- The keys of a table are those it had and the one that is put. -/
theorem mem_keys_putRow {k j : κ} {a : α} {rows : List (κ × α)} :
    j ∈ (putRow k a rows).map (·.1) ↔ j = k ∨ j ∈ rows.map (·.1) := by
  fun_induction putRow k a rows with
  | case1 => simp
  | case2 => simp
  | case3 i b rows h ih => grind

/-- No key comes twice by putting a row. -/
theorem nodup_putRow {k : κ} {a : α} {rows : List (κ × α)} (h : (rows.map (·.1)).Nodup) :
    ((putRow k a rows).map (·.1)).Nodup := by
  fun_induction putRow k a rows with
  | case1 => simp
  | case2 => exact h
  | case3 i b rows hne ih =>
    rw [List.map_cons, List.nodup_cons] at h ⊢
    exact ⟨fun hm => (mem_keys_putRow.1 hm).elim hne h.1, ih h.2⟩

/-- The table with `a` under `k`. -/
def put (t : Table κ α) (k : κ) (a : α) : Table κ α :=
  ⟨putRow k a t.rows, nodup_putRow t.nodup⟩

/-- The table without anything under `k`. -/
def erase (t : Table κ α) (k : κ) : Table κ α :=
  ⟨t.rows.filter fun row => row.1 ≠ k, (t.nodup.sublist (List.filter_sublist.map _))⟩

/-- A lookup looks at the first row and then at the others. -/
theorem lookup_cons_eq_ite (i j : κ) (b : α) (rows : List (κ × α)) :
    ((i, b) :: rows).lookup j = if j = i then some b else rows.lookup j := by
  by_cases h : j = i
  · simp [h]
  · simp [List.lookup_cons, beq_false_of_ne h, h]

/-- After a row is put, it is found under its key, and all others as before. -/
theorem lookup_putRow (k j : κ) (a : α) (rows : List (κ × α)) :
    (putRow k a rows).lookup j = if j = k then some a else rows.lookup j := by
  fun_induction putRow k a rows with
  | case1 => exact lookup_cons_eq_ite k j a []
  | case2 => grind [lookup_cons_eq_ite]
  | case3 i b rows h ih => grind [lookup_cons_eq_ite]

/-- What is put under a key is found there, and all other keys are found as before. -/
theorem get?_put (t : Table κ α) (k j : κ) (a : α) :
    (t.put k a).get? j = if j = k then some a else t.get? j :=
  lookup_putRow k j a t.rows

/-- Without the rows of a key, nothing is found under it, and all others as before. -/
theorem lookup_filter (k j : κ) (rows : List (κ × α)) :
    (rows.filter fun row => row.1 ≠ k).lookup j = if j = k then none else rows.lookup j := by
  induction rows with
  | nil => simp
  | cons row rows ih => grind [lookup_cons_eq_ite]

/-- Nothing is found under a key that is erased, and all other keys are found as before. -/
theorem get?_erase (t : Table κ α) (k j : κ) :
    (t.erase k).get? j = if j = k then none else t.get? j :=
  lookup_filter k j t.rows

end Table

end ProfileControls.Dispatch
