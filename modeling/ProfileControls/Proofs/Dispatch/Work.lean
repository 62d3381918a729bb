import ProfileControls.Proofs.Dispatch.Coherence

/-!
# Work ahead

A call that waits is yet to be woken, to send its request and to end, so it can be heard of three
times. `Gate.work` counts how many effects the pending calls can still have in all. Whatever a move
brings about is taken from that, as long as no new call arrives (`Gate.Move.work`).
-/

namespace ProfileControls.Dispatch

/-- How often a call can still be heard of: it is woken, it sends its request, and it ends. -/
def Phase.ahead : Phase → Nat
  | .waiting => 3
  | .granted => 2
  | .running => 1

namespace Gate

/-- How many effects the pending calls can still have. -/
def work (g : Gate) : Nat :=
  g.calls.rows.foldr (fun row rest => row.2.phase.ahead + rest) 0

variable {g : Gate}

/-- The order of the calls does not matter. -/
lemma work_of_perm {t c} {rows : List (Ticket × Call)} (perm : g.calls.rows.Perm ((t, c) :: rows)) :
    g.work = c.phase.ahead + rows.foldr (fun row rest => row.2.phase.ahead + rest) 0 := by
  rw [work, perm.foldr_eq' _ 0, List.foldr_cons]
  exact fun row _ row' _ rest => Nat.add_left_comm _ _ _

/-- A call adds to the work what is ahead of it. -/
lemma work_withCall (g : Gate) (t : Ticket) (c : Call) :
    (g.withCall t c).work = c.phase.ahead + (g.withoutCall t).work :=
  work_of_perm (Table.rows_put_perm g.calls t c)

/-- Without a call its part of the work is gone. -/
lemma work_withoutCall {t c} (call : g.calls.get? t = some c) :
    g.work = c.phase.ahead + (g.withoutCall t).work :=
  work_of_perm (Table.rows_perm_erase call)

/-- The work depends only on the calls. -/
lemma work_of_calls {g' : Gate} (same : g'.calls = g.calls) : g'.work = g.work := by
  rw [work, same, work]

/-- No call has more than three steps ahead of it. -/
lemma work_le (g : Gate) : g.work ≤ 3 * g.calls.size := by
  rw [work, Table.size]
  induction g.calls.rows with
  | nil => exact Nat.le_refl 0
  | cons row rows ih =>
    have one : row.2.phase.ahead ≤ 3 := by cases row.2.phase <;> decide
    rw [List.foldr_cons, List.length_cons]
    omega

/-- The effects of a move are taken from the work ahead, unless a new call arrives. -/
theorem Move.work {e g' fs} (m : g.Move e g' fs) (co : g.Coherent) (old : e.errand? = none) :
    fs.length + g'.work ≤ g.work := by
  cases m with
  | unrelated arrives => simp [old] at arrives
  | start arrives => simp [old] at arrives
  | lineUp => cases old
  | refuse => cases old
  | @resume t request k call =>
    have before := work_withoutCall call
    have after := g.work_withCall t ⟨request, k, .running⟩
    have same := work_of_calls ((g.withCall t ⟨request, k, .running⟩).calls_expect request)
    simp only [Phase.ahead, List.length_singleton] at *
    omega
  | @finish t request k r call =>
    have before := work_withoutCall call
    have same : (((g.settle request.target.pair r).withoutCall t).withoutLane k).work =
        (g.withoutCall t).work :=
      work_of_calls (by simp [withoutCall])
    simp only [Phase.ahead, List.length_singleton] at *
    omega
  | @handOver t request k r next c queue call line there =>
    have waits := co.queue_waits line List.mem_cons_self there
    have there' : (g.withoutCall t).calls.get? next = some c := by
      simp [second_ne_first line, there]
    have before := work_withoutCall call
    have before' := work_withoutCall there'
    have after := (((g.settle request.target.pair r).withoutCall t).withLane k
      ⟨some next, queue, queue.length + 1⟩).work_withCall next { c with phase := .granted }
    have same : ((((g.settle request.target.pair r).withoutCall t).withLane k
        ⟨some next, queue, queue.length + 1⟩).withoutCall next).work =
        ((g.withoutCall t).withoutCall next).work :=
      work_of_calls (by simp [withoutCall])
    simp only [Phase.ahead, waits, List.length_cons, List.length_nil] at *
    omega
  | sleep => simp
  | stray => simp
  | reconcile =>
    rw [List.length_nil, Nat.zero_add]
    exact Nat.le_of_eq (work_of_calls rfl)

end Gate

end ProfileControls.Dispatch
