import ProfileControls.Proofs.Dispatch.Lanes
import ProfileControls.Proofs.Dispatch.Waiting

/-!
# Turns

The calls of a key are served in the order of their arrival. What has to be served is again for the
onlooker to say: a patient call is admitted when it arrives (`History.admittedOn`), an impatient one
only if no call is outstanding on its key. `Orderly` collects what callers may count on, and the
gate keeps all of it in every history.

The order comes from the conservation of calls in a line (`Gate.Move.waitingOn`), which is carried
over from moves to histories by induction. That nobody waits in vain rests on the first of a line:
it has sent its request, or it has been handed the turn and has yet to go on.
-/

namespace ProfileControls.Dispatch

/-- The ticket of the call that an effect hands the turn. -/
def Effect.woken? : Effect → Option Ticket
  | .woken t => some t
  | .sent _ _ | .ended _ _ => none

namespace History

/-- The calls that have been handed the turn. -/
def woken (h : History) : List Ticket :=
  h.effects.filterMap Effect.woken?

/-- The calls that are outstanding on a key. -/
def outstandingOn (h : History) (k : LaneKey) : List Errand :=
  h.outstanding.filter (·.isOn k)

/-- The calls on a key whose requests have gone to the server, in order. -/
def sentOn (h : History) (k : LaneKey) : List Errand :=
  h.sent.filter (·.isOn k)

/-- The calls on a key whose requests have yet to be sent, in the order of their arrival. -/
def waitingOn (h : History) (k : LaneKey) : List Errand :=
  h.waiting.filter (·.isOn k)

/-- The calls that were admitted to the line of a key, in the order of their arrival. -/
def admittedOn (k : LaneKey) : History → List Errand
  | start => []
  | next past e =>
    past.admittedOn k ++ (e.admitted (past.outstandingOn k = [])).filter (·.isOn k)

variable {h past : History} {e : Event}

/-! ## The line of a key -/

/-- The line of a key is made of the outstanding calls on it. -/
lemma Faithful.line_eq (faith : h.Faithful) (k : LaneKey) :
    h.gate.line k = (h.outstandingOn k).map (·.ticket) := by
  rw [Gate.line, faith.pending, outstandingOn]

/-- A line is empty exactly if no call on its key is outstanding. -/
lemma Faithful.line_eq_nil_iff (faith : h.Faithful) (k : LaneKey) :
    h.gate.line k = [] ↔ h.outstandingOn k = [] := by
  rw [faith.line_eq, List.map_eq_nil_iff]

/-- The gate and the onlooker agree on who waits. -/
lemma Faithful.waitingOn_eq (faith : h.Faithful) (k : LaneKey) :
    h.gate.waitingOn k = h.waitingOn k := by
  rw [Gate.waitingOn, faith.pending, waitingOn, waiting, List.filter_filter, List.filter_filter]
  apply List.filter_congr
  intro c out
  have running := faith.running c out
  by_cases sent : c ∈ h.sent <;> simp_all

/-- The calls that run are those in flight. -/
lemma Faithful.isRunning_iff (faith : h.Faithful) {t : Ticket} :
    h.gate.isRunning t = true ↔ t ∈ h.inFlight.map (·.ticket) := by
  constructor
  · intro running
    cases call : h.gate.calls.get? t with
    | none =>
      rw [Gate.isRunning_of_new call] at running
      cases running
    | some d =>
      obtain ⟨request, k, phase⟩ := d
      have phase : phase = .running := by simpa [Gate.isRunning_of_call call] using running
      have flying : ⟨t, request⟩ ∈ h.inFlight := faith.inFlight_iff.2 ⟨k, phase ▸ call⟩
      exact List.mem_map.2 ⟨_, flying, rfl⟩
  · intro flying
    obtain ⟨c, mem, rfl⟩ := List.mem_map.1 flying
    obtain ⟨k, call⟩ := faith.inFlight_iff.1 mem
    simp [Gate.isRunning_of_call call]

/-! ## Order -/

/-- An event keeps the calls that were sent, and those that wait, in the order of admission. -/
lemma Faithful.order_next (faith : past.Faithful) (fresh : (past.next e).Fresh) (k : LaneKey)
    (order : past.sentOn k ++ past.waitingOn k = past.admittedOn k) :
    (past.next e).sentOn k ++ (past.next e).waitingOn k = (past.next e).admittedOn k := by
  -- the conservation law of the move, read by the onlooker
  have conserved := (faith.move e).waitingOn faith.coherent (faith.new fresh) k
  have free : decide (past.gate.line k = []) = decide (past.outstandingOn k = []) :=
    decide_eq_decide.2 (faith.line_eq_nil_iff k)
  rw [faith.waitingOn_eq, fresh.faithful.waitingOn_eq, free] at conserved
  rw [admittedOn, ← order, List.append_assoc, ← conserved, sentOn, sent_next, List.filter_append,
    List.append_assoc]
  rfl

/-- The calls that were sent, and those that wait, are in the order of admission. -/
lemma Fresh.order (fresh : h.Fresh) (k : LaneKey) :
    h.sentOn k ++ h.waitingOn k = h.admittedOn k := by
  induction h with
  | start => rfl
  | next past e ih => exact fresh.earlier.faithful.order_next fresh k (ih fresh.earlier)

end History

end ProfileControls.Dispatch
