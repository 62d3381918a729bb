import Mathlib.Data.List.Nodup
import ProfileControls.Proofs.Dispatch.Coherence

/-!
# Histories

A history is a run of a gate that knows nothing at first, one event after the other, in any order
that the outside chooses. What an onlooker makes of it is read off the events and the effects alone,
never off the tables of the gate: which calls have arrived (`History.arrived`), which have been sent
to the server (`sent`) and which have ended (`ended`), hence which are outstanding, with the server
(`inFlight`) or still waiting. To look at a gate is no event, since it changes nothing.

The gate of a history without repeated tickets is faithful to the onlooker (`Fresh.faithful`): it is
coherent, its pending calls are the outstanding ones in the order of their arrival, and the running
ones among them are in flight. The proof is by induction on the history, and each step goes by the
laws of moves.
-/

namespace ProfileControls.Dispatch

/-- The events that have happened to a gate. -/
inductive History where
  | start
  | next (past : History) (e : Event)

namespace History

/-- The events in their order. -/
def events : History → List Event
  | start => []
  | next past e => past.events ++ [e]

/-- The gate as the history has left it. -/
def gate (h : History) : Gate :=
  (Gate.run {} h.events).1

/-- All that the history has brought about, in order. -/
def effects (h : History) : List Effect :=
  (Gate.run {} h.events).2

/-- What an event would bring about if it happened next. -/
def now (h : History) (e : Event) : List Effect :=
  (h.gate.step e).2

/-- No two calls go by the same ticket. -/
def Fresh (h : History) : Prop :=
  (h.events.filterMap Event.newTicket?).Nodup

instance (h : History) : Decidable h.Fresh :=
  inferInstanceAs (Decidable (List.Nodup _))

/-- The calls that have arrived, in order. -/
def arrived (h : History) : List Errand :=
  h.events.filterMap Event.errand?

/-- The calls whose requests have gone to the server, in order. -/
def sent (h : History) : List Errand :=
  h.effects.filterMap Effect.sent?

/-- The calls that have ended, in order, with their outcomes. -/
def ended (h : History) : List (Ticket × Outcome) :=
  h.effects.filterMap Effect.ending?

/-- The calls that have arrived and not ended. -/
def outstanding (h : History) : List Errand :=
  h.arrived.filter fun c => c.ticket ∉ h.ended.map (·.1)

/-- The calls whose requests are with the server: they have been sent and have not ended. -/
def inFlight (h : History) : List Errand :=
  h.sent.filter fun c => c.ticket ∉ h.ended.map (·.1)

/-- The calls that are outstanding and have not been sent. -/
def waiting (h : History) : List Errand :=
  h.outstanding.filter fun c => c ∉ h.sent

/-! ## One more event -/

variable {h past : History} {e : Event}

/-- A run over two series of events is the run over the second after the run over the first. -/
lemma run_append (g : Gate) (es es' : List Event) :
    g.run (es ++ es') =
      (((g.run es).1.run es').1, (g.run es).2 ++ ((g.run es).1.run es').2) := by
  induction es generalizing g with
  | nil => rfl
  | cons e es ih => simp [Gate.run, ih]

/-- One more event leaves the gate as its step does. -/
@[simp] lemma gate_next : (past.next e).gate = (past.gate.step e).1 := by
  simp [gate, events, run_append, Gate.run]

/-- One more event adds what it brings about. -/
@[simp] lemma effects_next : (past.next e).effects = past.effects ++ past.now e := by
  simp [effects, now, gate, events, run_append, Gate.run]

/-- What goes to the server in the step that an event makes. -/
def sentNow (past : History) (e : Event) : List Errand :=
  (past.now e).filterMap Effect.sent?

/-- What ends in the step that an event makes. -/
def endedNow (past : History) (e : Event) : List (Ticket × Outcome) :=
  (past.now e).filterMap Effect.ending?

/-- One more event adds what it sends. -/
@[simp] lemma sent_next : (past.next e).sent = past.sent ++ past.sentNow e := by
  rw [sent, effects_next, List.filterMap_append, sent, sentNow]

/-- One more event adds what it ends. -/
@[simp] lemma ended_next : (past.next e).ended = past.ended ++ past.endedNow e := by
  rw [ended, effects_next, List.filterMap_append, ended, endedNow]

/-- One more event adds the call that it starts, if it starts one. -/
@[simp] lemma arrived_next : (past.next e).arrived = past.arrived ++ e.errand?.toList := by
  rw [arrived, events, List.filterMap_append, arrived]
  cases call : e.errand? <;> simp [call]

/-- The tickets of the calls that have arrived are those that events brought. -/
lemma tickets_arrived (h : History) :
    h.arrived.map (·.ticket) = h.events.filterMap Event.newTicket? := by
  rw [arrived, List.map_filterMap]
  congr 1
  funext e
  cases e <;> rfl

/-- Before an event the tickets were fresh too. -/
lemma Fresh.earlier (fresh : (past.next e).Fresh) : past.Fresh := by
  rw [Fresh, events, List.filterMap_append] at fresh
  exact fresh.sublist (List.sublist_append_left _ _)

/-- A call that arrives has a ticket of its own. -/
lemma Fresh.new (fresh : (past.next e).Fresh) {c} (call : e.errand? = some c) :
    c.ticket ∉ past.arrived.map (·.ticket) := by
  have nd := fresh
  rw [Fresh, ← tickets_arrived, arrived_next, List.map_append, List.nodup_append] at nd
  intro mem
  exact nd.2.2 _ mem _ (by simp [call]) rfl

/-! ## Faith -/

/-- The gate agrees with what an onlooker makes of the history. -/
structure Faithful (h : History) : Prop where
  coherent : h.gate.Coherent
  /-- the pending calls are those that have arrived and not ended -/
  pending : h.gate.pending = h.outstanding
  /-- of these, the calls that have been sent are the running ones -/
  running : ∀ c ∈ h.outstanding, (c ∈ h.sent ↔ h.gate.isRunning c.ticket = true)
  /-- only calls that have arrived are sent -/
  sent : ∀ c ∈ h.sent, c ∈ h.arrived
  /-- no call is sent twice -/
  once : (h.sent.map (·.ticket)).Nodup
  /-- only calls that have arrived end -/
  ended : ∀ x ∈ h.ended, x.1 ∈ h.arrived.map (·.ticket)
  /-- no call ends twice -/
  final : (h.ended.map (·.1)).Nodup

namespace Faithful

/-- The ticket of a call that arrives is not known to the gate. -/
lemma new (faith : past.Faithful) (fresh : (past.next e).Fresh) : past.gate.New e := by
  intro c call
  cases known : past.gate.calls.get? c.ticket with
  | none => rfl
  | some d =>
    have mem : ⟨c.ticket, d.request⟩ ∈ past.gate.pending := Gate.mem_pending.2 ⟨d, known, rfl⟩
    rw [faith.pending] at mem
    have arrived : c.ticket ∈ past.arrived.map (·.ticket) :=
      List.mem_map.2 ⟨_, List.mem_of_mem_filter mem, rfl⟩
    exact absurd arrived (fresh.new call)

/-- In a history every step is a move. -/
lemma move (faith : past.Faithful) (e : Event) :
    past.gate.Move e (past.next e).gate (past.now e) := by
  rw [gate_next]
  exact faith.coherent.step_move e

/-- A call that is pending or arrives has not ended. -/
lemma not_ended (faith : past.Faithful) (fresh : (past.next e).Fresh) {c}
    (mem : c ∈ past.gate.pending ++ e.errand?.toList) : c.ticket ∉ past.ended.map (·.1) := by
  rcases List.mem_append.1 mem with old | call
  · rw [faith.pending] at old
    simpa using (List.mem_filter.1 old).2
  · intro gone
    obtain ⟨x, there, same⟩ := List.mem_map.1 gone
    exact fresh.new (Option.mem_toList.1 call) (same ▸ faith.ended x there)

/-- A call that is sent in a step is pending or arrives, and it is not running. -/
lemma mem_sentNow (faith : past.Faithful) (fresh : (past.next e).Fresh) {c}
    (mem : c ∈ past.sentNow e) :
    c ∈ past.gate.pending ++ e.errand?.toList ∧ past.gate.isRunning c.ticket = false := by
  rcases (faith.move e).sends (faith.new fresh) with none | ⟨c', one, there⟩
  · rw [sentNow, none] at mem
    cases mem
  · rw [sentNow, one, List.mem_singleton] at mem
    exact mem ▸ there

/-- In one step no call is sent twice. -/
lemma sentNow_nodup (faith : past.Faithful) (fresh : (past.next e).Fresh) :
    ((past.sentNow e).map (·.ticket)).Nodup := by
  rcases (faith.move e).sends (faith.new fresh) with none | ⟨c, one, -⟩
  · rw [sentNow, none]
    exact List.nodup_nil
  · rw [sentNow, one]
    exact List.nodup_singleton _

/-- A call that ends in a step is pending or arrives. -/
lemma mem_endedNow (faith : past.Faithful) {x} (mem : x ∈ past.endedNow e) :
    ∃ c ∈ past.gate.pending ++ e.errand?.toList, c.ticket = x.1 := by
  rcases (faith.move e).ends with none | ⟨x', one, there⟩
  · rw [endedNow, none] at mem
    cases mem
  · rw [endedNow, one, List.mem_singleton] at mem
    exact List.mem_map.1 (mem ▸ there)

/-- In one step no call ends twice. -/
lemma endedNow_nodup (faith : past.Faithful) : ((past.endedNow e).map (·.1)).Nodup := by
  rcases (faith.move e).ends with none | ⟨x, one, -⟩
  · rw [endedNow, none]
    exact List.nodup_nil
  · rw [endedNow, one]
    exact List.nodup_singleton _

/-- The outstanding calls after one more event. -/
lemma outstanding_next (faith : past.Faithful) (fresh : (past.next e).Fresh) :
    (past.next e).outstanding =
      (past.outstanding ++ e.errand?.toList).filter
        fun c => c.ticket ∉ (past.endedNow e).map (·.1) := by
  have keep : e.errand?.toList.filter (fun c => c.ticket ∉ past.ended.map (·.1)) =
      e.errand?.toList :=
    List.filter_eq_self.2 fun c mem => by
      simpa using faith.not_ended fresh (List.mem_append_right _ mem)
  rw [outstanding, outstanding, ← keep, ← List.filter_append, List.filter_filter, arrived_next,
    ended_next]
  congr 1
  funext c
  rw [← Bool.decide_and, decide_eq_decide, List.map_append, List.mem_append, not_or]
  exact and_comm

/-- The calls in flight after one more event. -/
lemma inFlight_next (faith : past.Faithful) (fresh : (past.next e).Fresh) :
    (past.next e).inFlight =
      (past.inFlight ++ past.sentNow e).filter
        fun c => c.ticket ∉ (past.endedNow e).map (·.1) := by
  have keep : (past.sentNow e).filter (fun c => c.ticket ∉ past.ended.map (·.1)) =
      past.sentNow e := by
    rw [List.filter_eq_self]
    intro c mem
    simpa using faith.not_ended fresh (faith.mem_sentNow fresh mem).1
  rw [inFlight, inFlight, ← keep, ← List.filter_append, List.filter_filter, sent_next, ended_next]
  congr 1
  funext c
  rw [← Bool.decide_and, decide_eq_decide, List.map_append, List.mem_append, not_or]
  exact and_comm

/-- A call that is pending or arrives just now has arrived. -/
lemma arrived_of_mem (faith : past.Faithful) {c}
    (mem : c ∈ past.gate.pending ++ e.errand?.toList) : c ∈ (past.next e).arrived := by
  rw [faith.pending] at mem
  rw [arrived_next]
  rcases List.mem_append.1 mem with old | call
  · exact List.mem_append_left _ (List.mem_of_mem_filter old)
  · exact List.mem_append_right _ call

/-- Before a call arrives it is neither sent nor running. -/
lemma sent_iff_running (faith : past.Faithful) (fresh : (past.next e).Fresh) {c}
    (mem : c ∈ past.gate.pending ++ e.errand?.toList) :
    c ∈ past.sent ↔ past.gate.isRunning c.ticket = true := by
  rcases List.mem_append.1 mem with old | call
  · exact faith.running c (faith.pending ▸ old)
  · have call := Option.mem_toList.1 call
    rw [Gate.isRunning_of_new (faith.new fresh c call)]
    constructor
    · intro sent
      exact absurd (List.mem_map_of_mem (faith.sent c sent)) (fresh.new call)
    · exact nofun

/-- A call that is sent was not sent before. -/
lemma sent_once (faith : past.Faithful) (fresh : (past.next e).Fresh) {c}
    (mem : c ∈ past.gate.pending ++ e.errand?.toList)
    (idle : past.gate.isRunning c.ticket = false) : c.ticket ∉ past.sent.map (·.ticket) := by
  intro before
  obtain ⟨c', sent, same⟩ := List.mem_map.1 before
  have out : c' ∈ past.outstanding := by
    apply List.mem_filter.2
    refine ⟨faith.sent c' sent, ?_⟩
    rw [same]
    simpa using faith.not_ended fresh mem
  have running := (faith.running c' out).1 sent
  rw [same, idle] at running
  cases running

/-- The gate stays faithful. -/
lemma next (faith : past.Faithful) (fresh : (past.next e).Fresh) :
    (past.next e).Faithful := by
  have move := faith.move e
  have new := faith.new fresh
  have pending : (past.next e).gate.pending = (past.next e).outstanding := by
    rw [move.pending new, faith.outstanding_next fresh, faith.pending]
    rfl
  constructor
  case coherent => exact move.coherent faith.coherent new
  case pending => exact pending
  case running =>
    intro c out
    have before : c ∈ past.gate.pending ++ e.errand?.toList := by
      rw [faith.outstanding_next fresh, ← faith.pending] at out
      exact List.mem_of_mem_filter out
    rw [sent_next, List.mem_append, move.isRunning faith.coherent new (pending ▸ out),
      faith.sent_iff_running fresh before]
    rfl
  case sent =>
    intro c mem
    rw [sent_next] at mem
    rcases List.mem_append.1 mem with old | now
    · rw [arrived_next]
      exact List.mem_append_left _ (faith.sent c old)
    · exact faith.arrived_of_mem (faith.mem_sentNow fresh now).1
  case once =>
    rw [sent_next, List.map_append, List.nodup_append]
    refine ⟨faith.once, faith.sentNow_nodup fresh, ?_⟩
    intro t old t' now same
    obtain ⟨c, mem, rfl⟩ := List.mem_map.1 now
    obtain ⟨there, idle⟩ := faith.mem_sentNow fresh mem
    exact faith.sent_once fresh there idle (same ▸ old)
  case ended =>
    intro x mem
    rw [ended_next] at mem
    rcases List.mem_append.1 mem with old | now
    · rw [arrived_next, List.map_append]
      exact List.mem_append_left _ (faith.ended x old)
    · obtain ⟨c, there, same⟩ := faith.mem_endedNow now
      exact List.mem_map.2 ⟨c, faith.arrived_of_mem there, same⟩
  case final =>
    rw [ended_next, List.map_append, List.nodup_append]
    refine ⟨faith.final, faith.endedNow_nodup, ?_⟩
    intro t old t' now same
    obtain ⟨x, mem, rfl⟩ := List.mem_map.1 now
    obtain ⟨c, there, same'⟩ := faith.mem_endedNow mem
    exact faith.not_ended fresh there (same' ▸ same ▸ old)

end Faithful

/-- The gate that knows nothing is coherent. -/
lemma coherent_start : start.gate.Coherent := by
  constructor
  case lanes =>
    intro k
    rfl
  case waits =>
    intro t c call
    cases call
  case keyed =>
    intro t c call
    cases call

/-- The gate of a history with fresh tickets is faithful. -/
theorem Fresh.faithful {h : History} (fresh : h.Fresh) : h.Faithful := by
  induction h with
  | start =>
    constructor
    case coherent => exact coherent_start
    case pending => rfl
    case running => exact fun c mem => absurd mem List.not_mem_nil
    case sent => exact fun c mem => absurd mem List.not_mem_nil
    case once => exact List.nodup_nil
    case ended => exact fun x mem => absurd mem List.not_mem_nil
    case final => exact List.nodup_nil
  | next past e ih => exact (ih fresh.earlier).next fresh

end History

end ProfileControls.Dispatch
