import Mathlib.Data.List.Basic
import ProfileControls.Dispatch.Run
import ProfileControls.Proofs.Dispatch.Table

/-!
# Pending calls

The calls without an outcome are the memory of a gate: each has a ticket and a request, and they
stand in the order of their arrival (`Gate.pending`). Those on one key make up its line
(`Gate.line`). The operations of the gate change its three tables one part at a time, and the laws
here say what each part shows after such a change: a new call comes last, a call that goes on keeps
its place, and a call that ends leaves the others in their order.
-/

namespace ProfileControls.Dispatch

/-- A call by its ticket, with what it asks for. -/
structure Errand where
  ticket : Ticket
  request : Request
deriving DecidableEq, Repr

/-- The errand has to take turns on the key. -/
def Errand.isOn (k : LaneKey) (e : Errand) : Bool :=
  e.request.laneKey? = some k

/-- The errand that an event brings to the gate, if it starts a call. -/
def Event.errand? : Event → Option Errand
  | .dispatch t approved target | .tryDispatch t approved target =>
    some ⟨t, target, approved.action⟩
  | .resume _ | .reply _ _ | .reconcile _ _ => none

/-- The reply that an event brings, with the ticket of the call that it is for. -/
def Event.answer? : Event → Option (Ticket × Reply)
  | .reply t r => some (t, r)
  | .dispatch _ _ _ | .tryDispatch _ _ _ | .resume _ | .reconcile _ _ => none

/-- The errand that an effect takes to the server. -/
def Effect.sent? : Effect → Option Errand
  | .sent t request => some ⟨t, request⟩
  | .woken _ | .ended _ _ => none

/-- The ticket and the outcome of the call that an effect ends. -/
def Effect.ending? : Effect → Option (Ticket × Outcome)
  | .ended t outcome => some (t, outcome)
  | .sent _ _ | .woken _ => none

namespace Gate

/-- The calls without an outcome, in the order of their arrival. -/
def pending (g : Gate) : List Errand :=
  g.calls.rows.map fun row => ⟨row.1, row.2.request⟩

/-- The calls without an outcome that take turns on a key, in the order of their arrival. -/
def line (g : Gate) (k : LaneKey) : List Ticket :=
  (g.pending.filter (·.isOn k)).map (·.ticket)

/-- The request of the call is with the server. -/
def isRunning (g : Gate) (t : Ticket) : Bool :=
  (g.calls.get? t).any (·.phase = .running)

/-- The gate without a call. -/
def withoutCall (g : Gate) (t : Ticket) : Gate :=
  { g with calls := g.calls.erase t }

/-- The gate without a lane. -/
def withoutLane (g : Gate) (k : LaneKey) : Gate :=
  { g with lanes := g.lanes.erase k }

variable {g : Gate}

/-! ## Parts of a gate

Each change of a table shows in that table alone. -/

/-- A call makes no difference to the lanes. -/
@[simp] lemma lanes_withCall (g : Gate) (t : Ticket) (c : Call) :
    (g.withCall t c).lanes = g.lanes := rfl

/-- A lane is found under its key, and all others as before. -/
@[simp] lemma lanes_withLane (g : Gate) (k j : LaneKey) (l : Lane) :
    (g.withLane k l).lanes.get? j = if j = k then some l else g.lanes.get? j :=
  Table.get?_put g.lanes k j l

/-- A lane makes no difference to the calls. -/
@[simp] lemma calls_withLane (g : Gate) (k : LaneKey) (l : Lane) :
    (g.withLane k l).calls = g.calls := rfl

/-- A call is found under its ticket, and all others as before. -/
@[simp] lemma calls_withCall (g : Gate) (t t' : Ticket) (c : Call) :
    (g.withCall t c).calls.get? t' = if t' = t then some c else g.calls.get? t' :=
  Table.get?_put g.calls t t' c

/-- A lane that is gone is not found, and all others as before. -/
@[simp] lemma lanes_withoutLane (g : Gate) (k j : LaneKey) :
    (g.withoutLane k).lanes.get? j = if j = k then none else g.lanes.get? j :=
  Table.get?_erase g.lanes k j

/-- A call that is gone makes no difference to the lanes. -/
@[simp] lemma lanes_withoutCall (g : Gate) (t : Ticket) : (g.withoutCall t).lanes = g.lanes := rfl

/-- A lane that is gone makes no difference to the calls. -/
@[simp] lemma calls_withoutLane (g : Gate) (k : LaneKey) : (g.withoutLane k).calls = g.calls := rfl

/-- A call that is gone is not found, and all others as before. -/
@[simp] lemma calls_withoutCall (g : Gate) (t t' : Ticket) :
    (g.withoutCall t).calls.get? t' = if t' = t then none else g.calls.get? t' :=
  Table.get?_erase g.calls t t'

/-- The lane of a key is the one that was put there. -/
@[simp] lemma lane_withLane (g : Gate) (k : LaneKey) (l : Lane) : (g.withLane k l).lane k = l := by
  simp [lane, withLane, Table.get?_put]

/-- A call makes no difference to the lane of a key. -/
@[simp] lemma lane_withCall (g : Gate) (t : Ticket) (c : Call) (k : LaneKey) :
    (g.withCall t c).lane k = g.lane k := rfl

/-- Nor does a call that is gone. -/
@[simp] lemma lane_withoutCall (g : Gate) (t : Ticket) (k : LaneKey) :
    (g.withoutCall t).lane k = g.lane k := rfl

/-- Of two lanes that are put under one key, the second one stays. -/
@[simp] lemma withLane_withLane (g : Gate) (k : LaneKey) (l l' : Lane) :
    (g.withLane k l).withLane k l' = g.withLane k l' := by
  simp [withLane, Table.put_put]

/-- A lane that is put and taken away leaves nothing. -/
@[simp] lemma withoutLane_withLane (g : Gate) (k : LaneKey) (l : Lane) :
    (g.withLane k l).withoutLane k = g.withoutLane k := by
  simp [withLane, withoutLane, Table.erase_put]

/-- A lane and a call may be put in either order. -/
lemma withLane_withCall (g : Gate) (t : Ticket) (c : Call) (k : LaneKey) (l : Lane) :
    (g.withCall t c).withLane k l = (g.withLane k l).withCall t c := rfl

/-- What is expected makes no difference to the calls. -/
@[simp] lemma calls_expect (g : Gate) (request : Request) :
    (g.expect request).calls = g.calls := rfl

/-- A reply leaves the lanes and the calls to the rest of the operation. -/
lemma settle_eq (g : Gate) (p : Pair) (r : Reply) :
    g.settle p r = { g with store := (g.settle p r).store } := by
  unfold settle
  split
  · rfl
  · split <;> rfl

/-- A reply leaves the lanes as they are. -/
@[simp] lemma settle_lanes (g : Gate) (p : Pair) (r : Reply) : (g.settle p r).lanes = g.lanes := by
  rw [settle_eq]

/-- A reply leaves the calls as they are. -/
@[simp] lemma settle_calls (g : Gate) (p : Pair) (r : Reply) : (g.settle p r).calls = g.calls := by
  rw [settle_eq]

/-- A reply leaves the lane of a key as it is. -/
@[simp] lemma lane_settle (g : Gate) (p : Pair) (r : Reply) (k : LaneKey) :
    (g.settle p r).lane k = g.lane k := by
  rw [lane, settle_lanes, lane]

/-! ## Lines -/

/-- The pending calls are those that the gate knows. -/
lemma mem_pending {c : Errand} :
    c ∈ g.pending ↔ ∃ d, g.calls.get? c.ticket = some d ∧ d.request = c.request := by
  obtain ⟨t, request⟩ := c
  simp only [pending, List.mem_map, Errand.mk.injEq]
  constructor
  · rintro ⟨⟨t, d⟩, row, rfl, rfl⟩
    exact ⟨d, Table.get?_eq_some_iff.2 row, rfl⟩
  · rintro ⟨d, call, rfl⟩
    exact ⟨_, Table.get?_eq_some_iff.1 call, rfl, rfl⟩

/-- The calls of a line are the pending calls on its key. -/
lemma mem_line {k t} :
    t ∈ g.line k ↔ ∃ c, g.calls.get? t = some c ∧ c.request.laneKey? = some k := by
  simp only [line, List.mem_map, List.mem_filter, mem_pending, Errand.isOn, decide_eq_true_eq]
  constructor
  · rintro ⟨c, ⟨⟨d, call, same⟩, key⟩, rfl⟩
    exact ⟨d, call, same ▸ key⟩
  · rintro ⟨c, call, key⟩
    exact ⟨⟨t, c.request⟩, ⟨⟨c, call, rfl⟩, key⟩, rfl⟩

/-- No call is pending twice. -/
lemma pending_nodup (g : Gate) : (g.pending.map (·.ticket)).Nodup := by
  have same : g.pending.map (·.ticket) = g.calls.rows.map (·.1) := by simp [pending]
  rw [same]
  exact g.calls.nodup

/-- No call is in a line twice. -/
lemma line_nodup (g : Gate) (k : LaneKey) : (g.line k).Nodup :=
  g.pending_nodup.sublist (List.filter_sublist.map _)

/-- The second call of a line is not the first. -/
lemma second_ne_first {k t next queue} (line : g.line k = t :: next :: queue) : next ≠ t := by
  have nd := g.line_nodup k
  rw [line, List.nodup_cons] at nd
  intro e
  exact nd.1 (e ▸ List.mem_cons_self)

/-- A lane makes no difference to what is pending. -/
@[simp] lemma pending_withLane (g : Gate) (k : LaneKey) (l : Lane) :
    (g.withLane k l).pending = g.pending := rfl

/-- Nor does a lane that is gone. -/
@[simp] lemma pending_withoutLane (g : Gate) (k : LaneKey) :
    (g.withoutLane k).pending = g.pending := rfl

/-- What is expected makes no difference to what is pending. -/
@[simp] lemma pending_expect (g : Gate) (request : Request) :
    (g.expect request).pending = g.pending := rfl

/-- Nor does what the server says. -/
@[simp] lemma pending_settle (g : Gate) (p : Pair) (r : Reply) :
    (g.settle p r).pending = g.pending := by
  rw [pending, settle_calls, pending]

/-- A lane makes no difference to the lines. -/
@[simp] lemma line_withLane (g : Gate) (k : LaneKey) (l : Lane) (j : LaneKey) :
    (g.withLane k l).line j = g.line j := rfl

/-- Nor does a lane that is gone. -/
@[simp] lemma line_withoutLane (g : Gate) (k j : LaneKey) :
    (g.withoutLane k).line j = g.line j := rfl

/-- What is expected makes no difference to the lines. -/
@[simp] lemma line_expect (g : Gate) (request : Request) (k : LaneKey) :
    (g.expect request).line k = g.line k := rfl

/-- Nor does what the server says. -/
@[simp] lemma line_settle (g : Gate) (p : Pair) (r : Reply) (k : LaneKey) :
    (g.settle p r).line k = g.line k := by
  rw [line, pending_settle, line]

/-- A new call comes last. -/
lemma pending_withCall_new {t} (new : g.calls.get? t = none) (c : Call) :
    (g.withCall t c).pending = g.pending ++ [⟨t, c.request⟩] := by
  simp [pending, withCall, Table.rows_put_new new]

/-- A call that goes on keeps its place. -/
lemma pending_withCall_known {t c} (call : g.calls.get? t = some c) (c' : Call)
    (same : c'.request = c.request) : (g.withCall t c').pending = g.pending := by
  apply Table.map_rows_put_known call
  rw [same]

/-- A call that ends leaves the others in their order. -/
lemma pending_withoutCall (g : Gate) (t : Ticket) :
    (g.withoutCall t).pending = g.pending.filter (·.ticket ≠ t) := by
  simp [pending, withoutCall, Table.erase, List.filter_map, Function.comp_def]

/-- A call that is not known is not pending. -/
lemma ticket_ne_of_new {t} (new : g.calls.get? t = none) {c : Errand} (mem : c ∈ g.pending) :
    c.ticket ≠ t := by
  intro e
  obtain ⟨d, call, -⟩ := mem_pending.1 mem
  rw [e, new] at call
  cases call

/-- Lines depend only on what is pending. -/
lemma line_of_pending {g' : Gate} (same : g'.pending = g.pending) (k : LaneKey) :
    g'.line k = g.line k := by
  rw [line, same, line]

/-- A new call goes to the end of its own line. -/
lemma line_withCall_new {t} (new : g.calls.get? t = none) (c : Call) (k : LaneKey) :
    (g.withCall t c).line k = g.line k ++ if c.request.laneKey? = some k then [t] else [] := by
  rw [line, pending_withCall_new new, List.filter_append, List.map_append, line]
  split <;> rename_i key <;> simp [Errand.isOn, key]

/-- A call that is gone leaves its line. -/
lemma line_withoutCall (g : Gate) (t : Ticket) (k : LaneKey) :
    (g.withoutCall t).line k = (g.line k).filter (· ≠ t) := by
  simp only [line, pending_withoutCall, List.filter_map, List.filter_filter, Function.comp_def]
  congr 2
  funext c
  exact Bool.and_comm _ _

/-! ## Running calls -/

/-- A lane makes no difference to what is running. -/
@[simp] lemma isRunning_withLane (g : Gate) (k : LaneKey) (l : Lane) (t : Ticket) :
    (g.withLane k l).isRunning t = g.isRunning t := rfl

/-- Nor does a lane that is gone. -/
@[simp] lemma isRunning_withoutLane (g : Gate) (k : LaneKey) (t : Ticket) :
    (g.withoutLane k).isRunning t = g.isRunning t := rfl

/-- What is expected makes no difference to what is running. -/
@[simp] lemma isRunning_expect (g : Gate) (request : Request) (t : Ticket) :
    (g.expect request).isRunning t = g.isRunning t := rfl

/-- Nor does what the server says. -/
@[simp] lemma isRunning_settle (g : Gate) (p : Pair) (r : Reply) (t : Ticket) :
    (g.settle p r).isRunning t = g.isRunning t := by
  rw [isRunning, settle_calls, isRunning]

/-- A call that is put is running if it is in that phase. -/
@[simp] lemma isRunning_withCall (g : Gate) (t t' : Ticket) (c : Call) :
    (g.withCall t c).isRunning t' =
      if t' = t then decide (c.phase = .running) else g.isRunning t' := by
  rw [isRunning, calls_withCall]
  split <;> rfl

/-- A call that is gone is not running. -/
@[simp] lemma isRunning_withoutCall (g : Gate) (t t' : Ticket) :
    (g.withoutCall t).isRunning t' = if t' = t then false else g.isRunning t' := by
  rw [isRunning, calls_withoutCall]
  split <;> rfl

/-- Whether a call is running can be told from its phase. -/
lemma isRunning_of_call {t c} (call : g.calls.get? t = some c) :
    g.isRunning t = decide (c.phase = .running) := by
  rw [isRunning, call, Option.any_some]

/-- A ticket without a call is not running. -/
lemma isRunning_of_new {t} (new : g.calls.get? t = none) : g.isRunning t = false := by
  rw [isRunning, new, Option.any_none]

end Gate

end ProfileControls.Dispatch
