import ProfileControls.Proofs.Dispatch.Pending

/-!
# Moves of a gate

A gate keeps two tables that have to agree: the calls without an outcome, and the lanes with their
turns, queues and counts. In a coherent gate (`Gate.Coherent`) the lanes say nothing that the calls
do not say: the lane under a key is what the line of that key makes of it (`Lane.ofLine?`), and
there is no lane where there are no calls.

`Gate.Move` lists what an event can do to a coherent gate, with the gate that comes of it and all
that reaches the outside, so that later proofs go by cases on the move and do not open the
operations of the gate. The result is that every step of a coherent gate is a move
(`Coherent.step_move`).
-/

namespace ProfileControls.Dispatch

/-- The lane of the calls in a line: the first has the turn, the others queue behind it. -/
def Lane.ofLine? : List Ticket → Option Lane
  | [] => none
  | t :: queue => some ⟨some t, queue, queue.length + 1⟩

namespace Gate

/-- The lanes are what the calls make of them. -/
structure Coherent (g : Gate) : Prop where
  /-- a lane holds the calls on its key, and is there only if there are any -/
  lanes : ∀ k, g.lanes.get? k = Lane.ofLine? (g.line k)
  /-- all but the first of a lane wait -/
  waits : ∀ {t c}, g.calls.get? t = some c →
    (c.phase = .waiting ↔ (g.line c.lane).head? ≠ some t)
  /-- a call is in the lane of its request -/
  keyed : ∀ {t c}, g.calls.get? t = some c → c.request.laneKey? = some c.lane

/-- What an event can do to a coherent gate. -/
inductive Move (g : Gate) : Event → Gate → List Effect → Prop where
  /-- an action that changes no relationship is turned down -/
  | unrelated {e t request} :
    e.errand? = some ⟨t, request⟩ →
    request.laneKey? = none →
    Move g e g [.ended t (.error (.notRelational request.action))]
  /-- a call finds its key free and sends its request -/
  | start {e t request k} :
    e.errand? = some ⟨t, request⟩ →
    request.laneKey? = some k →
    g.line k = [] →
    Move g e
      (((g.withLane k ⟨some t, [], 1⟩).withCall t ⟨request, k, .running⟩).expect request)
      [.sent t request]
  /-- a patient call lines up behind the calls on its key -/
  | lineUp {t approved target k first queue} :
    (⟨target, approved.action⟩ : Request).laneKey? = some k →
    g.line k = first :: queue →
    Move g (.dispatch t approved target)
      ((g.withLane k ⟨some first, queue ++ [t], queue.length + 2⟩).withCall t
        ⟨⟨target, approved.action⟩, k, .waiting⟩)
      []
  /-- an impatient call gives up where it would have to line up -/
  | refuse {t approved target k} :
    (⟨target, approved.action⟩ : Request).laneKey? = some k →
    g.line k ≠ [] →
    Move g (.tryDispatch t approved target) g [.ended t (.error .inFlight)]
  /-- the call that has been handed the turn sends its request -/
  | resume {t request k} :
    g.calls.get? t = some ⟨request, k, .granted⟩ →
    Move g (.resume t) ((g.withCall t ⟨request, k, .running⟩).expect request) [.sent t request]
  /-- the reply comes for the only call of a lane -/
  | finish {t request k r} :
    g.calls.get? t = some ⟨request, k, .running⟩ →
    g.line k = [t] →
    Move g (.reply t r)
      (((g.settle request.target.pair r).withoutCall t).withoutLane k)
      [.ended t r.outcome]
  /-- the reply comes for the first call of a lane, and the second is handed the turn -/
  | handOver {t request k r next c queue} :
    g.calls.get? t = some ⟨request, k, .running⟩ →
    g.line k = t :: next :: queue →
    g.calls.get? next = some c →
    Move g (.reply t r)
      ((((g.settle request.target.pair r).withoutCall t).withLane k
        ⟨some next, queue, queue.length + 1⟩).withCall next { c with phase := .granted })
      [.ended t r.outcome, .woken next]
  /-- a call that has not been handed the turn stays where it is -/
  | sleep {t} :
    (∀ request k, g.calls.get? t ≠ some ⟨request, k, .granted⟩) →
    Move g (.resume t) g []
  /-- a reply that no call waits for is dropped -/
  | stray {t r} :
    (∀ request k, g.calls.get? t ≠ some ⟨request, k, .running⟩) →
    Move g (.reply t r) g []
  /-- a relationship was fetched anew -/
  | reconcile {p r} :
    Move g (.reconcile p r) (g.reconcile p r) []

variable {g : Gate}

/-! ## The operations, one by one -/

/-- With nobody behind it, a call leaves the turn to nobody. -/
lemma passTurn_last {k t n} (lane : g.lane k = ⟨some t, [], n⟩) :
    g.passTurn k = (g.withLane k ⟨none, [], n⟩, []) := by
  simp [passTurn, Lane.passTurn, lane]

/-- The turn passes on to the first call in the queue, which is woken. -/
lemma passTurn_next {k t next queue n c} (lane : g.lane k = ⟨some t, next :: queue, n⟩)
    (call : g.calls.get? next = some c) :
    g.passTurn k =
      ((g.withLane k ⟨some next, queue, n⟩).withCall next { c with phase := .granted },
        [.woken next]) := by
  simp [passTurn, Lane.passTurn, lane, call]

/-- The last call to leave a lane takes the lane away. -/
lemma leave_last {k l} (lane : g.lane k = l) (one : l.handles = 1) :
    g.leave k = g.withoutLane k := by
  simp [leave, withoutLane, lane, one]

/-- Before the last one, a call that leaves a lane takes away its handle only. -/
lemma leave_next {k l} (lane : g.lane k = l) (more : 1 < l.handles) :
    g.leave k = g.withLane k { l with handles := l.handles - 1 } := by
  simp [leave, lane, Nat.not_le.2 more]

/-- The call that a reply is for ends, and the turn passes on. -/
lemma reply_running {t request k} (call : g.calls.get? t = some ⟨request, k, .running⟩)
    (r : Reply) :
    g.reply t r =
      ((((g.settle request.target.pair r).withoutCall t).passTurn k).1.leave k,
        .ended t r.outcome :: (((g.settle request.target.pair r).withoutCall t).passTurn k).2) := by
  simp [reply, call, withoutCall]

/-- A reply to no call in flight changes nothing. -/
lemma reply_stray {t} (stray : ∀ request k, g.calls.get? t ≠ some ⟨request, k, .running⟩)
    (r : Reply) : g.reply t r = (g, []) := by
  unfold reply
  split
  case h_1 request k call => exact absurd call (stray request k)
  case h_2 => rfl

namespace Coherent

/-- Where no call is, the lane is as good as new. -/
lemma lane_free (co : g.Coherent) {k} (free : g.line k = []) : g.lane k = {} := by
  rw [lane, co.lanes, free]
  rfl

/-- Where calls are, the first one has the turn and the others are in the queue. -/
lemma lane_busy (co : g.Coherent) {k first queue} (busy : g.line k = first :: queue) :
    g.lane k = ⟨some first, queue, queue.length + 1⟩ := by
  rw [lane, co.lanes, busy]
  rfl

/-- A call that does not wait is the first of its line. -/
lemma line_of_call (co : g.Coherent) {t c} (call : g.calls.get? t = some c)
    (turn : c.phase ≠ .waiting) : ∃ queue, g.line c.lane = t :: queue := by
  have first : (g.line c.lane).head? = some t := Classical.not_not.1 (mt (co.waits call).2 turn)
  exact List.head?_eq_some_iff.1 first

/-- Where calls are, an entry is taken back without a trace. -/
lemma leave_enter (co : g.Coherent) {k first queue} (busy : g.line k = first :: queue) :
    (g.enter k).leave k = g := by
  have there : g.lanes.get? k = some (g.lane k) := by
    rw [co.lane_busy busy, co.lanes, busy]
    rfl
  rw [enter, leave_next (lane_withLane _ _ _) (by simp [co.lane_busy busy]), withLane_withLane]
  show { g with lanes := g.lanes.put k (g.lane k) } = g
  rw [Table.put_self there]

/-! ## Every step is a move -/

/-- A call that arrives makes a move. -/
lemma dispatch_move (co : g.Coherent) (t : Ticket) (approved : Approved) (target : Target) :
    g.Move (.dispatch t approved target) (g.dispatch t approved target).1
      (g.dispatch t approved target).2 := by
  cases key : (⟨target, approved.action⟩ : Request).laneKey? with
  | none =>
    simp only [dispatch, key]
    exact .unrelated rfl key
  | some k =>
    cases line : g.line k with
    | nil =>
      simp only [dispatch, key, enter, co.lane_free line, lane_withLane, takeTurn, send,
        withLane_withLane]
      exact .start rfl key line
    | cons first queue =>
      simp only [dispatch, key, enter, co.lane_busy line, lane_withLane, lineUp, withLane_withLane]
      exact .lineUp key line

/-- A call that would not wait makes a move. -/
lemma tryDispatch_move (co : g.Coherent) (t : Ticket) (approved : Approved) (target : Target) :
    g.Move (.tryDispatch t approved target) (g.tryDispatch t approved target).1
      (g.tryDispatch t approved target).2 := by
  cases key : (⟨target, approved.action⟩ : Request).laneKey? with
  | none =>
    simp only [tryDispatch, key]
    exact .unrelated rfl key
  | some k =>
    cases line : g.line k with
    | nil =>
      simp only [tryDispatch, key, enter, co.lane_free line, lane_withLane, takeTurn, send,
        withLane_withLane]
      exact .start rfl key line
    | cons first queue =>
      have turn : ((g.enter k).lane k).turn.isNone = false := by
        simp only [enter, lane_withLane, co.lane_busy line, Option.isNone_some]
      simp only [tryDispatch, key, turn, co.leave_enter line]
      exact .refuse key (by simp [line])

/-- Waking a call makes a move. -/
lemma resume_move (g : Gate) (t : Ticket) :
    g.Move (.resume t) (g.resume t).1 (g.resume t).2 := by
  unfold resume
  split
  case h_1 request k call => exact .resume call
  case h_2 other => exact .sleep other

/-- A reply makes a move. -/
lemma reply_move (co : g.Coherent) (t : Ticket) (r : Reply) :
    g.Move (.reply t r) (g.reply t r).1 (g.reply t r).2 := by
  by_cases running : ∃ request k, g.calls.get? t = some ⟨request, k, .running⟩
  · obtain ⟨request, k, call⟩ := running
    obtain ⟨queue, line⟩ := co.line_of_call call nofun
    have lane : ((g.settle request.target.pair r).withoutCall t).lane k = g.lane k := by simp
    rw [co.lane_busy line] at lane
    rw [reply_running call]
    cases queue with
    | nil =>
      rw [passTurn_last lane, leave_last (lane_withLane _ _ _) rfl, withoutLane_withLane]
      exact .finish call line
    | cons next queue =>
      have member : next ∈ g.line k := line ▸ List.mem_cons_of_mem _ List.mem_cons_self
      obtain ⟨c, there, -⟩ := mem_line.1 member
      have there' : ((g.settle request.target.pair r).withoutCall t).calls.get? next = some c := by
        simp [second_ne_first line, there]
      rw [passTurn_next lane there', leave_next (by rw [lane_withCall, lane_withLane]) (by simp),
        withLane_withCall, withLane_withLane]
      exact .handOver call line there
  · simp only [not_exists] at running
    rw [reply_stray running]
    exact .stray running

/-- A coherent gate can only move. -/
theorem step_move (co : g.Coherent) (e : Event) : g.Move e (g.step e).1 (g.step e).2 := by
  cases e with
  | dispatch t approved target => exact co.dispatch_move t approved target
  | tryDispatch t approved target => exact co.tryDispatch_move t approved target
  | resume t => exact resume_move g t
  | reply t r => exact co.reply_move t r
  | reconcile p r => exact .reconcile

end Coherent

end Gate

end ProfileControls.Dispatch
