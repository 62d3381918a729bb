import ProfileControls.Proofs.Dispatch.Move

/-!
# Moves keep gates coherent

Each kind of move has its lemma: what it does to the lines, and that the lanes follow. The one fact
behind all of them is that a lane's call with the turn is the first of its line, so a reply takes
away the head, and the next in the queue becomes the head. The result is `Move.coherent`, for calls
with new tickets (`Gate.New`); what a move does to the pending calls is `Move.pending`.
-/

namespace ProfileControls.Dispatch.Gate

variable {g : Gate}

namespace Coherent

/-- A call is in the line of its lane. -/
lemma mem_lane (co : g.Coherent) {t c} (call : g.calls.get? t = some c) : t ∈ g.line c.lane :=
  mem_line.2 ⟨c, call, co.keyed call⟩

/-- A call is in no other line. -/
lemma lane_of_mem (co : g.Coherent) {t c k} (call : g.calls.get? t = some c)
    (mem : t ∈ g.line k) : c.lane = k := by
  obtain ⟨c', call', key⟩ := mem_line.1 mem
  rw [call] at call'
  cases call'
  rw [co.keyed call] at key
  exact Option.some.inj key

/-- A call takes turns on the key of its lane alone. -/
lemma isOn_iff (co : g.Coherent) {t c k} (call : g.calls.get? t = some c) :
    (⟨t, c.request⟩ : Errand).isOn k = true ↔ c.lane = k := by
  rw [Errand.isOn, decide_eq_true_iff, co.keyed call, Option.some.injEq]

/-- The calls behind the first of a line wait. -/
lemma queue_waits (co : g.Coherent) {k t t' queue c} (line : g.line k = t :: queue)
    (mem : t' ∈ queue) (call : g.calls.get? t' = some c) : c.phase = .waiting := by
  have member : t' ∈ g.line k := line ▸ List.mem_cons_of_mem _ mem
  have nd := g.line_nodup k
  rw [line, List.nodup_cons] at nd
  apply (co.waits call).2
  rw [co.lane_of_mem call member, line, List.head?_cons]
  intro e
  exact nd.1 (Option.some.inj e ▸ mem)

/-- The calls behind the first of a line are not running. -/
lemma queue_idle (co : g.Coherent) {k t t' queue} (line : g.line k = t :: queue)
    (mem : t' ∈ queue) : g.isRunning t' = false := by
  obtain ⟨c, call, -⟩ := mem_line.1 (line ▸ List.mem_cons_of_mem _ mem : t' ∈ g.line k)
  simp [isRunning_of_call call, co.queue_waits line mem call]

/-- What happens to the store is of no concern to the lanes. -/
lemma of_parts {g' : Gate} (co : g.Coherent) (lanes : g'.lanes = g.lanes)
    (calls : g'.calls = g.calls) : g'.Coherent := by
  have line : ∀ k, g'.line k = g.line k := line_of_pending (by rw [pending, calls, pending])
  constructor
  case lanes =>
    intro k
    rw [lanes, line]
    exact co.lanes k
  case waits =>
    intro t c call
    rw [calls] at call
    rw [line]
    exact co.waits call
  case keyed =>
    intro t c call
    rw [calls] at call
    exact co.keyed call

/-! ## The kinds of moves -/

/-- What is known of a pair makes no difference to calls and lanes. -/
lemma settle (co : g.Coherent) (p : Pair) (r : Reply) : (g.settle p r).Coherent :=
  co.of_parts (settle_lanes g p r) (settle_calls g p r)

/-- Nor does what is expected of a request. -/
lemma expect (co : g.Coherent) (request : Request) : (g.expect request).Coherent :=
  co.of_parts rfl rfl

/-- A call that arrives goes to the end of its line, and the lane follows. -/
lemma arrive (co : g.Coherent) {t request k lane phase} (new : g.calls.get? t = none)
    (key : request.laneKey? = some k) (made : Lane.ofLine? (g.line k ++ [t]) = some lane)
    (waits : phase = .waiting ↔ (g.line k ++ [t]).head? ≠ some t) :
    ((g.withLane k lane).withCall t ⟨request, k, phase⟩).Coherent := by
  have line : ∀ j, ((g.withLane k lane).withCall t ⟨request, k, phase⟩).line j =
      g.line j ++ if k = j then [t] else [] := by
    intro j
    rw [line_withCall_new (by exact new), line_withLane]
    simp [key]
  constructor
  case lanes =>
    intro j
    rw [line, lanes_withCall, lanes_withLane]
    by_cases e : k = j
    · subst e
      simp [made]
    · simp [e, Ne.symm e, co.lanes]
  case waits =>
    intro t' c call
    rw [line]
    rw [calls_withCall] at call
    split at call
    case isTrue e =>
      cases call
      simpa [e] using waits
    case isFalse =>
      -- the line of an old call is not empty, so its first call stays the first
      obtain ⟨first, queue, there⟩ := List.exists_cons_of_ne_nil
        (List.ne_nil_of_mem (co.mem_lane call))
      have turn := co.waits call
      rw [there] at turn ⊢
      exact turn
  case keyed =>
    intro t' c call
    rw [calls_withCall] at call
    split at call
    · cases call
      exact key
    · exact co.keyed call

/-- A call that finds its key free makes a lane of its own. -/
lemma start (co : g.Coherent) {t request k} (new : g.calls.get? t = none)
    (key : request.laneKey? = some k) (free : g.line k = []) :
    ((g.withLane k ⟨some t, [], 1⟩).withCall t ⟨request, k, .running⟩).Coherent := by
  apply co.arrive new key
  · rw [free]
    rfl
  · simp [free]

/-- A call that finds its key taken goes to the end of the queue. -/
lemma lineUp (co : g.Coherent) {t request k first queue} (new : g.calls.get? t = none)
    (key : request.laneKey? = some k) (busy : g.line k = first :: queue) :
    ((g.withLane k ⟨some first, queue ++ [t], queue.length + 2⟩).withCall t
      ⟨request, k, .waiting⟩).Coherent := by
  have ne : first ≠ t := by
    intro e
    obtain ⟨c, call, -⟩ := mem_line.1 (busy ▸ List.mem_cons_self : first ∈ g.line k)
    rw [e, new] at call
    cases call
  apply co.arrive new key
  · simp [busy, Lane.ofLine?]
  · simp [busy, ne]

/-- The first call of a lane goes on. -/
lemma resume (co : g.Coherent) {t request k} (call : g.calls.get? t = some ⟨request, k, .granted⟩) :
    (g.withCall t ⟨request, k, .running⟩).Coherent := by
  have line : ∀ j, (g.withCall t ⟨request, k, .running⟩).line j = g.line j :=
    line_of_pending (pending_withCall_known call _ rfl)
  constructor
  case lanes =>
    intro j
    rw [line, lanes_withCall]
    exact co.lanes j
  case waits =>
    intro t' c call'
    rw [line]
    rw [calls_withCall] at call'
    split at call'
    case isTrue e =>
      cases call'
      have waits := co.waits call
      subst e
      simpa using waits
    case isFalse => exact co.waits call'
  case keyed =>
    intro t' c call'
    rw [calls_withCall] at call'
    split at call'
    · cases call'
      exact co.keyed (c := ⟨request, k, .granted⟩) call
    · exact co.keyed call'

/-- The line of the first call goes on with the second. -/
lemma line_withoutCall_first {t k queue} (line : g.line k = t :: queue) :
    (g.withoutCall t).line k = queue := by
  have nd := g.line_nodup k
  rw [line, List.nodup_cons] at nd
  rw [line_withoutCall, line, List.filter_cons_of_neg (by simp), List.filter_eq_self]
  intro t' mem
  have ne : t' ≠ t := fun e => nd.1 (e ▸ mem)
  simpa using ne

/-- The other lines do not notice that a call ends. -/
lemma line_withoutCall_other (co : g.Coherent) {t c j} (call : g.calls.get? t = some c)
    (other : j ≠ c.lane) : (g.withoutCall t).line j = g.line j := by
  rw [line_withoutCall, List.filter_eq_self]
  intro t' mem
  have ne : t' ≠ t := by
    intro e
    subst e
    exact other (co.lane_of_mem call mem).symm
  simpa using ne

/-- The only call of a lane ends. -/
lemma finish (co : g.Coherent) {t c} (call : g.calls.get? t = some c)
    (only : g.line c.lane = [t]) : ((g.withoutCall t).withoutLane c.lane).Coherent := by
  constructor
  case lanes =>
    intro j
    rw [line_withoutLane, lanes_withoutLane]
    by_cases e : j = c.lane
    · subst e
      rw [line_withoutCall_first only, if_pos rfl]
      rfl
    · rw [co.line_withoutCall_other call e, if_neg e, lanes_withoutCall]
      exact co.lanes j
  case waits =>
    intro t' c' call'
    rw [calls_withoutLane, calls_withoutCall] at call'
    split at call'
    · cases call'
    · -- a call that is left is in another lane, since this one had no other call
      rename_i ne
      have apart : c'.lane ≠ c.lane := by
        intro e
        have mem := co.mem_lane call'
        rw [e, only, List.mem_singleton] at mem
        exact ne mem
      rw [line_withoutLane, co.line_withoutCall_other call apart]
      exact co.waits call'
  case keyed =>
    intro t' c' call'
    rw [calls_withoutLane, calls_withoutCall] at call'
    split at call'
    · cases call'
    · exact co.keyed call'

/-- The first call of a lane ends, and the second is handed the turn. -/
lemma handOver (co : g.Coherent) {t c next c' queue} (call : g.calls.get? t = some c)
    (line : g.line c.lane = t :: next :: queue) (there : g.calls.get? next = some c') :
    (((g.withoutCall t).withLane c.lane ⟨some next, queue, queue.length + 1⟩).withCall next
      { c' with phase := .granted }).Coherent := by
  have ne := second_ne_first line
  have here : c'.lane = c.lane := co.lane_of_mem there (by simp [line])
  have there' : ((g.withoutCall t).withLane c.lane
      ⟨some next, queue, queue.length + 1⟩).calls.get? next = some c' := by
    simp [ne, there]
  have lines : ∀ j, (((g.withoutCall t).withLane c.lane
      ⟨some next, queue, queue.length + 1⟩).withCall next { c' with phase := .granted }).line j =
      (g.withoutCall t).line j :=
    line_of_pending (pending_withCall_known there' _ rfl)
  constructor
  case lanes =>
    intro j
    rw [lines, lanes_withCall, lanes_withLane]
    by_cases e : j = c.lane
    · subst e
      rw [line_withoutCall_first line, if_pos rfl]
      rfl
    · rw [co.line_withoutCall_other call e, if_neg e, lanes_withoutCall]
      exact co.lanes j
  case waits =>
    intro t' d call'
    rw [lines]
    rw [calls_withCall, calls_withLane, calls_withoutCall] at call'
    split at call'
    case isTrue e =>
      cases call'
      simp [here, line_withoutCall_first line, e]
    case isFalse ne' =>
      split at call'
      · cases call'
      · rename_i old
        by_cases same : d.lane = c.lane
        · -- both heads differ from a call further back
          have waits := co.waits call'
          rw [same, line] at waits
          rw [same, line_withoutCall_first line]
          simpa [Ne.symm old, Ne.symm ne'] using waits
        · rw [co.line_withoutCall_other call same]
          exact co.waits call'
  case keyed =>
    intro t' d call'
    rw [calls_withCall, calls_withLane, calls_withoutCall] at call'
    split at call'
    · cases call'
      exact co.keyed (c := c') there
    · split at call'
      · cases call'
      · exact co.keyed call'

end Coherent

/-- The call that an event starts, if it starts one, is not known yet. -/
def New (g : Gate) (e : Event) : Prop :=
  ∀ c, e.errand? = some c → g.calls.get? c.ticket = none

/-! ## Moves as a whole -/

/-- Moves keep gates coherent. -/
theorem Move.coherent {e g' fs} (m : g.Move e g' fs) (co : g.Coherent) (new : g.New e) :
    g'.Coherent := by
  cases m with
  | unrelated => exact co
  | start call key free => exact (co.start (new _ call) key free).expect _
  | lineUp key busy => exact co.lineUp (new _ rfl) key busy
  | refuse => exact co
  | resume call => exact (co.resume call).expect _
  | finish call only =>
    exact (co.settle _ _).finish (by simpa using call) (by simpa using only)
  | handOver call line there =>
    exact (co.settle _ _).handOver (by simpa using call) (by simpa using line)
      (by simpa using there)
  | sleep => exact co
  | stray => exact co
  | reconcile => exact co.of_parts rfl rfl

/-- The pending calls after a move: those from before and the one that arrives, without the one that
ends. -/
theorem Move.pending {e g' fs} (m : g.Move e g' fs) (new : g.New e) :
    g'.pending = (g.pending ++ e.errand?.toList).filter
      fun c => c.ticket ∉ (fs.filterMap Effect.ending?).map (·.1) := by
  cases m with
  | @unrelated e t request call =>
    have keep : g.pending.filter (·.ticket ≠ t) = g.pending :=
      List.filter_eq_self.2 fun c mem => by simpa using ticket_ne_of_new (new _ call) mem
    simpa [call, Effect.ending?] using keep.symm
  | @start e t request k call =>
    have known : (g.withLane k ⟨some t, [], 1⟩).calls.get? t = none := new _ call
    simp [call, Effect.ending?, pending_withCall_new known, List.filter_true]
  | @lineUp t approved target k first queue =>
    have known : (g.withLane k ⟨some first, queue ++ [t], queue.length + 2⟩).calls.get? t = none :=
      new _ rfl
    simp [Event.errand?, pending_withCall_new known, List.filter_true]
  | @refuse t approved target k =>
    have keep : g.pending.filter (·.ticket ≠ t) = g.pending :=
      List.filter_eq_self.2 fun c mem => by simpa using ticket_ne_of_new (new _ rfl) mem
    simpa [Event.errand?, Effect.ending?] using keep.symm
  | @resume t request k call =>
    simp [Event.errand?, Effect.ending?, pending_withCall_known call ⟨request, k, .running⟩,
      List.filter_true]
  | finish => simp [Event.errand?, Effect.ending?, pending_withoutCall]
  | @handOver t request k r next c queue call line there =>
    have there' : (((g.settle request.target.pair r).withoutCall t).withLane k
        ⟨some next, queue, queue.length + 1⟩).calls.get? next = some c := by
      simp [second_ne_first line, there]
    rw [pending_withCall_known there' { c with phase := .granted } rfl]
    simp [Event.errand?, Effect.ending?, pending_withoutCall]
  | sleep => simp [Event.errand?, List.filter_true]
  | stray => simp [Event.errand?, List.filter_true]
  | reconcile => simp [Event.errand?, List.filter_true, Gate.pending, Gate.reconcile]

/-- A pending call runs after a move if it ran before or has just been sent. -/
theorem Move.isRunning {e g' fs} (m : g.Move e g' fs) (co : g.Coherent) (new : g.New e) {c : Errand}
    (mem : c ∈ g'.pending) :
    g'.isRunning c.ticket = true ↔
      g.isRunning c.ticket = true ∨ c ∈ fs.filterMap Effect.sent? := by
  obtain ⟨d, there, same⟩ := mem_pending.1 mem
  cases m with
  | unrelated => simp [Effect.sent?]
  | @start e t request k =>
    obtain ⟨t', request'⟩ := c
    by_cases e : t' = t
    · obtain rfl : ⟨request, k, .running⟩ = d := by simpa [e] using there
      cases same
      simp [e, Effect.sent?]
    · simp [e, Effect.sent?]
  | @lineUp t approved target k first queue =>
    by_cases e : c.ticket = t
    · have idle := isRunning_of_new (new _ rfl)
      simp [e, idle, Effect.sent?]
    · simp [e, Effect.sent?]
  | refuse => simp [Effect.sent?]
  | @resume t request k call =>
    obtain ⟨t', request'⟩ := c
    by_cases e : t' = t
    · obtain rfl : ⟨request, k, .running⟩ = d := by simpa [e] using there
      cases same
      simp [e, Effect.sent?]
    · simp [e, Effect.sent?]
  | @finish t request k r =>
    have ne : c.ticket ≠ t := by
      intro e
      simp [e] at there
    simp [ne, Effect.sent?]
  | @handOver t request k r next c' queue call line there' =>
    by_cases e : c.ticket = next
    · -- the second of a line is handed the turn, which is not yet to run
      have idle := co.queue_idle line List.mem_cons_self
      simp [e, idle, Effect.sent?]
    · have ne : c.ticket ≠ t := by
        intro e'
        have first := second_ne_first line
        simp [e', first.symm] at there
      simp [e, ne, Effect.sent?]
  | sleep => simp
  | stray => simp
  | reconcile => simp [Gate.isRunning, Gate.reconcile]

/-- At most one call is sent in a move: one that is pending or arrives, and that did not run. -/
theorem Move.sends {e g' fs} (m : g.Move e g' fs) (new : g.New e) :
    fs.filterMap Effect.sent? = [] ∨
      ∃ c, fs.filterMap Effect.sent? = [c] ∧ c ∈ g.pending ++ e.errand?.toList ∧
        g.isRunning c.ticket = false := by
  cases m with
  | @start e t request k call =>
    refine .inr ⟨⟨t, request⟩, rfl, ?_, isRunning_of_new (new _ call)⟩
    simp [call]
  | @resume t request k call =>
    refine .inr ⟨⟨t, request⟩, rfl, List.mem_append_left _ (mem_pending.2 ⟨_, call, rfl⟩), ?_⟩
    rw [isRunning_of_call call]
    rfl
  | _ => exact .inl rfl

/-- At most one call ends in a move: one that is pending or arrives. -/
theorem Move.ends {e g' fs} (m : g.Move e g' fs) :
    fs.filterMap Effect.ending? = [] ∨
      ∃ x, fs.filterMap Effect.ending? = [x] ∧
        x.1 ∈ (g.pending ++ e.errand?.toList).map (·.ticket) := by
  have known : ∀ {t c}, g.calls.get? t = some c → t ∈ g.pending.map (·.ticket) :=
    fun call => List.mem_map.2 ⟨⟨_, _⟩, mem_pending.2 ⟨_, call, rfl⟩, rfl⟩
  cases m with
  | unrelated call => exact .inr ⟨_, rfl, by simp [call]⟩
  | refuse => exact .inr ⟨_, rfl, by simp [Event.errand?]⟩
  | finish call => exact .inr ⟨_, rfl, by simpa [Event.errand?] using known call⟩
  | handOver call => exact .inr ⟨_, rfl, by simpa [Event.errand?] using known call⟩
  | _ => exact .inl rfl

/-- No move both sends a call and ends one. -/
theorem Move.sends_or_ends {e g' fs} (m : g.Move e g' fs) :
    fs.filterMap Effect.sent? = [] ∨ fs.filterMap Effect.ending? = [] := by
  cases m with
  | start => exact .inr rfl
  | resume => exact .inr rfl
  | _ => exact .inl rfl

/-- A ticket without a call in flight is not running. -/
lemma isRunning_of_stray {t} (stray : ∀ request k, g.calls.get? t ≠ some ⟨request, k, .running⟩) :
    g.isRunning t = false := by
  cases call : g.calls.get? t with
  | none => exact isRunning_of_new call
  | some c =>
    have phase : c.phase ≠ .running := by
      intro running
      apply stray c.request c.lane
      rw [call, ← running]
    simp [isRunning_of_call call, phase]

/-- A reply ends the call that it is for, if that call is running. -/
theorem Move.ends_reply {t r g' fs} (m : g.Move (.reply t r) g' fs) :
    fs.filterMap Effect.ending? = if g.isRunning t then [(t, r.outcome)] else [] := by
  cases m with
  | unrelated arrives => cases arrives
  | start arrives => cases arrives
  | finish call => simp [Effect.ending?, isRunning_of_call call]
  | handOver call => simp [Effect.ending?, isRunning_of_call call]
  | stray other => simp [isRunning_of_stray other]

/-- Without a reply, only a call that arrives can end, and then nothing is sent. -/
theorem Move.ends_unsent {e g' fs x} (m : g.Move e g' fs) (other : e.answer? = none)
    (ends : x ∈ fs.filterMap Effect.ending?) :
    fs.filterMap Effect.sent? = [] ∧ ∃ c, e.errand? = some c ∧ c.ticket = x.1 := by
  cases m with
  | unrelated call =>
    cases List.mem_singleton.1 ends
    exact ⟨rfl, _, call, rfl⟩
  | refuse =>
    cases List.mem_singleton.1 ends
    exact ⟨rfl, _, rfl, rfl⟩
  | finish => cases other
  | handOver => cases other
  | _ => cases ends

end ProfileControls.Dispatch.Gate
