import ProfileControls.Proofs.Dispatch.Coherence

/-!
# Waiting calls

A call waits from its admission to a line until its request is sent, whether or not it has been
handed the turn. The law of a line is one of conservation (`Move.waitingOn`): what a move sends on a
key, followed by what waits on that key afterwards, is what waited before, followed by what the
event adds. No call gets lost, is doubled or overtakes another.
-/

namespace ProfileControls.Dispatch

/-- The call that an event brings to the line of a key: a patient call always, an impatient one if
the key is free. -/
def Event.admitted (free : Bool) : Event → List Errand
  | .dispatch t approved target => [⟨t, target, approved.action⟩]
  | .tryDispatch t approved target => if free then [⟨t, target, approved.action⟩] else []
  | .resume _ | .reply _ _ | .reconcile _ _ => []

/-- Where the key is free, a call that arrives is admitted. -/
lemma Event.admitted_free {e : Event} {c} (call : e.errand? = some c) : e.admitted true = [c] := by
  cases e <;> cases call <;> rfl

/-- Only the call that arrives is admitted. -/
lemma Event.admitted_sublist (e : Event) (free : Bool) :
    (e.admitted free).Sublist e.errand?.toList := by
  cases e with
  | dispatch => exact .refl _
  | tryDispatch =>
    cases free with
    | true => exact .refl _
    | false => exact List.nil_sublist _
  | _ => exact .slnil

/-- A call is admitted to the line of its own key alone. -/
lemma Event.admitted_other {e : Event} {c k} (call : e.errand? = some c) (other : c.isOn k = false)
    (free : Bool) : (e.admitted free).filter (·.isOn k) = [] := by
  rw [List.filter_eq_nil_iff]
  intro d mem
  have arrives := (e.admitted_sublist free).subset mem
  rw [Option.mem_toList, call] at arrives
  cases arrives
  simp [other]

namespace Gate

/-- The calls on a key that have not sent their requests yet, in the order of their arrival. -/
def waitingOn (g : Gate) (k : LaneKey) : List Errand :=
  (g.pending.filter (·.isOn k)).filter fun c => !g.isRunning c.ticket

variable {g : Gate}

/-- Who waits depends only on what is pending and what is running. -/
lemma waitingOn_congr {g' : Gate} {k} (pending : g'.pending = g.pending)
    (running : ∀ c ∈ g.pending, g'.isRunning c.ticket = g.isRunning c.ticket) :
    g'.waitingOn k = g.waitingOn k := by
  rw [waitingOn, pending, waitingOn]
  apply List.filter_congr
  intro c mem
  rw [running c (List.mem_of_mem_filter mem)]

/-- A lane makes no difference to who waits. -/
@[simp] lemma waitingOn_withLane (g : Gate) (j : LaneKey) (l : Lane) (k : LaneKey) :
    (g.withLane j l).waitingOn k = g.waitingOn k := rfl

/-- Nor does a lane that is gone. -/
@[simp] lemma waitingOn_withoutLane (g : Gate) (j k : LaneKey) :
    (g.withoutLane j).waitingOn k = g.waitingOn k := rfl

/-- What is expected makes no difference to who waits. -/
@[simp] lemma waitingOn_expect (g : Gate) (request : Request) (k : LaneKey) :
    (g.expect request).waitingOn k = g.waitingOn k := rfl

/-- Nor does what the server says. -/
@[simp] lemma waitingOn_settle (g : Gate) (p : Pair) (r : Reply) (k : LaneKey) :
    (g.settle p r).waitingOn k = g.waitingOn k :=
  waitingOn_congr (pending_settle g p r) fun c _ => isRunning_settle g p r c.ticket

/-- Nothing waits on a free key. -/
lemma waitingOn_free {k} (free : g.line k = []) : g.waitingOn k = [] := by
  rw [line, List.map_eq_nil_iff] at free
  rw [waitingOn, free, List.filter_nil]

/-- A new call waits unless it runs at once. -/
lemma waitingOn_withCall_new {t} (new : g.calls.get? t = none) (c : Call) (k : LaneKey) :
    (g.withCall t c).waitingOn k =
      g.waitingOn k ++ ([⟨t, c.request⟩].filter (·.isOn k)).filter fun _ => c.phase ≠ .running := by
  rw [waitingOn, pending_withCall_new new, List.filter_append, List.filter_append, waitingOn]
  congr 1
  · apply List.filter_congr
    intro c' mem
    rw [isRunning_withCall, if_neg (ticket_ne_of_new new (List.mem_of_mem_filter mem))]
  · apply List.filter_congr
    intro c' mem
    rw [List.mem_singleton.1 (List.mem_of_mem_filter mem), isRunning_withCall, if_pos rfl]
    simp

/-- A call that starts to run waits no longer. -/
lemma waitingOn_withCall_running {t c} (call : g.calls.get? t = some c) (c' : Call)
    (same : c'.request = c.request) (running : c'.phase = .running) (k : LaneKey) :
    (g.withCall t c').waitingOn k = (g.waitingOn k).filter (·.ticket ≠ t) := by
  rw [waitingOn, pending_withCall_known call c' same, waitingOn]
  rw [List.filter_filter, List.filter_filter, List.filter_filter]
  apply List.filter_congr
  intro d _
  by_cases e : d.ticket = t <;> simp [e, running]

/-- A call that is handed the turn still waits. -/
lemma waitingOn_withCall_idle {t c} (call : g.calls.get? t = some c) (c' : Call)
    (same : c'.request = c.request) (idle : c.phase ≠ .running) (idle' : c'.phase ≠ .running)
    (k : LaneKey) : (g.withCall t c').waitingOn k = g.waitingOn k := by
  apply waitingOn_congr (pending_withCall_known call c' same)
  intro d _
  by_cases e : d.ticket = t
  · simp [e, isRunning_of_call call, idle, idle']
  · simp [e]

/-- A running call that ends did not wait. -/
lemma waitingOn_withoutCall {t} (running : g.isRunning t = true) (k : LaneKey) :
    (g.withoutCall t).waitingOn k = g.waitingOn k := by
  rw [waitingOn, pending_withoutCall, waitingOn]
  rw [List.filter_filter, List.filter_filter, List.filter_filter]
  apply List.filter_congr
  intro c _
  by_cases e : c.ticket = t
  · simp [e, running]
  · simp [e]

/-- Of two pending calls with one ticket there is only one. -/
lemma pending_inj {c c' : Errand} (mem : c ∈ g.pending) (mem' : c' ∈ g.pending)
    (same : c.ticket = c'.ticket) : c = c' := by
  obtain ⟨d, call, req⟩ := mem_pending.1 mem
  obtain ⟨d', call', req'⟩ := mem_pending.1 mem'
  rw [same, call'] at call
  cases call
  cases c
  cases c'
  cases same
  cases req
  cases req'
  rfl

/-- The first call of a line, while it has not been sent, is the first that waits. -/
lemma waitingOn_first {c : Errand} {k queue} (mem : c ∈ g.pending)
    (line : g.line k = c.ticket :: queue) (idle : g.isRunning c.ticket = false) :
    g.waitingOn k = c :: (g.waitingOn k).filter (·.ticket ≠ c.ticket) := by
  have nd := g.line_nodup k
  rw [Gate.line] at line nd
  rw [line, List.nodup_cons] at nd
  obtain ⟨c', rest, split, same, tickets⟩ := List.map_eq_cons_iff.1 line
  have mem' : c' ∈ g.pending := List.mem_of_mem_filter (split ▸ List.mem_cons_self)
  obtain rfl := pending_inj mem' mem same
  have others : ∀ d ∈ rest, d.ticket ≠ c'.ticket := by
    intro d there e
    exact nd.1 (tickets ▸ e ▸ List.mem_map_of_mem there)
  have keep : (rest.filter fun d => !g.isRunning d.ticket).filter (·.ticket ≠ c'.ticket) =
      rest.filter fun d => !g.isRunning d.ticket :=
    List.filter_eq_self.2 fun d there => by simpa using others d (List.mem_of_mem_filter there)
  rw [waitingOn, split, List.filter_cons_of_pos (by simpa using idle),
    List.filter_cons_of_neg (by simp), keep]

/-- The calls that wait on a key do not include those on other keys. -/
lemma waitingOn_other {c : Errand} {k} (mem : c ∈ g.pending) (other : c.isOn k = false) :
    (g.waitingOn k).filter (·.ticket ≠ c.ticket) = g.waitingOn k := by
  rw [List.filter_eq_self]
  intro d there
  have ne : d.ticket ≠ c.ticket := by
    intro e
    have known := List.mem_filter.1 (List.mem_of_mem_filter there)
    rw [pending_inj known.1 mem e, other] at known
    cases known.2
  simpa using ne

/-- The call that goes on is the first that waited on its key. -/
lemma Coherent.waitingOn_resume (co : g.Coherent) {t request j}
    (call : g.calls.get? t = some ⟨request, j, .granted⟩) (k : LaneKey) :
    [⟨t, request⟩].filter (·.isOn k) ++ (g.withCall t ⟨request, j, .running⟩).waitingOn k =
      g.waitingOn k := by
  have mem : (⟨t, request⟩ : Errand) ∈ g.pending := mem_pending.2 ⟨_, call, rfl⟩
  rw [waitingOn_withCall_running call ⟨request, j, .running⟩ rfl rfl]
  cases on : (⟨t, request⟩ : Errand).isOn k with
  | true =>
    -- it has the turn, so it is the first of the line and hence of those who wait
    obtain rfl : j = k := (co.isOn_iff call).1 on
    obtain ⟨queue, line⟩ := co.line_of_call call (by simp)
    rw [List.filter_cons_of_pos on, List.filter_nil, List.singleton_append]
    exact (waitingOn_first mem line (isRunning_of_call call)).symm
  | false =>
    rw [List.filter_cons_of_neg (by simp [on]), List.filter_nil, List.nil_append]
    exact waitingOn_other mem on

/-- What is sent on a key in a move, and what waits on it afterwards, is what waited before and what
is admitted, in this order. -/
theorem Move.waitingOn {e g' fs} (m : g.Move e g' fs) (co : g.Coherent) (new : g.New e)
    (k : LaneKey) :
    (fs.filterMap Effect.sent?).filter (·.isOn k) ++ g'.waitingOn k =
      g.waitingOn k ++ (e.admitted (g.line k = [])).filter (·.isOn k) := by
  cases m with
  | @unrelated e t request call none =>
    have other : (⟨t, request⟩ : Errand).isOn k = false := by simp [Errand.isOn, none]
    simp [Effect.sent?, Event.admitted_other call other]
  | @start e t request j call key free =>
    rw [waitingOn_expect, waitingOn_withCall_new (by exact new _ call), waitingOn_withLane]
    by_cases same : j = k
    · -- nobody waits on a free key, so the call that is sent does not overtake anybody
      subst same
      simp [Effect.sent?, waitingOn_free free, free, Event.admitted_free call]
    · have other : (⟨t, request⟩ : Errand).isOn k = false := by simp [Errand.isOn, key, same]
      simp [Effect.sent?, Event.admitted_other call other, other]
  | lineUp =>
    rw [waitingOn_withCall_new (by exact new _ rfl), waitingOn_withLane]
    simp [Event.admitted]
  | @refuse t approved target j key busy =>
    by_cases same : j = k
    · subst same
      simp [Effect.sent?, Event.admitted, busy]
    · have other : (⟨t, target, approved.action⟩ : Errand).isOn k = false := by
        simp [Errand.isOn, key, same]
      simp [Effect.sent?, Event.admitted_other (e := .tryDispatch t approved target) rfl other]
  | resume call =>
    rw [waitingOn_expect]
    exact (co.waitingOn_resume call k).trans (List.append_nil _).symm
  | finish call =>
    rw [waitingOn_withoutLane, waitingOn_withoutCall (by simp [isRunning_of_call call])]
    simp [Effect.sent?, Event.admitted]
  | @handOver t request j r next c queue call line there =>
    have there' : (((g.settle request.target.pair r).withoutCall t).withLane j
        ⟨some next, queue, queue.length + 1⟩).calls.get? next = some c := by
      simp [second_ne_first line, there]
    have idle : c.phase ≠ .running := by
      simpa [isRunning_of_call there] using co.queue_idle line List.mem_cons_self
    rw [waitingOn_withCall_idle there' { c with phase := .granted } rfl idle (by simp),
      waitingOn_withLane, waitingOn_withoutCall (by simp [isRunning_of_call call])]
    simp [Effect.sent?, Event.admitted]
  | sleep => simp [Event.admitted]
  | stray => simp [Event.admitted]
  | reconcile => exact (List.append_nil _).symm

/-! ## What a move brings about -/

/-- A call that finds its key free is sent at once. -/
lemma Move.free {e g' fs c k} (m : g.Move e g' fs) (call : e.errand? = some c)
    (key : c.isOn k = true) (free : g.line k = []) : fs = [.sent c.ticket c.request] := by
  have key := of_decide_eq_true key
  cases m with
  | unrelated call' none =>
    cases call.symm.trans call'
    rw [none] at key
    cases key
  | start call' =>
    cases call.symm.trans call'
    rfl
  | lineUp key' busy =>
    cases call
    cases key'.symm.trans key
    rw [free] at busy
    cases busy
  | refuse key' busy =>
    cases call
    cases key'.symm.trans key
    exact absurd free busy
  | _ => cases call

/-- A call is handed the turn by waking it. -/
lemma Move.granted {e g' fs t c'} (m : g.Move e g' fs) (call' : g'.calls.get? t = some c')
    (turn : c'.phase = .granted) :
    (∃ c, g.calls.get? t = some c ∧ c.phase = .granted) ∨ .woken t ∈ fs := by
  cases m with
  | start =>
    rw [calls_expect, calls_withCall, calls_withLane] at call'
    split at call'
    · cases call'
      cases turn
    · exact .inl ⟨c', call', turn⟩
  | lineUp =>
    rw [calls_withCall, calls_withLane] at call'
    split at call'
    · cases call'
      cases turn
    · exact .inl ⟨c', call', turn⟩
  | resume =>
    rw [calls_expect, calls_withCall] at call'
    split at call'
    · cases call'
      cases turn
    · exact .inl ⟨c', call', turn⟩
  | finish =>
    rw [calls_withoutLane, calls_withoutCall, settle_calls] at call'
    split at call'
    · cases call'
    · exact .inl ⟨c', call', turn⟩
  | handOver =>
    rw [calls_withCall, calls_withLane, calls_withoutCall, settle_calls] at call'
    split at call'
    · simp_all
    · split at call'
      · cases call'
      · exact .inl ⟨c', call', turn⟩
  | _ => exact .inl ⟨c', call', turn⟩

/-- A call that goes on does not keep the turn in hand. -/
lemma Move.not_granted {t g' fs c} (m : g.Move (.resume t) g' fs)
    (call : g'.calls.get? t = some c) : c.phase ≠ .granted := by
  cases m with
  | unrelated arrives => cases arrives
  | start arrives => cases arrives
  | resume =>
    rw [calls_expect, calls_withCall, if_pos rfl] at call
    cases call
    exact nofun
  | sleep other =>
    intro turn
    apply other c.request c.lane
    rw [call, ← turn]

end Gate

end ProfileControls.Dispatch
