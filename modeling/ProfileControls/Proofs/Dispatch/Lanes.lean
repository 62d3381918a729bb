import Mathlib.Data.List.Dedup
import ProfileControls.Proofs.Dispatch.History

/-!
# Lanes and the calls in them

A lane comes into being with the first call on its key and goes with the last, so a removal that
came too early would let a second lane for the same key arise. It does not: at any time of any
history, the lanes are those of the keys that some call is outstanding on, and each of them has at
most one request with the server.

Everything follows from the faith of the gate: the line of a key is the list of the calls that are
outstanding on it, and only the first of a line can be running.
-/

namespace ProfileControls.Dispatch.History

/-- The keys that some call is outstanding on. -/
def busyKeys (h : History) : List LaneKey :=
  (h.outstanding.filterMap (·.request.laneKey?)).dedup

variable {h : History}

/-- The keys that are busy are those of outstanding calls. -/
lemma mem_busyKeys {k : LaneKey} : k ∈ h.busyKeys ↔ ∃ c ∈ h.outstanding, c.isOn k := by
  simp [busyKeys, Errand.isOn]

/-- The outstanding calls are those in flight and those that wait. -/
lemma Faithful.outstanding_iff (faith : h.Faithful) {c : Errand} :
    c ∈ h.outstanding ↔ c ∈ h.inFlight ∨ c ∈ h.waiting := by
  constructor
  · intro out
    by_cases sent : c ∈ h.sent
    · exact .inl (List.mem_filter.2 ⟨sent, (List.mem_filter.1 out).2⟩)
    · exact .inr (List.mem_filter.2 ⟨out, by simpa using sent⟩)
  · rintro (flying | waiting)
    · obtain ⟨sent, gone⟩ := List.mem_filter.1 flying
      exact List.mem_filter.2 ⟨faith.sent c sent, gone⟩
    · exact List.mem_of_mem_filter waiting

/-- The line of a key is empty when no call is outstanding on it. -/
lemma Faithful.line_ne_nil_iff (faith : h.Faithful) {k : LaneKey} :
    h.gate.line k ≠ [] ↔ ∃ c ∈ h.outstanding, c.isOn k := by
  rw [Gate.line, faith.pending, ne_eq, List.map_eq_nil_iff, List.filter_eq_nil_iff]
  simp

/-- There is a lane for a key exactly if a call on the key is outstanding. -/
lemma Faithful.lane_isSome_iff (faith : h.Faithful) {k : LaneKey} :
    (h.gate.lanes.get? k).isSome = true ↔ ∃ c ∈ h.outstanding, c.isOn k := by
  rw [← faith.line_ne_nil_iff, faith.coherent.lanes]
  cases h.gate.line k <;> simp [Lane.ofLine?]

/-- A key is in flight exactly if a call on it is outstanding. -/
lemma Faithful.isInFlight_iff (faith : h.Faithful) {k : LaneKey} :
    h.gate.isInFlight k = true ↔ ∃ c ∈ h.outstanding, c.isOn k := by
  rw [← faith.line_ne_nil_iff, Gate.isInFlight, faith.coherent.lanes]
  cases h.gate.line k <;> simp [Lane.ofLine?]

/-- A call is in flight exactly while it runs. -/
lemma Faithful.inFlight_iff (faith : h.Faithful) {c : Errand} :
    c ∈ h.inFlight ↔ ∃ k, h.gate.calls.get? c.ticket = some ⟨c.request, k, .running⟩ := by
  constructor
  · intro flying
    have out := faith.outstanding_iff.2 (.inl flying)
    obtain ⟨⟨request, k, phase⟩, call, same⟩ := Gate.mem_pending.1 (faith.pending ▸ out)
    have running := (faith.running c out).1 (List.mem_of_mem_filter flying)
    have phase : phase = .running := by simpa [Gate.isRunning_of_call call] using running
    exact ⟨k, by rw [call, ← same, phase]⟩
  · rintro ⟨k, call⟩
    have out : c ∈ h.outstanding := faith.pending ▸ Gate.mem_pending.2 ⟨_, call, rfl⟩
    have sent := (faith.running c out).2 (by simp [Gate.isRunning_of_call call])
    exact List.mem_filter.2 ⟨sent, (List.mem_filter.1 out).2⟩

/-- A call in flight runs in the lane of its key. -/
lemma Faithful.call_of_inFlight (faith : h.Faithful) {k : LaneKey} {c : Errand}
    (flying : c ∈ h.inFlight) (key : c.isOn k = true) :
    h.gate.calls.get? c.ticket = some ⟨c.request, k, .running⟩ := by
  obtain ⟨j, call⟩ := faith.inFlight_iff.1 flying
  obtain rfl : j = k := (faith.coherent.isOn_iff call).1 key
  exact call

/-- Only the first of a line is in flight. -/
lemma Faithful.first_of_inFlight (faith : h.Faithful) {k : LaneKey} {c : Errand}
    (flying : c ∈ h.inFlight) (key : c.isOn k = true) :
    (h.gate.line k).head? = some c.ticket := by
  obtain ⟨queue, line⟩ := faith.coherent.line_of_call (faith.call_of_inFlight flying key) nofun
  rw [line]
  rfl

/-- At most one call on a key is in flight. -/
lemma Faithful.inFlight_le_one (faith : h.Faithful) (k : LaneKey) :
    (h.inFlight.filter (·.isOn k)).length ≤ 1 := by
  have nd : ((h.inFlight.filter (·.isOn k)).map (·.ticket)).Nodup :=
    faith.once.sublist ((List.filter_sublist.trans List.filter_sublist).map _)
  have all : ∀ c ∈ h.inFlight.filter (·.isOn k), (h.gate.line k).head? = some c.ticket := by
    intro c mem
    obtain ⟨flying, key⟩ := List.mem_filter.1 mem
    exact faith.first_of_inFlight flying key
  -- two of them would both be the first of the line, hence one call
  generalize h.inFlight.filter (·.isOn k) = cs at nd all ⊢
  match cs with
  | [] => exact Nat.zero_le 1
  | [_] => exact Nat.le_refl 1
  | c :: c' :: cs =>
    have first := all c List.mem_cons_self
    rw [all c' (List.mem_cons_of_mem _ List.mem_cons_self)] at first
    have same := Option.some.inj first
    simp [same] at nd

/-- There are as many lanes as busy keys. -/
lemma Faithful.size_lanes (faith : h.Faithful) : h.gate.lanes.size = h.busyKeys.length := by
  have perm : (h.gate.lanes.rows.map (·.1)).Perm h.busyKeys := by
    apply (List.perm_ext_iff_of_nodup h.gate.lanes.nodup (List.nodup_dedup _)).2
    intro k
    show k ∈ h.gate.lanes.rows.map (·.1) ↔ k ∈ h.busyKeys
    rw [mem_busyKeys, ← faith.lane_isSome_iff, ← not_iff_not, ← Table.get?_eq_none_iff]
    simp
  rw [Table.size, ← List.length_map (·.1), perm.length_eq]

/-- At any time of any history, at most one request of a key is with the server, the lanes are those
of the keys that some call is in flight or waits on, the gate says of exactly these keys that they
are busy, its summary tells their number, and no lane is left when no call is. -/
theorem Fresh.lanes_of_outstanding (fresh : h.Fresh) :
    (∀ k, (h.inFlight.filter (·.isOn k)).length ≤ 1) ∧
    (∀ c, c ∈ h.outstanding ↔ c ∈ h.inFlight ∨ c ∈ h.waiting) ∧
    (∀ k, (h.gate.lanes.get? k).isSome = true ↔ ∃ c ∈ h.outstanding, c.isOn k) ∧
    (∀ k, h.gate.isInFlight k = true ↔ ∃ c ∈ h.outstanding, c.isOn k) ∧
    h.gate.summary = "ActionGate \x7b pending_keys: " ++ toString h.busyKeys.length ++
      ", relationships: " ++ toString h.gate.store.size ++ " \x7d" ∧
    (h.outstanding = [] → h.gate.lanes.size = 0) := by
  have faith := fresh.faithful
  refine ⟨faith.inFlight_le_one, fun _ => faith.outstanding_iff, fun _ => faith.lane_isSome_iff,
    fun _ => faith.isInFlight_iff, ?_, ?_⟩
  · unfold Gate.summary
    rw [faith.size_lanes]
  · intro none
    rw [faith.size_lanes, busyKeys, none]
    rfl

/-- An account that is not locked. -/
def sampleTarget : Target where
  pair := ⟨⟨"100"⟩, ⟨"1"⟩⟩

/-- A mute was lost, so that the unmute behind it has the turn, an impatient mute gave up, and an
endorsement went its own way. -/
def overlap : History :=
  start
    |>.next (.dispatch 0 ⟨.mute⟩ sampleTarget)
    |>.next (.dispatch 1 ⟨.unmute⟩ sampleTarget)
    |>.next (.tryDispatch 2 ⟨.mute⟩ sampleTarget)
    |>.next (.tryDispatch 3 ⟨.endorse⟩ sampleTarget)
    |>.next (.reply 0 (.error (.network "lost")))

/-- The unmute that waits keeps its key in flight, and with the endorsement there are two lanes. -/
theorem overlap_lanes :
    overlap.Fresh ∧ overlap.gate.isInFlight ⟨sampleTarget.pair, .mute⟩ = true ∧
      overlap.gate.summary = "ActionGate \x7b pending_keys: 2, relationships: 1 \x7d" := by
  have fresh : overlap.Fresh := by decide
  obtain ⟨-, -, -, busy, summary, -⟩ := Fresh.lanes_of_outstanding fresh
  have two : overlap.busyKeys.length = 2 := by decide
  refine ⟨fresh, (busy _).2 (by decide), ?_⟩
  rw [summary, two]
  decide

end ProfileControls.Dispatch.History
