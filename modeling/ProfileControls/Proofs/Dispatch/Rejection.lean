import ProfileControls.Proofs.Dispatch.Exchange
import ProfileControls.Proofs.Dispatch.Lanes
import ProfileControls.Proofs.Dispatch.Projection

/-!
# Calls that are turned down

Two kinds of calls are answered without a request to the server: those for actions that change no
relationship, and impatient ones that would have to wait for their turn. An impatient call has
entered its lane before it finds the turn taken, and leaves it like any other call, so that it might
take the lane away from those who are in it. It does not. A call that is turned down leaves the gate
as it was (`TurnsDown.step`), and from then on everything happens as if it had not come
(`Fresh.turnedDown`).

What an onlooker makes of a history follows from its gate and from what has been sent
(`Faithful.alike`), so that only the answer is left to tell two such histories apart.
-/

namespace ProfileControls.Dispatch

/-- The end of a call leads to nothing else. -/
lemma Exchange.settle_ended (x : Exchange) (t : Ticket) (outcome : Outcome) :
    x.settle [.ended t outcome] = (x, [⟨t, outcome⟩]) := by
  have rest : ∀ fuel, followAll fuel x [] = (x, []) := by
    intro fuel
    cases fuel <;> rfl
  rw [settle, List.length_singleton, Nat.add_comm, followAll, follow]
  simp only [List.append_nil, rest]

namespace History

/-- The history with more events. -/
def after (h : History) (es : List Event) : History :=
  es.foldl next h

/-- The call that an event starts is turned down with an error. -/
inductive TurnsDown (h : History) : Event → Errand → DispatchError → Prop where
  /-- its action changes no relationship, whatever is outstanding -/
  | unrelated {e c} :
    e.errand? = some c →
    c.request.action.field = none →
    TurnsDown h e c (.notRelational c.request.action)
  /-- it is impatient, and some call on its key is in flight or waits -/
  | inFlight {t approved target field} :
    approved.action.field = some field →
    (∃ c ∈ h.outstanding, c.isOn ⟨target.pair, field⟩) →
    TurnsDown h (.tryDispatch t approved target) ⟨t, target, approved.action⟩ .inFlight

/-- The two histories have left the same behind: the gate, what has gone to the server, and which
calls are outstanding, in flight and waiting. -/
structure Alike (h h' : History) : Prop where
  gate : h'.gate = h.gate
  sent : h'.sent = h.sent
  outstanding : h'.outstanding = h.outstanding
  inFlight : h'.inFlight = h.inFlight
  waiting : h'.waiting = h.waiting

/-- The call that an event starts is answered with an error, and that is all that comes of it. -/
structure Traceless (h : History) (e : Event) (t : Ticket) (error : DispatchError) : Prop where
  answer : h.now e = [.ended t (.error error)]
  /-- The gate is as it was: its lanes with their queues and counts, its calls and its store. -/
  gate : (h.next e).gate = h.gate
  /-- Whatever comes next, the same is left behind and brought about as without the call. -/
  unaffected : ∀ es, ((h.next e).after es).Fresh →
    (h.after es).Alike ((h.next e).after es) ∧
      ∃ later, (h.after es).effects = h.effects ++ later ∧
        ((h.next e).after es).effects = h.effects ++ .ended t (.error error) :: later
  /-- A server that the gate is connected to, and the line between them, do not notice the call. -/
  exchange : ∀ x : Exchange, x.gate = h.gate →
    x.after (x.gate.step e) = (x, [⟨t, .error error⟩])

variable {h h' past : History} {e : Event} {c : Errand} {error : DispatchError}

/-! ## Longer histories -/

/-- The events of a longer history are the earlier ones and then the others. -/
lemma events_after (h : History) (es : List Event) : (h.after es).events = h.events ++ es := by
  induction es generalizing h with
  | nil => exact (List.append_nil _).symm
  | cons e es ih =>
    show ((h.next e).after es).events = _
    rw [ih, events, List.append_assoc]
    rfl

/-- A longer history goes on from the gate and the effects of the shorter one. -/
lemma run_after (h : History) (es : List Event) :
    (h.after es).gate = (h.gate.run es).1 ∧
      (h.after es).effects = h.effects ++ (h.gate.run es).2 := by
  rw [gate, effects, events_after, run_append]
  exact ⟨rfl, rfl⟩

/-- The last of the events that are added may be added by itself. -/
lemma after_concat (h : History) (es : List Event) (e : Event) :
    h.after (es ++ [e]) = (h.after es).next e :=
  List.foldl_concat next h e es

/-- Histories without repeated tickets stay so if an event is taken out. -/
lemma Fresh.without {es : List Event} (fresh : ((h.next e).after es).Fresh) :
    (h.after es).Fresh := by
  rw [Fresh, events_after] at fresh ⊢
  have fewer : (h.events ++ es).Sublist ((h.next e).events ++ es) :=
    (List.sublist_append_left _ _).append_right es
  exact fresh.sublist (fewer.filterMap _)

/-! ## What tells histories apart -/

/-- Faithful histories with the same gate and the same requests sent have left the same behind. -/
lemma Faithful.alike (faith : h.Faithful) (faith' : h'.Faithful) (gate : h'.gate = h.gate)
    (sent : h'.sent = h.sent) : h.Alike h' := by
  have outstanding : h'.outstanding = h.outstanding := by
    rw [← faith'.pending, gate, faith.pending]
  have flying : ∀ c, c ∈ h'.inFlight ↔ c ∈ h.inFlight := by
    intro c
    rw [faith'.inFlight_iff, gate, faith.inFlight_iff]
  constructor
  case gate => exact gate
  case sent => exact sent
  case outstanding => exact outstanding
  case inFlight =>
    rw [History.inFlight, History.inFlight, sent]
    apply List.filter_congr
    intro c mem
    have same := flying c
    rw [History.inFlight, History.inFlight, List.mem_filter, List.mem_filter, sent,
      and_iff_right mem, and_iff_right mem] at same
    exact Bool.eq_iff_iff.2 same
  case waiting => rw [History.waiting, History.waiting, outstanding, sent]

/-! ## Turning down -/

namespace TurnsDown

/-- To turn a call down is a move that leaves the gate as it is. -/
lemma move (down : h.TurnsDown e c error) (faith : h.Faithful) :
    h.gate.Move e h.gate [.ended c.ticket (.error error)] := by
  cases down with
  | unrelated call free => exact .unrelated call (Option.map_eq_none_iff.2 free)
  | inFlight bound busy =>
    exact .refuse (Option.map_eq_some_iff.2 ⟨_, bound, rfl⟩) (faith.line_ne_nil_iff.2 busy)

/-- A call that is turned down leaves the gate as it is and ends at once. -/
lemma step (down : h.TurnsDown e c error) (faith : h.Faithful) :
    h.gate.step e = (h.gate, [.ended c.ticket (.error error)]) := by
  obtain ⟨gate, effects⟩ := (faith.coherent.step_move e).unique (down.move faith)
  exact Prod.ext gate effects

end TurnsDown

/-- A call whose request is with the server has been sent. -/
lemma Faithful.sent_of_running (faith : past.Faithful) {t request k}
    (call : past.gate.calls.get? t = some ⟨request, k, .running⟩) :
    t ∈ past.sent.map (·.ticket) := by
  have flying : ⟨t, request⟩ ∈ past.inFlight := faith.inFlight_iff.2 ⟨k, call⟩
  exact List.mem_map_of_mem (List.mem_of_mem_filter flying)

/-- A call that ends without having been sent is turned down, and has only just arrived. -/
lemma Faithful.turnsDown (faith : past.Faithful) {x : Ticket × Outcome}
    (ends : x ∈ past.endedNow e) (unsent : x.1 ∉ past.sent.map (·.ticket)) :
    ∃ c error, past.TurnsDown e c error ∧ x = (c.ticket, .error error) := by
  have move := faith.move e
  rw [endedNow] at ends
  generalize past.now e = fs at move ends
  generalize (past.next e).gate = g' at move
  cases move with
  | unrelated call free =>
    cases List.mem_singleton.1 ends
    exact ⟨_, _, .unrelated call (Option.map_eq_none_iff.1 free), rfl⟩
  | refuse key busy =>
    cases List.mem_singleton.1 ends
    obtain ⟨field, bound, rfl⟩ := Option.map_eq_some_iff.1 key
    exact ⟨_, _, .inFlight bound (faith.line_ne_nil_iff.1 busy), rfl⟩
  | finish call | handOver call =>
    cases List.mem_singleton.1 ends
    exact absurd (faith.sent_of_running call) unsent
  | _ => cases ends

/-- A call that is turned down leaves no trace. -/
lemma TurnsDown.traceless (down : h.TurnsDown e c error) (fresh : h.Fresh) :
    h.Traceless e c.ticket error := by
  have step := down.step fresh.faithful
  have gate : (h.next e).gate = h.gate := by rw [gate_next, step]
  have answer : h.now e = [.ended c.ticket (.error error)] := by rw [now, step]
  constructor
  case answer => exact answer
  case gate => exact gate
  case unaffected =>
    intro es fresh'
    obtain ⟨ends, effects⟩ := h.run_after es
    obtain ⟨ends', effects'⟩ := (h.next e).run_after es
    rw [gate] at ends' effects'
    rw [effects_next, answer, List.append_assoc] at effects'
    have sent : ((h.next e).after es).sent = (h.after es).sent := by
      rw [History.sent, effects', History.sent, effects, List.filterMap_append,
        List.filterMap_append, List.filterMap_append]
      rfl
    have alike := fresh'.without.faithful.alike fresh'.faithful (ends'.trans ends.symm) sent
    exact ⟨alike, _, effects, effects'⟩
  case exchange =>
    intro x same
    rw [Exchange.after, same, step, ← same]
    exact x.settle_ended _ _

/-- A call that has ended and was never sent was turned down when it arrived. -/
lemma Fresh.turnsDown_of_unsent (fresh : h.Fresh) {x : Ticket × Outcome} (ended : x ∈ h.ended)
    (unsent : x.1 ∉ h.sent.map (·.ticket)) :
    ∃ past e es c error, h = after (next past e) es ∧ past.TurnsDown e c error ∧
      x = (c.ticket, .error error) := by
  induction h with
  | start => cases ended
  | next past e ih =>
    rw [sent_next, List.map_append, List.mem_append, not_or] at unsent
    rw [ended_next] at ended
    rcases List.mem_append.1 ended with old | now
    · obtain ⟨past', e', es, c, error, rfl, down, same⟩ := ih fresh.earlier old unsent.1
      exact ⟨past', e', es ++ [e], c, error, (after_concat _ _ _).symm, down, same⟩
    · obtain ⟨c, error, down, same⟩ := fresh.earlier.faithful.turnsDown now unsent.1
      exact ⟨past, e, [], c, error, rfl, down, same⟩

/-- A call that ends without ever having been sent was turned down when it arrived, and a call that
is turned down leaves no trace. -/
theorem Fresh.turnedDown (fresh : h.Fresh) :
    (∀ x ∈ h.ended, x.1 ∉ h.sent.map (·.ticket) → ∃ past e es c error,
      h = after (next past e) es ∧ past.TurnsDown e c error ∧ x = (c.ticket, .error error)) ∧
    ∀ e c error, h.TurnsDown e c error → h.Traceless e c.ticket error :=
  ⟨fun _ => fresh.turnsDown_of_unsent, fun _ _ _ down => down.traceless fresh⟩

/-- The impatient mute was turned down, and so would be another one and a report. -/
theorem overlap_turnedDown :
    overlap.Fresh ∧
      (∃ past e es c, overlap = after (next past e) es ∧ past.TurnsDown e c .inFlight ∧
        c.ticket = 2) ∧
      overlap.Traceless (.tryDispatch 9 ⟨.mute⟩ sampleTarget) 9 .inFlight ∧
      overlap.Traceless (.dispatch 9 ⟨.report⟩ sampleTarget) 9 (.notRelational .report) := by
  have fresh : overlap.Fresh := by decide
  obtain ⟨unsent, traceless⟩ := Fresh.turnedDown fresh
  obtain ⟨past, e, es, c, error, whole, down, same⟩ :=
    unsent (2, .error .inFlight) (by decide) (by decide)
  obtain ⟨ticket, outcome⟩ := Prod.mk.inj same
  cases outcome
  have busy : ∃ c ∈ overlap.outstanding, c.isOn ⟨sampleTarget.pair, .mute⟩ := by decide
  exact ⟨fresh, ⟨past, e, es, c, whole, down, ticket.symm⟩,
    traceless _ _ _ (.inFlight rfl busy),
    traceless _ ⟨9, sampleTarget, .report⟩ _ (.unrelated rfl rfl)⟩

end History

end ProfileControls.Dispatch
