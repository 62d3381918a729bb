import Mathlib.Data.List.Perm.Basic
import ProfileControls.Dispatch.Exchange
import ProfileControls.Proofs.Dispatch.Agreement
import ProfileControls.Proofs.Dispatch.Work

/-!
# Exchanges

An exchange carries out at once all that can go on, by following the effects of its gate in their
order. `Tells` says that a history tells the same as an exchange in the midst of this: the history
is served by the exchange's server, its requests in flight are parked or about to reach the line,
the calls that have been handed the turn are about to be woken, and the calls that have ended are
those that were reported. Following one effect is one more step of the history or none
(`Tells.follow`), and it leaves less work ahead, so that the fuel suffices and nothing is left
undone (`followAll_told`).

`Connected` lists what can be done to an exchange. Whatever is done, a history tells of it
(`Connected.told`). So the calls without an outcome wait or are parked (`Connected.stalled`), and
the gate agrees with the server (`Connected.agrees`).
-/

namespace ProfileControls.Dispatch

/-! ## Requests on their way -/

namespace History

variable {h : History} {e : Event} {c : Errand}

/-- An event that starts no call needs no fresh ticket. -/
lemma Fresh.next_old (fresh : h.Fresh) (old : e.newTicket? = none) : (h.next e).Fresh := by
  rw [Fresh, events, List.filterMap_append, List.filterMap_cons_none old, List.filterMap_nil,
    List.append_nil]
  exact fresh

/-- An event that starts a call needs a ticket that no call has had. -/
lemma Fresh.next_new {t : Ticket} (fresh : h.Fresh) (ticket : e.newTicket? = some t)
    (new : t ∉ h.events.filterMap Event.newTicket?) : (h.next e).Fresh := by
  rw [Fresh, events, List.filterMap_append, List.filterMap_cons_some ticket, List.filterMap_nil,
    ← List.concat_eq_append]
  exact List.Nodup.concat new fresh

/-- What goes to the server in a step is in flight after it. -/
lemma Fresh.inFlight_split (fresh : (h.next e).Fresh) :
    (h.next e).inFlight =
      h.inFlight.filter (fun c => c.ticket ∉ (h.endedNow e).map (·.1)) ++ h.sentNow e := by
  have faith := fresh.earlier.faithful
  rw [faith.inFlight_next fresh, List.filter_append]
  congr 1
  rcases (faith.move e).sends_or_ends with none | none
  · rw [sentNow, none, List.filter_nil]
  · rw [endedNow, none, List.filter_eq_self]
    exact fun c _ => rfl

/-- Without a reply, the requests in flight stay in flight. -/
lemma Fresh.filter_unanswered (fresh : (h.next e).Fresh) (other : e.answer? = none) :
    h.inFlight.filter (fun c => c.ticket ∉ (h.endedNow e).map (·.1)) = h.inFlight := by
  have faith := fresh.earlier.faithful
  rw [List.filter_eq_self]
  intro c flying
  rw [decide_eq_true_iff]
  intro ends
  obtain ⟨x, now, same⟩ := List.mem_map.1 ends
  obtain ⟨-, d, call, same'⟩ := (faith.move e).ends_unsent other now
  have arrived := faith.sent c (List.mem_of_mem_filter flying)
  exact fresh.new call (same'.trans same ▸ List.mem_map_of_mem arrived)

end History

/-- A request that is held back is an errand of its call. -/
def Parked.errand (p : Parked) : Errand :=
  ⟨p.ticket, p.request⟩

/-- What a history says of the end of a call. -/
def Ended.ending (e : Ended) : Ticket × Outcome :=
  (e.ticket, e.outcome)

/-- A history tells how an exchange came about that has yet to follow some effects. The tickets are
those of its calls, and the calls that have ended so far are given. -/
structure History.Tells (origin : Server) (h : History) (x : Exchange) (effects : List Effect)
    (tickets : List Ticket) (ended : List Ended) : Prop where
  fresh : h.Fresh
  tickets : h.events.filterMap Event.newTicket? = tickets
  served : h.Served origin x.server
  gate : h.gate = x.gate
  /-- the requests in flight are parked or about to reach the line -/
  inFlight : (x.parked.map Parked.errand ++ effects.filterMap Effect.sent?).Perm h.inFlight
  /-- the calls that have been handed the turn are about to be woken -/
  woken : ∀ {t c}, x.gate.calls.get? t = some c → c.phase = .granted → .woken t ∈ effects
  /-- the calls that have ended were reported or are about to be -/
  ended : h.ended = ended.map Ended.ending ++ effects.filterMap Effect.ending?

namespace History

variable {origin : Server} {h : History} {x x' : Exchange} {e : Event} {effects rest : List Effect}
  {ts : List Ticket} {es : List Ended}

/-- One more event is told after the others. -/
lemma Tells.next (tells : h.Tells origin x effects ts es) (x' : Exchange) (rest : List Effect)
    (fresh : (h.next e).Fresh) (step : ServerStep h x.server (h.next e) x'.server)
    (gate : x'.gate = (x.gate.step e).1)
    (away : (x'.parked.map Parked.errand ++ rest.filterMap Effect.sent?).Perm
      (h.inFlight.filter fun c => c.ticket ∉ (h.endedNow e).map (·.1)))
    (woken : ∀ t, .woken t ∈ effects → .woken t ∈ rest ∨ e = .resume t)
    (ended : rest.filterMap Effect.ending? = effects.filterMap Effect.ending?) :
    (h.next e).Tells origin x' (rest ++ (x.gate.step e).2) (ts ++ e.newTicket?.toList) es := by
  have faith := tells.fresh.faithful
  have now : h.now e = (x.gate.step e).2 := by rw [now, tells.gate]
  have move := faith.move e
  rw [gate_next, now, tells.gate] at move
  constructor
  case fresh => exact fresh
  case tickets =>
    rw [events, List.filterMap_append, tells.tickets]
    cases e <;> rfl
  case served => exact .next tells.served step
  case gate => rw [gate_next, tells.gate, gate]
  case inFlight =>
    rw [fresh.inFlight_split, List.filterMap_append, ← List.append_assoc, sentNow, now]
    exact away.append_right _
  case woken =>
    intro t c call turn
    rw [gate] at call
    rw [List.mem_append]
    rcases move.granted call turn with ⟨c', call', turn'⟩ | now
    · rcases woken t (tells.woken call' turn') with kept | rfl
      · exact .inl kept
      · exact absurd turn (move.not_granted call)
    · exact .inr now
  case ended =>
    rw [ended_next, tells.ended, endedNow, now, List.filterMap_append, ended, List.append_assoc]

/-- A request on its way passes the server. -/
lemma Tells.pass {parked : List Parked} {p : Parked} (tells : h.Tells origin x effects ts es)
    (away : (x.parked.map Parked.errand ++ effects.filterMap Effect.sent?).Perm
      (p.errand :: (parked.map Parked.errand ++ rest.filterMap Effect.sent?)))
    (woken : ∀ t, .woken t ∈ effects → .woken t ∈ rest)
    (ended : rest.filterMap Effect.ending? = effects.filterMap Effect.ending?) :
    (h.next (.reply p.ticket (x.server.perform p.request).1)).Tells origin
      (({ x with parked := parked } : Exchange).passOn p).1
      (rest ++ (({ x with parked := parked } : Exchange).passOn p).2) ts es := by
  have faith := tells.fresh.faithful
  have perm := away.symm.trans tells.inFlight
  have flying : p.errand ∈ h.inFlight := perm.subset List.mem_cons_self
  -- the request is on its way only once
  have once := faith.inFlight_nodup
  rw [← (perm.map _).nodup_iff, List.map_cons, List.nodup_cons] at once
  have others : ∀ c ∈ parked.map Parked.errand ++ rest.filterMap Effect.sent?,
      c.ticket ≠ p.ticket :=
    fun c mem same => once.1 (List.mem_map.2 ⟨c, mem, same⟩)
  have next := tells.next (e := .reply p.ticket (x.server.perform p.request).1)
    (({ x with parked := parked } : Exchange).passOn p).1 rest (tells.fresh.next_old rfl)
    (.pass flying) rfl ?_ (fun t mem => .inl (woken t mem)) ended
  · exact List.append_nil ts ▸ next
  · have now : h.endedNow (.reply p.ticket (x.server.perform p.request).1) =
        [(p.ticket, Reply.outcome (x.server.perform p.request).1)] :=
      faith.endedNow_reply flying _
    have keep := perm.filter fun c => c.ticket ∉ [p.ticket]
    rw [List.filter_cons_of_neg (by simp [Parked.errand]),
      List.filter_eq_self.2 (fun c mem => by simpa using others c mem)] at keep
    rw [now]
    exact keep

/-- A request that is sent while the line is held is parked. -/
lemma Tells.park {t : Ticket} {request : Request}
    (tells : h.Tells origin x (.sent t request :: effects) ts es) :
    h.Tells origin { x with parked := x.parked ++ [⟨t, request⟩] } effects ts es := by
  constructor
  case fresh => exact tells.fresh
  case tickets => exact tells.tickets
  case served => exact tells.served
  case gate => exact tells.gate
  case inFlight =>
    rw [List.map_append, List.append_assoc]
    exact tells.inFlight
  case woken =>
    intro t' c call turn
    exact (List.mem_cons.1 (tells.woken call turn)).resolve_left nofun
  case ended => exact tells.ended

/-- A call that was handed the turn is woken, and its request is about to be sent. -/
lemma Tells.wake {t : Ticket} (tells : h.Tells origin x (.woken t :: effects) ts es) :
    (h.next (.resume t)).Tells origin { x with gate := (x.gate.resume t).1 }
      (effects ++ (x.gate.resume t).2) ts es := by
  have fresh : (h.next (.resume t)).Fresh := tells.fresh.next_old rfl
  have next := tells.next { x with gate := (x.gate.resume t).1 } effects fresh .resume rfl ?_ ?_ rfl
  · exact List.append_nil ts ▸ next
  · rw [fresh.filter_unanswered rfl]
    exact tells.inFlight
  · intro t' mem
    rcases List.mem_cons.1 mem with same | old
    · cases same
      exact .inr rfl
    · exact .inl old

/-- A call that has ended is reported. -/
lemma Tells.report {t : Ticket} {outcome : Outcome}
    (tells : h.Tells origin x (.ended t outcome :: effects) ts es) :
    h.Tells origin x effects ts (es ++ [⟨t, outcome⟩]) := by
  constructor
  case fresh => exact tells.fresh
  case tickets => exact tells.tickets
  case served => exact tells.served
  case gate => exact tells.gate
  case inFlight => exact tells.inFlight
  case woken =>
    intro t' c call turn
    exact (List.mem_cons.1 (tells.woken call turn)).resolve_left nofun
  case ended =>
    rw [tells.ended, List.map_append, List.append_assoc]
    rfl

/-- After an effect is followed, a history still tells how the exchange came about. -/
lemma Tells.follow {f : Effect} (tells : h.Tells origin x (f :: effects) ts es) :
    ∃ h', Tells origin h' (x.follow f).1 (effects ++ (x.follow f).2.1) ts
      (es ++ (x.follow f).2.2) := by
  cases f with
  | sent t request =>
    rw [Exchange.follow]
    split
    case isTrue holds =>
      simp only [List.append_nil]
      exact ⟨h, tells.park⟩
    case isFalse =>
      simp only [List.append_nil]
      exact ⟨_, tells.pass (p := ⟨t, request⟩) List.perm_middle
        (fun t' mem => (List.mem_cons.1 mem).resolve_left nofun) rfl⟩
  | woken t =>
    simp only [Exchange.follow, List.append_nil]
    exact ⟨_, tells.wake⟩
  | ended t outcome =>
    simp only [Exchange.follow, List.append_nil]
    exact ⟨h, tells.report⟩

end History

namespace Exchange

open History (Tells)

/-- What can be done to an exchange whose gate knows nothing at first, and what comes of it: the
exchange, the tickets of its calls, and the calls that have ended. -/
inductive Connected (origin : Server) : Exchange → List Ticket → List Ended → Prop where
  | start :
    Connected origin { server := origin } [] []
  | dispatch {x ts es t approved target} :
    Connected origin x ts es →
    t ∉ ts →
    Connected origin (x.dispatch t approved target).1 (ts ++ [t])
      (es ++ (x.dispatch t approved target).2)
  | tryDispatch {x ts es t approved target} :
    Connected origin x ts es →
    t ∉ ts →
    Connected origin (x.tryDispatch t approved target).1 (ts ++ [t])
      (es ++ (x.tryDispatch t approved target).2)
  | release {x ts es} (position : Nat) :
    Connected origin x ts es →
    Connected origin (x.release position).2.1 ts (es ++ (x.release position).2.2)
  | hold {x ts es} (on : Bool) :
    Connected origin x ts es →
    Connected origin (x.hold on) ts es
  | fail {x ts es} (fault : TransportFault) :
    Connected origin x ts es →
    Connected origin (x.failNext fault) ts es
  /-- the relationship of a pair is fetched from the server -/
  | fetch {x ts es} (p : Pair) :
    Connected origin x ts es →
    Connected origin (x.reconcile p (x.server.relationship p)) ts es

variable {origin : Server} {h : History} {x : Exchange} {effects : List Effect}
  {ts : List Ticket} {es : List Ended}

/-- Following an effect never adds to the work that is left. -/
lemma work_follow (co : x.gate.Coherent) (f : Effect) :
    (x.follow f).2.1.length + (x.follow f).1.gate.work ≤ x.gate.work := by
  cases f with
  | sent t request =>
    rw [follow]
    split
    case isTrue => exact Nat.le_of_eq (Nat.zero_add _)
    case isFalse => exact (co.step_move (.reply t _)).work co rfl
  | woken t => exact (co.step_move (.resume t)).work co rfl
  | ended t outcome => exact Nat.le_of_eq (Nat.zero_add _)

/-- With enough fuel, effects are followed until none is left. -/
theorem followAll_told {fuel : Nat} (enough : effects.length + x.gate.work ≤ fuel)
    (tells : h.Tells origin x effects ts es) :
    ∃ h', Tells origin h' (followAll fuel x effects).1 [] ts
      (es ++ (followAll fuel x effects).2) := by
  induction fuel generalizing h x effects es with
  | zero =>
    have none : effects = [] := List.length_eq_zero_iff.1 (by omega)
    subst none
    rw [followAll, List.append_nil]
    exact ⟨h, tells⟩
  | succ fuel ih =>
    cases effects with
    | nil =>
      show ∃ h', Tells origin h' x [] ts (es ++ [])
      rw [List.append_nil]
      exact ⟨h, tells⟩
    | cons f effects =>
      have less := work_follow (tells.gate ▸ tells.fresh.faithful.coherent) f
      obtain ⟨h', tells'⟩ := tells.follow
      rw [followAll, ← List.append_assoc]
      -- one unit of fuel for the effect, the others come out of the work ahead
      apply ih _ tells'
      rw [List.length_append]
      rw [List.length_cons] at enough
      omega

/-- The fuel suffices for all that can go on. -/
lemma settle_told (tells : h.Tells origin x effects ts es) :
    ∃ h', Tells origin h' (x.settle effects).1 [] ts (es ++ (x.settle effects).2) :=
  followAll_told (Nat.add_le_add_left x.gate.work_le _) tells

/-- After a call arrives, a history still tells how the exchange came about. -/
lemma arrival_told {e : Event} {t : Ticket} (tells : h.Tells origin x [] ts es) (new : t ∉ ts)
    (ticket : e.newTicket? = some t) (other : e.answer? = none)
    (step : h.ServerStep x.server (h.next e) x.server) :
    ∃ h', Tells origin h' (x.after (x.gate.step e)).1 [] (ts ++ [t])
      (es ++ (x.after (x.gate.step e)).2) := by
  have fresh : (h.next e).Fresh := tells.fresh.next_new ticket (tells.tickets ▸ new)
  apply settle_told
  have next := tells.next { x with gate := (x.gate.step e).1 } [] fresh step rfl ?_ ?_ rfl
  · rwa [ticket] at next
  · rw [fresh.filter_unanswered other]
    exact tells.inFlight
  · exact fun t mem => absurd mem List.not_mem_nil

/-- Whatever is done to an exchange, a history tells of it, and nothing is left to follow. -/
theorem Connected.told (connected : Connected origin x ts es) :
    ∃ h, Tells origin h x [] ts es := by
  induction connected with
  | start =>
    refine ⟨.start, ?_⟩
    constructor
    case fresh => exact List.nodup_nil
    case tickets => rfl
    case served => exact .start
    case gate => rfl
    case inFlight => exact .nil
    case woken =>
      intro t c call
      cases call
    case ended => rfl
  | dispatch _ new ih =>
    obtain ⟨h, tells⟩ := ih
    exact arrival_told tells new rfl rfl .dispatch
  | tryDispatch _ new ih =>
    obtain ⟨h, tells⟩ := ih
    exact arrival_told tells new rfl rfl .tryDispatch
  | @release x ts es position _ ih =>
    obtain ⟨h, tells⟩ := ih
    rw [Exchange.release]
    cases found : x.parked[position]? with
    | none =>
      simp only [List.append_nil]
      exact ⟨h, tells⟩
    | some p =>
      obtain ⟨inside, rfl⟩ := List.getElem?_eq_some_iff.1 found
      apply settle_told
      refine tells.pass ?_ (fun t mem => mem) rfl
      have split := (List.getElem_cons_eraseIdx_perm inside).symm.map Parked.errand
      exact split.append_right _
  | hold on _ ih =>
    obtain ⟨h, tells⟩ := ih
    exact ⟨h, { tells with }⟩
  | fail fault _ ih =>
    obtain ⟨h, tells⟩ := ih
    exact ⟨h, { tells with served := .next tells.served .fail }⟩
  | @fetch x ts es p _ ih =>
    obtain ⟨h, tells⟩ := ih
    have fresh : (h.next (.reconcile p (x.server.relationship p))).Fresh := tells.fresh.next_old rfl
    have next := tells.next (x.reconcile p (x.server.relationship p)) [] fresh .fetch rfl ?_
      (fun t mem => .inl mem) rfl
    · exact ⟨_, List.append_nil ts ▸ next⟩
    · rw [fresh.filter_unanswered rfl]
      exact tells.inFlight

/-- With no effects left to follow, what is in flight is parked. -/
lemma parked_of_inFlight (tells : h.Tells origin x [] ts es) {c : Errand}
    (flying : c ∈ h.inFlight) : ∃ q ∈ x.parked, q.errand = c := by
  have way := tells.inFlight.symm.subset flying
  rw [List.filterMap_nil, List.append_nil] at way
  exact List.mem_map.1 way

/-- Nothing is left undone: a call without an outcome waits for its turn, or its request is
parked. -/
theorem Connected.stalled (connected : Connected origin x ts es) {t : Ticket} {c : Call}
    (call : x.gate.calls.get? t = some c) :
    c.phase = .waiting ∨ ⟨t, c.request⟩ ∈ x.parked := by
  obtain ⟨h, tells⟩ := connected.told
  obtain ⟨request, k, phase⟩ := c
  cases phase with
  | waiting => exact .inl rfl
  | granted => exact absurd (tells.woken call rfl) List.not_mem_nil
  | running =>
    have flying : ⟨t, request⟩ ∈ h.inFlight :=
      tells.fresh.faithful.inFlight_iff.2 ⟨k, tells.gate ▸ call⟩
    obtain ⟨⟨t', request'⟩, parked, same⟩ := parked_of_inFlight tells flying
    cases same
    exact .inr parked

/-- The gate of an exchange agrees with its server on what is confirmed of a pair, if anything is,
and on what is shown while no request of the pair is parked. -/
theorem Connected.agrees (connected : Connected origin x ts es) (p : Pair) :
    (x.gate.confirmed p = none ∨ x.gate.confirmed p = some (x.server.relationship p)) ∧
    ((∀ q ∈ x.parked, q.request.target.pair ≠ p) →
      x.gate.shown p = none ∨ x.gate.shown p = some (x.server.relationship p)) := by
  obtain ⟨h, tells⟩ := connected.told
  have agrees := tells.served.agrees tells.fresh p
  rw [← tells.gate]
  constructor
  · rw [tells.fresh.gate_confirmed]
    exact agrees
  · intro none
    have idle : ∀ c ∈ h.inFlight, c.isOf p = false := by
      intro c flying
      obtain ⟨q, parked, rfl⟩ := parked_of_inFlight tells flying
      exact decide_eq_false (none q parked)
    rw [tells.fresh.shown_idle idle]
    exact agrees

end Exchange

end ProfileControls.Dispatch
