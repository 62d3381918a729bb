import ProfileControls.Proofs.Dispatch.Lanes
import ProfileControls.Proofs.Dispatch.Projection

/-!
# Isolation of pairs

All pairs share the tables of one gate, and still no pair can tell whether there are others: if all
that is about other pairs is taken out of a history (`History.only`), everything that can be
observed of the pair stays as it is (`Fresh.isolated`). Other pairs here are all but the one, so
also the pair with viewer and subject exchanged, other subjects of the same viewer, and other
viewers of the same subject. As the theorem is about any history, it speaks of every moment of a
longer one.

The invariant is that the gate of the smaller history is the part of the gate that is about the
pair, and the step is that moves are moves of this part or leave it alone.
-/

namespace ProfileControls.Dispatch.History

/-- The pair of a call that has arrived. -/
def pairOf? (h : History) (t : Ticket) : Option Pair :=
  (h.arrived.find? (·.ticket = t)).map (·.request.target.pair)

/-- The pair that an event is about. What happens to a call is about the pair of the call. -/
def about (h : History) : Event → Option Pair
  | .dispatch _ _ target | .tryDispatch _ _ target => some target.pair
  | .resume t | .reply t _ => h.pairOf? t
  | .reconcile q _ => some q

/-- The history without what is about other pairs. -/
def only (p : Pair) : History → History
  | start => start
  | next past e => if (past.about e).all (· = p) then (past.only p).next e else past.only p

variable {h past : History} {e : Event} {p : Pair}

/-! ## Pairs of calls -/

/-- The ticket of a call that has arrived tells its pair. -/
lemma Fresh.pairOf?_eq (fresh : h.Fresh) {c : Errand} (arrived : c ∈ h.arrived) :
    h.pairOf? c.ticket = some c.request.target.pair := by
  have nodup : (h.arrived.map (·.ticket)).Nodup := by
    rw [tickets_arrived]
    exact fresh
  obtain ⟨d, found⟩ := Option.isSome_iff_exists.1
    (List.find?_isSome.2 ⟨c, arrived, decide_eq_true rfl⟩ :
      (h.arrived.find? (·.ticket = c.ticket)).isSome)
  have ticket : d.ticket = c.ticket := by simpa using List.find?_some found
  have same : d = c :=
    List.inj_on_of_nodup_map nodup (List.mem_of_find?_eq_some found) arrived ticket
  rw [pairOf?, found, same, Option.map_some]

/-- An event that starts a call is about the pair of the call. -/
lemma about_of_errand {c : Errand} (call : e.errand? = some c) :
    past.about e = some c.request.target.pair := by
  cases e with
  | dispatch t approved target =>
    cases call
    rfl
  | tryDispatch t approved target =>
    cases call
    rfl
  | _ => cases call

/-- The gate and the onlooker agree on what an event is about, as far as the gate can tell. -/
lemma Fresh.about_eq (fresh : past.Fresh) {q : Pair} (known : past.gate.pair? e = some q) :
    past.about e = some q := by
  have told : ∀ {t c}, past.gate.calls.get? t = some c →
      past.pairOf? t = some c.request.target.pair := by
    intro t c call
    have pending : (⟨t, c.request⟩ : Errand) ∈ past.gate.pending :=
      Gate.mem_pending.2 ⟨c, call, rfl⟩
    rw [fresh.faithful.pending] at pending
    exact fresh.pairOf?_eq (List.mem_of_mem_filter pending)
  cases e with
  | dispatch t approved target => exact known
  | tryDispatch t approved target => exact known
  | resume t =>
    obtain ⟨c, call, rfl⟩ := Option.map_eq_some_iff.1 known
    exact told call
  | reply t r =>
    obtain ⟨c, call, rfl⟩ := Option.map_eq_some_iff.1 known
    exact told call
  | reconcile q r => exact known

/-- What is brought about by an event is about the pair that the event is about. -/
lemma Fresh.pairOf?_now (fresh : (past.next e).Fresh) {f : Effect} (mem : f ∈ past.now e) :
    ∃ c ∈ (past.next e).arrived, c.ticket = f.ticket ∧
      past.gate.pair? e = some c.request.target.pair := by
  have faith := fresh.earlier.faithful
  obtain ⟨c, there, same, pair⟩ := (faith.move e).about faith.coherent mem
  exact ⟨c, faith.arrived_of_mem there, same, pair⟩

/-- Every effect is about a call that has arrived. -/
lemma Fresh.arrived_of_effect (fresh : h.Fresh) {f : Effect} (mem : f ∈ h.effects) :
    ∃ c ∈ h.arrived, c.ticket = f.ticket := by
  induction h with
  | start => cases mem
  | next past e ih =>
    rw [effects_next] at mem
    rcases List.mem_append.1 mem with old | now
    · obtain ⟨c, arrived, same⟩ := ih fresh.earlier old
      rw [arrived_next]
      exact ⟨c, List.mem_append_left _ arrived, same⟩
    · obtain ⟨c, arrived, same, -⟩ := fresh.pairOf?_now now
      exact ⟨c, arrived, same⟩

/-- The pair of a call stays. -/
lemma Fresh.pairOf?_next (fresh : (past.next e).Fresh) {f : Effect} (mem : f ∈ past.effects) :
    (past.next e).pairOf? f.ticket = past.pairOf? f.ticket := by
  obtain ⟨c, arrived, same⟩ := fresh.earlier.arrived_of_effect mem
  have later : c ∈ (past.next e).arrived := by
    rw [arrived_next]
    exact List.mem_append_left _ arrived
  rw [← same, fresh.pairOf?_eq later, fresh.earlier.pairOf?_eq arrived]

/-! ## The smaller history -/

/-- What is about the pair stays in the smaller history. -/
lemma only_next_own (own : (past.about e).all (· = p) = true) :
    (past.next e).only p = (past.only p).next e :=
  if_pos own

/-- What is about another pair is left out. -/
lemma only_next_other (other : ¬ (past.about e).all (· = p) = true) :
    (past.next e).only p = past.only p :=
  if_neg other

/-- The events of the smaller history are some of those of the larger one, in the same order. -/
lemma events_only_sublist (h : History) (p : Pair) : (h.only p).events.Sublist h.events := by
  induction h with
  | start => exact .slnil
  | next past e ih =>
    by_cases own : (past.about e).all (· = p) = true
    · rw [only_next_own own]
      exact ih.append (.refl _)
    · rw [only_next_other own]
      exact ih.trans (List.sublist_append_left _ _)

/-- In the smaller history the tickets are fresh too. -/
lemma Fresh.only (fresh : h.Fresh) (p : Pair) : (h.only p).Fresh :=
  fresh.sublist ((h.events_only_sublist p).filterMap _)

/-- In the smaller history the calls of the pair arrive. -/
lemma arrived_only (h : History) (p : Pair) :
    (h.only p).arrived = h.arrived.filter (·.isOf p) := by
  induction h with
  | start => rfl
  | next past e ih =>
    rw [arrived_next, List.filter_append, ← ih]
    by_cases own : (past.about e).all (· = p) = true
    · rw [only_next_own own, arrived_next]
      congr 1
      cases call : e.errand? with
      | none => rfl
      | some c =>
        rw [about_of_errand call] at own
        exact (List.filter_eq_self.2 (by simpa [Errand.isOf] using own)).symm
    · rw [only_next_other own]
      cases call : e.errand? with
      | none => exact (List.append_nil _).symm
      | some c =>
        rw [about_of_errand call] at own
        have gone : [c].filter (·.isOf p) = [] := by simpa [Errand.isOf] using own
        rw [Option.toList_some, gone, List.append_nil]

/-- All that an event of the pair brings about is about the pair. -/
lemma Fresh.filter_now_own (fresh : (past.next e).Fresh)
    (own : ∀ q, past.gate.pair? e = some q → q = p) :
    (past.now e).filter (fun f => (past.next e).pairOf? f.ticket = some p) = past.now e := by
  rw [List.filter_eq_self]
  intro f mem
  obtain ⟨c, arrived, same, known⟩ := fresh.pairOf?_now mem
  rw [← same, fresh.pairOf?_eq arrived, own _ known]
  exact decide_eq_true rfl

/-- Nothing that an event of another pair brings about is about the pair. -/
lemma Fresh.filter_now_other (fresh : (past.next e).Fresh)
    (other : past.gate.pair? e ≠ some p) :
    (past.now e).filter (fun f => (past.next e).pairOf? f.ticket = some p) = [] := by
  rw [List.filter_eq_nil_iff]
  intro f mem own
  obtain ⟨c, arrived, same, known⟩ := fresh.pairOf?_now mem
  rw [← same, fresh.pairOf?_eq arrived, ← known] at own
  exact other (of_decide_eq_true own)

/-- The gate of the smaller history is the part of the gate that is about the pair, and it brings
about what is about the pair. -/
lemma Fresh.gate_only (fresh : h.Fresh) (p : Pair) :
    (h.only p).gate = h.gate.onPair p ∧
      (h.only p).effects = h.effects.filter fun f => h.pairOf? f.ticket = some p := by
  induction h with
  | start => exact ⟨rfl, rfl⟩
  | next past e ih =>
    obtain ⟨gate, effects⟩ := ih fresh.earlier
    have faith := fresh.earlier.faithful
    have move := faith.move e
    have before : past.effects.filter (fun f => (past.next e).pairOf? f.ticket = some p) =
        (past.only p).effects := by
      rw [effects]
      refine List.filter_congr fun f mem => ?_
      rw [fresh.pairOf?_next mem]
    rw [effects_next, List.filter_append, before]
    by_cases own : (past.about e).all (· = p) = true
    · -- the event happens to both gates, and the smaller one has no other move than the part has
      have mine : ∀ q, past.gate.pair? e = some q → q = p := fun q known => by
        rw [fresh.earlier.about_eq known] at own
        simpa using own
      have small : ((past.only p).next e).Fresh := only_next_own own ▸ fresh.only p
      have part := (gate ▸ small.earlier.faithful.move e :
        (past.gate.onPair p).Move e ((past.only p).next e).gate ((past.only p).now e))
      obtain ⟨sameGate, sameEffects⟩ :=
        part.unique (move.onPair faith.coherent (faith.new fresh) mine)
      rw [only_next_own own, effects_next, sameEffects, fresh.filter_now_own mine]
      exact ⟨sameGate, rfl⟩
    · -- the event does not happen to the smaller gate, and the part does not notice it
      have others : past.gate.pair? e ≠ some p := fun known => own (by
        rw [fresh.earlier.about_eq known]
        exact decide_eq_true rfl)
      rw [only_next_other own, fresh.filter_now_other others, List.append_nil]
      exact ⟨gate.trans (move.onPair_of_other faith.coherent (faith.new fresh) others).symm, rfl⟩

/-! ## What can be observed -/

/-- In the smaller history the requests of the pair are sent. -/
lemma Fresh.sent_only (fresh : h.Fresh) (p : Pair) :
    (h.only p).sent = h.sent.filter (·.isOf p) := by
  have faith := fresh.faithful
  rw [sent, (fresh.gate_only p).2, List.filterMap_filter, sent, List.filter_filterMap]
  refine List.filterMap_congr fun f mem => ?_
  cases f with
  | sent t request =>
    have arrived : (⟨t, request⟩ : Errand) ∈ h.arrived :=
      faith.sent _ (List.mem_filterMap.2 ⟨_, mem, rfl⟩)
    have pair : h.pairOf? t = some request.target.pair := fresh.pairOf?_eq arrived
    show (if decide (h.pairOf? t = some p) = true then some (⟨t, request⟩ : Errand) else none) = _
    rw [pair]
    simp [Effect.sent?, Errand.isOf, Option.filter_some]
  | woken t => simp [Effect.sent?]
  | ended t outcome => simp [Effect.sent?]

/-- In the smaller history the calls of the pair end, with the same outcomes. -/
lemma Fresh.ended_only (fresh : h.Fresh) (p : Pair) :
    (h.only p).ended = h.ended.filter fun x => h.pairOf? x.1 = some p := by
  rw [ended, (fresh.gate_only p).2, List.filterMap_filter, ended, List.filter_filterMap]
  refine List.filterMap_congr fun f _ => ?_
  cases f with
  | ended t outcome =>
    show _ = Option.filter _ (some (t, outcome))
    rw [Option.filter_some]
    rfl
  | sent t request => simp [Effect.ending?]
  | woken t => simp [Effect.ending?]

/-- Everything that can be observed of a pair is the same without what is about other pairs: what is
shown of it, whether its fields are in flight, the calls on it, and all that is brought about for
them in order, hence the requests that go to the server and the outcomes of the calls. -/
theorem Fresh.isolated (fresh : h.Fresh) (p : Pair) :
    (h.only p).Fresh ∧
    (h.only p).gate.shown p = h.gate.shown p ∧
    (∀ field, (h.only p).gate.isInFlight ⟨p, field⟩ = h.gate.isInFlight ⟨p, field⟩) ∧
    (h.only p).arrived = h.arrived.filter (·.isOf p) ∧
    (h.only p).effects = h.effects.filter (fun f => h.pairOf? f.ticket = some p) ∧
    (h.only p).sent = h.sent.filter (·.isOf p) ∧
    (h.only p).ended = h.ended.filter (fun x => h.pairOf? x.1 = some p) := by
  obtain ⟨gate, effects⟩ := fresh.gate_only p
  refine ⟨fresh.only p, ?_, ?_, h.arrived_only p, effects, fresh.sent_only p, fresh.ended_only p⟩
  · rw [gate, Gate.shown_onPair]
  · intro field
    rw [gate]
    exact Gate.isInFlight_onPair rfl

/-- The viewer and the subject of the sample target, exchanged. -/
def mirroredTarget : Target where
  pair := ⟨⟨"1"⟩, ⟨"100"⟩⟩

/-- Two accounts mute each other and take it back. The first mute is granted and the unmute behind
it has the turn, the second is lost and the unmute behind it has gone to the server. -/
def mirrored : History :=
  start
    |>.next (.dispatch 0 ⟨.mute⟩ sampleTarget)
    |>.next (.dispatch 1 ⟨.mute⟩ mirroredTarget)
    |>.next (.dispatch 2 ⟨.unmute⟩ mirroredTarget)
    |>.next (.dispatch 3 ⟨.unmute⟩ sampleTarget)
    |>.next (.reply 1 (.error (.network "lost")))
    |>.next (.resume 2)
    |>.next (.reply 0 (.ok (Relationship.unrelated.after .mute false)))

/-- What the one account does is the same without what the other account does. -/
theorem mirrored_isolated :
    mirrored.Fresh ∧
      (mirrored.only sampleTarget.pair).gate.shown sampleTarget.pair =
        some (Relationship.unrelated.after .mute false) ∧
      (mirrored.only sampleTarget.pair).gate.isInFlight ⟨sampleTarget.pair, .mute⟩ = true ∧
      (mirrored.only sampleTarget.pair).sent = [⟨0, sampleTarget, .mute⟩] := by
  have fresh : mirrored.Fresh := by decide
  obtain ⟨-, shown, inFlight, -, -, sent, -⟩ := Fresh.isolated fresh sampleTarget.pair
  rw [shown, inFlight, sent]
  refine ⟨fresh, ?_, ?_, ?_⟩ <;> decide

end ProfileControls.Dispatch.History
