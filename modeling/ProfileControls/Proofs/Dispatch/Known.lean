import ProfileControls.Proofs.Dispatch.Coherence

/-!
# What is known of a pair

A gate keeps an entry for each pair. The laws here say what becomes of it: only news from the server
about the pair and requests of the pair that are sent touch it, and no event has both of them
(`Move.known`).
-/

namespace ProfileControls.Dispatch

/-- The errand concerns the pair. -/
def Errand.isOf (p : Pair) (c : Errand) : Bool :=
  c.request.target.pair = p

/-- The relationship that comes of the errand if the server agrees. -/
def Errand.predict (r : Relationship) (c : Errand) : Relationship :=
  r.after c.request.action c.request.target.locked

/-- The entry after news from the server. -/
def Entry.told (entry : Entry) : Reply → Entry
  | .ok r => .settled r
  | .error _ => entry.rolledBack

namespace Gate

/-- What is known of a pair. -/
def known (g : Gate) (p : Pair) : Entry :=
  (g.store.get? p).getD {}

/-- What the server says about a pair in an event. -/
def news (g : Gate) (p : Pair) : Event → Option Reply
  | .reconcile q r => if q = p then some (.ok r) else none
  | .reply t r =>
    if (g.calls.get? t).any fun c => c.phase = .running && c.request.target.pair = p then some r
    else none
  | .dispatch _ _ _ | .tryDispatch _ _ _ | .resume _ => none

variable {g : Gate} {p : Pair}

/-! ## What is known of a pair -/

/-- What is shown of a pair is part of what is known. -/
lemma shown_eq (g : Gate) (p : Pair) : g.shown p = (g.known p).shown := by
  rw [shown, known]
  cases g.store.get? p <;> rfl

/-- What is confirmed of a pair is part of what is known. -/
lemma confirmed_eq (g : Gate) (p : Pair) : g.confirmed p = (g.known p).confirmed := by
  rw [confirmed, known]
  cases g.store.get? p <;> rfl

/-- A lane makes no difference to what is known. -/
@[simp] lemma known_withLane (g : Gate) (k : LaneKey) (l : Lane) (p : Pair) :
    (g.withLane k l).known p = g.known p := rfl

/-- Nor does a lane that is gone. -/
@[simp] lemma known_withoutLane (g : Gate) (k : LaneKey) (p : Pair) :
    (g.withoutLane k).known p = g.known p := rfl

/-- A call makes no difference to what is known. -/
@[simp] lemma known_withCall (g : Gate) (t : Ticket) (c : Call) (p : Pair) :
    (g.withCall t c).known p = g.known p := rfl

/-- Nor does a call that is gone. -/
@[simp] lemma known_withoutCall (g : Gate) (t : Ticket) (p : Pair) :
    (g.withoutCall t).known p = g.known p := rfl

/-- What is known of a pair after something is put down about a pair. -/
lemma known_put (g : Gate) (p q : Pair) (entry : Entry) :
    known { g with store := g.store.put q entry } p = if p = q then entry else g.known p := by
  rw [known, Table.get?_put]
  split <;> rfl

/-- A request changes what is expected of its own pair. -/
lemma known_expect (g : Gate) (request : Request) (p : Pair) :
    (g.expect request).known p =
      if p = request.target.pair then (g.known p).expecting request else g.known p := by
  rw [expect, known_put]
  split
  case isTrue same => rw [same, known]
  case isFalse => rfl

/-- News about a pair change what is known of that pair alone, and if nothing is known, a failure
changes nothing. -/
lemma known_settle (g : Gate) (q : Pair) (r : Reply) (p : Pair) :
    (g.settle q r).known p = if p = q then (g.known p).told r else g.known p := by
  cases r with
  | ok r => exact known_put g p q _
  | error fault =>
    cases there : g.store.get? q with
    | none =>
      simp only [settle, there]
      split
      case isTrue same =>
        rw [same, known, there]
        rfl
      case isFalse => rfl
    | some entry =>
      simp only [settle, there, known_put]
      split
      case isTrue same =>
        rw [same, known, there]
        rfl
      case isFalse => rfl

/-! ## News and requests -/

/-- A call that arrives is no news. -/
lemma news_arrival {e c} (arrives : e.errand? = some c) : g.news p e = none := by
  cases e <;> cases arrives <;> rfl

/-- A reply to nothing in flight is no news. -/
lemma news_stray {t} (stray : ∀ request k, g.calls.get? t ≠ some ⟨request, k, .running⟩)
    (r : Reply) : g.news p (.reply t r) = none := by
  have idle := isRunning_of_stray stray
  rw [isRunning] at idle
  cases call : g.calls.get? t <;> simp_all [news]

/-- What is known of a pair after a move: it changes by the news about the pair, or else by the
requests of the pair that are sent. -/
theorem Move.known {e g' fs} (m : g.Move e g' fs) (p : Pair) :
    g'.known p =
      match g.news p e with
      | some r => (g.known p).told r
      | none => ((fs.filterMap Effect.sent?).filter (·.isOf p)).foldl
          (fun entry c => entry.expecting c.request) (g.known p) := by
  cases m with
  | unrelated arrives => simp [news_arrival arrives, List.filterMap_cons, Effect.sent?]
  | @start e t request k arrives =>
    rw [news_arrival arrives, known_expect, known_withCall, known_withLane]
    by_cases same : request.target.pair = p
    · simp [Effect.sent?, Errand.isOf, same]
    · simp [Effect.sent?, Errand.isOf, same, Ne.symm same]
  | lineUp => simp [news]
  | refuse => simp [news, List.filterMap_cons, Effect.sent?]
  | @resume t request k call =>
    rw [known_expect, known_withCall]
    by_cases same : request.target.pair = p
    · simp [news, Effect.sent?, Errand.isOf, same]
    · simp [news, Effect.sent?, Errand.isOf, same, Ne.symm same]
  | @finish t request k r call =>
    rw [known_withoutLane, known_withoutCall, known_settle]
    by_cases same : request.target.pair = p
    · simp [news, call, same]
    · simp [news, call, same, Ne.symm same, List.filterMap_cons, Effect.sent?]
  | @handOver t request k r next c queue call =>
    rw [known_withCall, known_withLane, known_withoutCall, known_settle]
    by_cases same : request.target.pair = p
    · simp [news, call, same]
    · simp [news, call, same, Ne.symm same, List.filterMap_cons, Effect.sent?]
  | sleep => simp [news]
  | stray other => simp [news_stray other]
  | @reconcile q r =>
    rw [show g.reconcile q r = g.settle q (.ok r) from rfl, known_settle]
    by_cases same : q = p
    · simp [news, same]
    · simp [news, same, Ne.symm same]

end Gate

end ProfileControls.Dispatch
