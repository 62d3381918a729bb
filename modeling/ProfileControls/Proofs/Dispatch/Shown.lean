import ProfileControls.Proofs.Dispatch.Known
import ProfileControls.Proofs.Dispatch.Turns

/-!
# What is shown

An onlooker who keeps count of the news about a pair knows what the gate shows of it. News are the
relationships that are fetched anew and the replies to requests of the pair (`History.news`). The
last relationship among them is the confirmed one (`History.confirmed`), and what is shown is that
relationship with the effects of all requests that have been sent since the last news
(`History.unsettled`), in their order (`Fresh.shown_eq`).

News replace what is shown as a whole, whatever field they are about. So the effects of requests
that were in flight when they came are no longer shown, although these requests may still be on
their way.
-/

namespace ProfileControls.Dispatch

/-- The event fetches the relationship of the pair anew. -/
def Event.reconciles (p : Pair) : Event → Bool
  | .reconcile q _ => q = p
  | .dispatch _ _ _ | .tryDispatch _ _ _ | .resume _ | .reply _ _ => false

namespace History

/-- What the server says about a pair in an event: the relationship that is fetched anew, or the
reply to a request of the pair that is in flight. -/
def news (h : History) (p : Pair) : Event → Option Reply
  | .reconcile q r => if q = p then some (.ok r) else none
  | .reply t r => if h.inFlight.any fun c => c.ticket = t && c.isOf p then some r else none
  | .dispatch _ _ _ | .tryDispatch _ _ _ | .resume _ => none

/-- The last relationship in the news about a pair. -/
def confirmed (p : Pair) : History → Option Relationship
  | start => none
  | next past e =>
    match past.news p e with
    | some (.ok r) => some r
    | some (.error _) | none => past.confirmed p

/-- The requests of a pair that an event sends while the relationship of the pair is known. -/
def predictedNow (past : History) (p : Pair) (e : Event) : List Errand :=
  if (past.confirmed p).isSome then (past.sentNow e).filter (·.isOf p) else []

/-- The requests of a pair that have been sent since the last news about it. -/
def unsettled (p : Pair) : History → List Errand
  | start => []
  | next past e =>
    match past.news p e with
    | some _ => []
    | none => past.unsettled p ++ past.predictedNow p e

/-- The requests of a pair that have been sent since its relationship was last fetched. -/
def sinceFetched (p : Pair) : History → List Errand
  | start => []
  | next past e =>
    (if e.reconciles p then [] else past.sinceFetched p) ++ past.predictedNow p e

/-- Those of them that are still in flight. -/
def unanswered (h : History) (p : Pair) : List Errand :=
  (h.sinceFetched p).filter fun c => c.ticket ∉ h.ended.map (·.1)

/-- What an onlooker knows of a pair. -/
def known (h : History) (p : Pair) : Entry where
  confirmed := h.confirmed p
  shown := (h.confirmed p).map fun r => (h.unsettled p).foldl Errand.predict r

variable {h past : History} {e : Event} {p : Pair}

/-! ## The gate knows what the onlooker knows -/

/-- The gate and the onlooker get the same news. -/
lemma Faithful.news_eq (faith : h.Faithful) (p : Pair) (e : Event) :
    h.gate.news p e = h.news p e := by
  cases e with
  | reply t r =>
    have same : ((h.gate.calls.get? t).any fun c =>
          c.phase = .running && c.request.target.pair = p) =
        h.inFlight.any fun c => c.ticket = t && c.isOf p := by
      rw [Bool.eq_iff_iff, Option.any_eq_true, List.any_eq_true]
      constructor
      · rintro ⟨⟨request, k, phase⟩, call, running⟩
        obtain ⟨rfl, pair⟩ : phase = .running ∧ request.target.pair = p := by simpa using running
        exact ⟨⟨t, request⟩, faith.inFlight_iff.2 ⟨k, call⟩, by simpa [Errand.isOf] using pair⟩
      · rintro ⟨c, flying, pair⟩
        obtain ⟨rfl, pair⟩ : c.ticket = t ∧ c.isOf p = true := by simpa using pair
        obtain ⟨k, call⟩ := faith.inFlight_iff.1 flying
        exact ⟨_, call, by simpa [Errand.isOf] using pair⟩
    rw [Gate.news, same, news]
  | _ => rfl

/-- What is expected of requests one after the other comes on top of what is shown. -/
lemma foldl_expecting (cs : List Errand) (entry : Entry) :
    cs.foldl (fun entry c => entry.expecting c.request) entry =
      { entry with shown := entry.shown.map fun r => cs.foldl Errand.predict r } := by
  induction cs generalizing entry with
  | nil => simp
  | cons c cs ih =>
    rw [List.foldl_cons, ih]
    simp only [Entry.expecting, Option.map_map]
    rfl

/-- The gate knows of a pair what the onlooker knows. -/
lemma Fresh.known (fresh : h.Fresh) (p : Pair) : h.gate.known p = h.known p := by
  induction h with
  | start => rfl
  | next past e ih =>
    have faith := fresh.earlier.faithful
    rw [(faith.move e).known, faith.news_eq, ih fresh.earlier, History.known, History.known,
      confirmed, unsettled]
    cases past.news p e with
    | none =>
      -- requests of an unknown pair are not predicted, but nothing is shown of it either
      rw [foldl_expecting, predictedNow]
      cases past.confirmed p with
      | none => rfl
      | some r =>
        simp only [Option.map_some, Option.isSome_some, if_true, List.foldl_append]
        rfl
    | some r =>
      cases r with
      | ok r => rfl
      | error fault => simp [Entry.told, Entry.rolledBack]

/-- What is shown is what is confirmed with the effects of the unsettled requests. -/
lemma Fresh.shown_eq (fresh : h.Fresh) (p : Pair) :
    h.gate.shown p = (h.confirmed p).map fun r => (h.unsettled p).foldl Errand.predict r := by
  rw [Gate.shown_eq, fresh.known]
  rfl

/-! ## Unsettled requests -/

/-- What is sent in a step and is of the pair is in flight after the step. -/
lemma Faithful.predicted_inFlight (faith : past.Faithful) (fresh : (past.next e).Fresh) {c}
    (mem : c ∈ past.predictedNow p e) : c ∈ (past.next e).inFlight ∧ c.isOf p = true := by
  rw [predictedNow] at mem
  split at mem
  · obtain ⟨sends, pair⟩ := List.mem_filter.1 mem
    refine ⟨?_, pair⟩
    rcases (faith.move e).sends_or_ends with none | none
    · rw [sentNow, none] at sends
      cases sends
    · rw [faith.inFlight_next fresh, endedNow, none]
      exact List.mem_filter.2 ⟨List.mem_append_right _ sends, rfl⟩
  · cases mem

/-- A request of the pair does not end without news. -/
lemma Faithful.not_ended_of_no_news (faith : past.Faithful) (fresh : (past.next e).Fresh)
    (none : past.news p e = none) {c} (flying : c ∈ past.inFlight) (pair : c.isOf p = true) :
    c.ticket ∉ (past.endedNow e).map (·.1) := by
  intro gone
  obtain ⟨x, ends, same⟩ := List.mem_map.1 gone
  cases answer : e.answer? with
  | none =>
    -- what ends without a reply has only just arrived, and is not in flight
    obtain ⟨-, d, call, same'⟩ := (faith.move e).ends_unsent answer ends
    have arrived := faith.sent c (List.mem_of_mem_filter flying)
    exact fresh.new call (same' ▸ same ▸ List.mem_map_of_mem arrived)
  | some y =>
    cases e with
    | reply t r =>
      rw [endedNow, (faith.move _).ends_reply] at ends
      split at ends
      · cases List.mem_singleton.1 ends
        have told : past.inFlight.any (fun c => c.ticket = t && c.isOf p) = true :=
          List.any_eq_true.2 ⟨c, flying, by simp [← same, pair]⟩
        rw [news, if_pos told] at none
        cases none
      · cases ends
    | _ => cases answer

/-- A request of the pair stays in flight until there are news. -/
lemma Faithful.inFlight_of_no_news (faith : past.Faithful) (fresh : (past.next e).Fresh)
    (none : past.news p e = none) {c} (flying : c ∈ past.inFlight) (pair : c.isOf p = true) :
    c ∈ (past.next e).inFlight := by
  rw [faith.inFlight_next fresh]
  apply List.mem_filter.2
  refine ⟨List.mem_append_left _ flying, ?_⟩
  simpa using faith.not_ended_of_no_news fresh none flying pair

/-- Unsettled requests are in flight, and are of the pair. -/
theorem Fresh.unsettled_inFlight (fresh : h.Fresh) :
    ∀ c ∈ h.unsettled p, c ∈ h.inFlight ∧ c.isOf p = true := by
  induction h with
  | start => exact fun c mem => absurd mem List.not_mem_nil
  | next past e ih =>
    have faith := fresh.earlier.faithful
    intro c mem
    rw [unsettled] at mem
    split at mem
    case h_1 => cases mem
    case h_2 none =>
      rcases List.mem_append.1 mem with old | now
      · obtain ⟨flying, pair⟩ := ih fresh.earlier c old
        exact ⟨faith.inFlight_of_no_news fresh none flying pair, pair⟩
      · exact faith.predicted_inFlight fresh now

/-- The unsettled requests are the last of those since the relationship was fetched. -/
lemma unsettled_suffix_sinceFetched (h : History) (p : Pair) :
    h.unsettled p <:+ h.sinceFetched p := by
  induction h with
  | start => exact List.suffix_rfl
  | next past e ih =>
    rw [unsettled, sinceFetched]
    split
    case h_1 => exact List.nil_suffix
    case h_2 none =>
      have other : e.reconciles p = false := by
        cases e with
        | reconcile q r => simpa [news, Event.reconciles] using none
        | _ => rfl
      rw [other]
      obtain ⟨earlier, same⟩ := ih
      exact ⟨earlier, by simp [← same]⟩

/-- The unsettled requests are the last of the unanswered ones. -/
lemma Fresh.unsettled_suffix (fresh : h.Fresh) (p : Pair) :
    h.unsettled p <:+ h.unanswered p := by
  have keep : (h.unsettled p).filter (fun c => c.ticket ∉ h.ended.map (·.1)) = h.unsettled p :=
    List.filter_eq_self.2 fun c mem => (List.mem_filter.1 (fresh.unsettled_inFlight c mem).1).2
  rw [← keep]
  exact (h.unsettled_suffix_sinceFetched p).filter _

/-! ## Shown and confirmed -/

/-- What the gate takes as confirmed is what the onlooker does. -/
lemma Fresh.gate_confirmed (fresh : h.Fresh) (p : Pair) : h.gate.confirmed p = h.confirmed p := by
  rw [Gate.confirmed_eq, fresh.known]
  rfl

/-- While no request of a pair is in flight, the gate shows what is confirmed. -/
lemma Fresh.shown_idle (fresh : h.Fresh) (idle : ∀ c ∈ h.inFlight, c.isOf p = false) :
    h.gate.shown p = h.confirmed p := by
  have settled : h.unsettled p = [] := by
    rw [List.eq_nil_iff_forall_not_mem]
    intro c mem
    obtain ⟨flying, pair⟩ := fresh.unsettled_inFlight c mem
    rw [idle c flying] at pair
    cases pair
  rw [fresh.shown_eq, settled]
  exact Option.map_id'

/-- What is shown of a pair is its confirmed relationship with the effects of the requests that have
been sent since the last news about the pair. These requests are still in flight, and of those that
were sent since the relationship was last fetched and are still in flight they are the last. -/
theorem Fresh.shown_unsettled (fresh : h.Fresh) (p : Pair) :
    h.gate.confirmed p = h.confirmed p ∧
    h.gate.shown p = (h.confirmed p).map (fun r => (h.unsettled p).foldl Errand.predict r) ∧
    (∀ c ∈ h.unsettled p, c ∈ h.inFlight ∧ c.isOf p = true) ∧
    h.unsettled p <:+ h.unanswered p :=
  ⟨fresh.gate_confirmed p, fresh.shown_eq p, fun c mem => fresh.unsettled_inFlight c mem,
    fresh.unsettled_suffix p⟩

/-- The reply to a mute came while an endorsement of the same account was in flight. -/
def crossing : History :=
  start
    |>.next (.reconcile sampleTarget.pair .unrelated)
    |>.next (.dispatch 0 ⟨.mute⟩ sampleTarget)
    |>.next (.dispatch 1 ⟨.endorse⟩ sampleTarget)
    |>.next (.reply 0 (.ok (Relationship.unrelated.after .mute false)))

/-- A follow that comes after the reply shows, and the endorsement before it does not. -/
theorem crossing_shown :
    (crossing.next (.dispatch 2 ⟨.follow⟩ sampleTarget)).Fresh ∧
      (crossing.next (.dispatch 2 ⟨.follow⟩ sampleTarget)).gate.shown sampleTarget.pair =
        some ((Relationship.unrelated.after .mute false).after .follow false) := by
  have fresh : (crossing.next (.dispatch 2 ⟨.follow⟩ sampleTarget)).Fresh := by decide
  obtain ⟨-, shown, -⟩ := Fresh.shown_unsettled fresh sampleTarget.pair
  refine ⟨fresh, shown.trans ?_⟩
  decide

/-- Not all requests that are still in flight show: the endorsement went out before the mute was
answered, and the answer does not have it. -/
theorem not_shown_unanswered :
    ¬ ∀ (h : History) (p : Pair) (r : Relationship), h.Fresh → h.confirmed p = some r →
      h.gate.shown p = some ((h.unanswered p).foldl Errand.predict r) := by
  intro all
  have wrong := all crossing sampleTarget.pair (Relationship.unrelated.after .mute false)
    (by decide) (by decide)
  revert wrong
  decide

/-- A reply starts no call. -/
lemma Fresh.reply (fresh : h.Fresh) (t : Ticket) (r : Reply) : (h.next (.reply t r)).Fresh := by
  rw [Fresh, events, List.filterMap_append]
  rw [show [Event.reply t r].filterMap Event.newTicket? = [] from rfl, List.append_nil]
  exact fresh

/-- If no request of a pair is in flight, the gate shows what was last confirmed, or nothing if
nothing was. When a request of the pair fails, it does so at once, even if others are in flight. -/
theorem Fresh.shown_settled (fresh : h.Fresh) (p : Pair) :
    ((∀ c ∈ h.inFlight, c.isOf p = false) → h.gate.shown p = h.confirmed p) ∧
    (∀ c ∈ h.inFlight, c.isOf p = true → ∀ fault,
      (h.next (.reply c.ticket (.error fault))).gate.shown p = h.confirmed p) := by
  constructor
  · exact fun idle => fresh.shown_idle idle
  · intro c flying pair fault
    have told : h.news p (.reply c.ticket (.error fault)) = some (.error fault) := by
      rw [news, if_pos]
      exact List.any_eq_true.2 ⟨c, flying, by simp [pair]⟩
    rw [(fresh.reply _ _).shown_eq, confirmed, unsettled, told]
    exact Option.map_id'

/-- After the endorsement has failed, the mute is shown. -/
theorem crossing_settled :
    (crossing.next (.reply 1 (.error (.rejected "limit")))).Fresh ∧
      (crossing.next (.reply 1 (.error (.rejected "limit")))).gate.shown sampleTarget.pair =
        some (Relationship.unrelated.after .mute false) := by
  have fresh : (crossing.next (.reply 1 (.error (.rejected "limit")))).Fresh := by decide
  obtain ⟨settled, -⟩ := Fresh.shown_settled fresh sampleTarget.pair
  refine ⟨fresh, (settled (by decide)).trans ?_⟩
  decide

end History

end ProfileControls.Dispatch
