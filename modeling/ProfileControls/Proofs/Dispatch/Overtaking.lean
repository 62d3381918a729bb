import ProfileControls.Proofs.Dispatch.Confirmed

/-!
# Replies that overtake each other

A server may apply a request at any time while the request is in flight, and its answer takes a time
of its own on the way back. `Delayed` are the histories of a gate in front of such a server, with
the requests that the server has applied, in the order of their application. Each answer tells the
relationship right after the application of its request (`relationshipAfter`).

Requests on different fields of a pair are in flight together, so the answer to a later application
may come first. The gate believes the answer that comes last. Once all is answered, it shows the
relationship as the server had it when it applied the request of that answer, and the effects of
later applications are missing (`Delayed.shown_lastAnswered`). If there are none, because the
request that was answered last is also the one applied last, the gate shows what the server has.
-/

namespace ProfileControls.Dispatch.History

/-- The relationship of a pair after the server has applied requests in their order. -/
def relationshipAfter (origin : Pair → Relationship) (applied : List Errand) (p : Pair) :
    Relationship :=
  (applied.filter (·.isOf p)).foldl Errand.predict (origin p)

/-- The histories of a gate in front of a server that answers all requests well, with the requests
that the server has applied. -/
inductive Delayed (origin : Pair → Relationship) : History → List Errand → Prop where
  | start :
    Delayed origin .start []
  | dispatch {h applied t approved target} :
    Delayed origin h applied →
    Delayed origin (h.next (.dispatch t approved target)) applied
  | tryDispatch {h applied t approved target} :
    Delayed origin h applied →
    Delayed origin (h.next (.tryDispatch t approved target)) applied
  | resume {h applied t} :
    Delayed origin h applied →
    Delayed origin (h.next (.resume t)) applied
  | reconcile {h applied p r} :
    Delayed origin h applied →
    Delayed origin (h.next (.reconcile p r)) applied
  /-- the server applies a request that is in flight -/
  | apply {h applied c} :
    Delayed origin h applied →
    c ∈ h.inFlight →
    c ∉ applied →
    Delayed origin h (applied ++ [c])
  /-- the answer to a request comes back -/
  | answer {h before c after} :
    Delayed origin h (before ++ c :: after) →
    c ∈ h.inFlight →
    Delayed origin
      (h.next (.reply c.ticket
        (.ok (relationshipAfter origin (before ++ [c]) c.request.target.pair))))
      (before ++ c :: after)

/-- The request of a pair that an event answers. -/
def answers (h : History) (p : Pair) (e : Event) : Option Errand :=
  e.answer?.bind fun x => h.inFlight.find? fun c => c.ticket = x.1 && c.isOf p

/-- The request of a pair that was answered last, if any was since its relationship was fetched. -/
def lastAnswered (p : Pair) : History → Option Errand
  | start => none
  | next past e => if e.reconciles p then none else (past.answers p e).or (past.lastAnswered p)

variable {origin : Pair → Relationship} {h : History} {applied : List Errand} {p : Pair}
  {c d : Errand}

/-- A reply to a request in flight answers that request and no other. -/
lemma Faithful.answers_reply (faith : h.Faithful) (flying : c ∈ h.inFlight) (p : Pair) (r : Reply) :
    h.answers p (.reply c.ticket r) = if c.isOf p then some c else none := by
  show (h.inFlight.find? fun d => d.ticket = c.ticket && d.isOf p) = _
  split
  case isTrue pair =>
    cases found : h.inFlight.find? fun d => d.ticket = c.ticket && d.isOf p with
    | none =>
      have missed := List.find?_eq_none.1 found c flying
      simp [pair] at missed
    | some d =>
      have same : d.ticket = c.ticket ∧ d.isOf p = true := by simpa using List.find?_some found
      rw [faith.inFlight_inj (List.mem_of_find?_eq_some found) flying same.1]
  case isFalse other =>
    rw [List.find?_eq_none]
    intro d flying' same
    obtain ⟨same, pair⟩ : d.ticket = c.ticket ∧ d.isOf p = true := by simpa using same
    exact other (faith.inFlight_inj flying' flying same ▸ pair)

/-- A reply to a request in flight is the last one that its pair has got. -/
lemma Faithful.lastAnswered_reply (faith : h.Faithful) (flying : c ∈ h.inFlight) (p : Pair)
    (r : Reply) :
    (h.next (.reply c.ticket r)).lastAnswered p =
      if c.isOf p then some c else h.lastAnswered p := by
  show (h.answers p (.reply c.ticket r)).or (h.lastAnswered p) = _
  rw [faith.answers_reply flying]
  split <;> rfl

/-- What the server has applied later comes on top of what it applied before. -/
lemma relationshipAfter_append (origin : Pair → Relationship) (before after : List Errand)
    (p : Pair) :
    relationshipAfter origin (before ++ after) p =
      (after.filter (·.isOf p)).foldl Errand.predict (relationshipAfter origin before p) := by
  rw [relationshipAfter, List.filter_append, List.foldl_append, relationshipAfter]

/-- The relationship that was confirmed by the answer to a request. -/
def ConfirmedBy (origin : Pair → Relationship) (h : History) (applied : List Errand) (p : Pair)
    (c : Errand) : Prop :=
  ∃ before after, applied = before ++ c :: after ∧
    h.confirmed p = some (relationshipAfter origin (before ++ [c]) p)

/-- Without news what is confirmed was still confirmed by the same request. -/
lemma ConfirmedBy.quiet {e : Event} (by_c : ConfirmedBy origin h applied p c)
    (none : h.news p e = none) : ConfirmedBy origin (h.next e) applied p c := by
  obtain ⟨before, after, split, known⟩ := by_c
  exact ⟨before, after, split, (confirmed_of_no_news none).trans known⟩

/-- What the server applies makes no difference to what is confirmed. -/
lemma ConfirmedBy.apply (by_c : ConfirmedBy origin h applied p c) :
    ConfirmedBy origin h (applied ++ [d]) p c := by
  obtain ⟨before, after, rfl, known⟩ := by_c
  exact ⟨before, after ++ [d], by simp, known⟩

/-- What is confirmed of a pair was confirmed by the request that was answered last. -/
theorem Delayed.confirmedBy (delayed : Delayed origin h applied) (fresh : h.Fresh)
    (last : h.lastAnswered p = some c) : ConfirmedBy origin h applied p c := by
  induction delayed with
  | start => cases last
  | dispatch _ ih => exact (ih fresh.earlier last).quiet rfl
  | tryDispatch _ ih => exact (ih fresh.earlier last).quiet rfl
  | resume _ ih => exact (ih fresh.earlier last).quiet rfl
  | @reconcile h applied q r _ ih =>
    rw [lastAnswered] at last
    split at last
    case isTrue => cases last
    case isFalse other =>
      have none : h.news p (.reconcile q r) = none :=
        if_neg (by simpa [Event.reconciles] using other)
      exact (ih fresh.earlier last).quiet none
  | apply _ _ _ ih => exact (ih fresh last).apply
  | @answer h before d after _ flying ih =>
    have faith := fresh.earlier.faithful
    have news := faith.news_reply flying p
      (.ok (relationshipAfter origin (before ++ [d]) d.request.target.pair))
    rw [faith.lastAnswered_reply flying] at last
    split at last
    case isTrue pair =>
      -- this answer is the last one, and it is about the pair
      obtain rfl : d = c := Option.some.inj last
      obtain rfl : d.request.target.pair = p := by simpa [Errand.isOf] using pair
      refine ⟨before, after, rfl, ?_⟩
      rw [confirmed, news, if_pos pair]
    case isFalse other =>
      rw [if_neg other] at news
      exact (ih fresh.earlier last).quiet news

/-- The server applies no request twice. -/
lemma Delayed.applied_nodup (delayed : Delayed origin h applied) : applied.Nodup := by
  induction delayed with
  | start => exact List.nodup_nil
  | apply _ _ new ih =>
    rw [← List.concat_eq_append]
    exact ih.concat new
  | _ => assumption

/-- Once no request of a pair is in flight, the gate shows the relationship as the server had it
right after it applied the request of the pair that was answered last. What the server has applied
of the pair since then is missing, so the gate shows what the server has if there is nothing. -/
theorem Delayed.shown_lastAnswered (delayed : Delayed origin h applied) (fresh : h.Fresh)
    (idle : ∀ c ∈ h.inFlight, c.isOf p = false) (last : h.lastAnswered p = some c) :
    c ∈ applied ∧ ∀ before after, applied = before ++ c :: after →
      h.gate.shown p = some (relationshipAfter origin (before ++ [c]) p) ∧
      relationshipAfter origin applied p =
        (after.filter (·.isOf p)).foldl Errand.predict
          (relationshipAfter origin (before ++ [c]) p) ∧
      ((∀ d ∈ after, d.isOf p = false) →
        h.gate.shown p = some (relationshipAfter origin applied p)) := by
  obtain ⟨before₀, after₀, split₀, known⟩ := delayed.confirmedBy fresh last
  refine ⟨split₀ ▸ List.mem_append_right _ List.mem_cons_self, ?_⟩
  intro before after split
  -- the request stands in one place only
  have nd := delayed.applied_nodup
  rw [split, List.nodup_middle, List.nodup_cons, List.mem_append, not_or] at nd
  obtain ⟨rfl, -, rfl⟩ :=
    (List.append_cons_inj_of_notMem nd.1.1 nd.1.2).1 (split.symm.trans split₀)
  have shown : h.gate.shown p = some (relationshipAfter origin (before ++ [c]) p) :=
    (fresh.shown_idle idle).trans known
  have server : relationshipAfter origin applied p =
      (after.filter (·.isOf p)).foldl Errand.predict
        (relationshipAfter origin (before ++ [c]) p) := by
    rw [← relationshipAfter_append, split, List.append_assoc, List.singleton_append]
  refine ⟨shown, server, ?_⟩
  intro others
  have none : after.filter (·.isOf p) = [] :=
    List.filter_eq_nil_iff.2 fun d mem => by simp [others d mem]
  rw [shown, server, none, List.foldl_nil]

/-- A mute and an endorsement were sent and applied in this order, and the answer to the endorsement
came first. -/
def overtaken : History :=
  start
    |>.next (.dispatch 0 ⟨.mute⟩ sampleTarget)
    |>.next (.dispatch 1 ⟨.endorse⟩ sampleTarget)
    |>.next (.reply 1 (.ok ((Relationship.unrelated.after .mute false).after .endorse false)))
    |>.next (.reply 0 (.ok (Relationship.unrelated.after .mute false)))

/-- The sample history takes place with a server that applies the mute first. -/
lemma overtaken_delayed :
    Delayed (fun _ => .unrelated) overtaken
      [⟨0, sampleTarget, .mute⟩, ⟨1, sampleTarget, .endorse⟩] := by
  have sent : Delayed (fun _ => .unrelated)
      ((start.next (.dispatch 0 ⟨.mute⟩ sampleTarget)).next (.dispatch 1 ⟨.endorse⟩ sampleTarget))
      [] :=
    .dispatch (.dispatch .start)
  have muted := sent.apply (c := ⟨0, sampleTarget, .mute⟩) (by decide) (by decide)
  have endorsed := muted.apply (c := ⟨1, sampleTarget, .endorse⟩) (by decide) (by decide)
  have first := @Delayed.answer _ _ [⟨0, sampleTarget, .mute⟩] ⟨1, sampleTarget, .endorse⟩ []
    endorsed (by decide)
  exact @Delayed.answer _ _ [] ⟨0, sampleTarget, .mute⟩ _ first (by decide)

/-- Both are answered, and the endorsement does not show. -/
theorem overtaken_shown :
    overtaken.Fresh ∧
      overtaken.gate.shown sampleTarget.pair = some (Relationship.unrelated.after .mute false) := by
  have fresh : overtaken.Fresh := by decide
  have last : overtaken.lastAnswered sampleTarget.pair = some ⟨0, sampleTarget, .mute⟩ := by decide
  obtain ⟨-, shown⟩ := Delayed.shown_lastAnswered overtaken_delayed fresh (by decide) last
  exact ⟨fresh, (shown [] _ rfl).1⟩

/-- The gate does not show what the server has once all requests of a pair are answered: the answer
that came last was given before the endorsement was applied. -/
theorem not_shown_applied :
    ¬ ∀ (origin : Pair → Relationship) (h : History) (applied : List Errand) (p : Pair),
      Delayed origin h applied → h.Fresh → (∀ q, h.events.all (fun e => !e.reconciles q)) →
      (∀ c ∈ h.inFlight, c.isOf p = false) → (h.lastAnswered p).isSome →
      h.gate.shown p = some (relationshipAfter origin applied p) := by
  intro all
  have wrong := all _ overtaken _ sampleTarget.pair overtaken_delayed (by decide)
    (fun q => rfl) (by decide) (by decide)
  revert wrong
  decide

end ProfileControls.Dispatch.History
