import Mathlib.Data.List.Nodup
import ProfileControls.Proofs.Dispatch.Shown

/-!
# Confirmed relationships

What a single event does to the relationship that an onlooker takes as confirmed. A reply to a
request in flight is news for the pair of that request and for no other (`Faithful.news_reply`), and
without news what is confirmed stays (`confirmed_of_no_news`).
-/

namespace ProfileControls.Dispatch

/-- Without a reply no call ends well. -/
lemma Gate.Move.not_ended_well {g g' : Gate} {e fs} (m : g.Move e g' fs) (answer : e.answer? = none)
    {t : Ticket} {r : Relationship} : (t, .ok r) ∉ fs.filterMap Effect.ending? := by
  cases m with
  | unrelated => simp [Effect.ending?]
  | refuse => simp [Effect.ending?]
  | finish => cases answer
  | handOver => cases answer
  | _ => exact List.not_mem_nil

namespace History

variable {h past : History} {e : Event} {p : Pair} {c : Errand}

/-- Requests in flight are told apart by their tickets. -/
lemma Faithful.inFlight_nodup (faith : h.Faithful) : (h.inFlight.map (·.ticket)).Nodup :=
  faith.once.sublist (List.filter_sublist.map _)

/-- Of two requests in flight with one ticket, both are the same. -/
lemma Faithful.inFlight_inj (faith : h.Faithful) {d : Errand} (flying : c ∈ h.inFlight)
    (flying' : d ∈ h.inFlight) (same : c.ticket = d.ticket) : c = d :=
  List.inj_on_of_nodup_map faith.inFlight_nodup flying flying' same

/-- A reply to a request in flight is news for the pair of the request, and for no other pair. -/
lemma Faithful.news_reply (faith : h.Faithful) (flying : c ∈ h.inFlight) (p : Pair) (r : Reply) :
    h.news p (.reply c.ticket r) = if c.isOf p then some r else none := by
  have told : (h.inFlight.any fun d => d.ticket = c.ticket && d.isOf p) = c.isOf p := by
    rw [Bool.eq_iff_iff, List.any_eq_true]
    constructor
    · rintro ⟨d, flying', same⟩
      obtain ⟨same, pair⟩ : d.ticket = c.ticket ∧ d.isOf p = true := by simpa using same
      exact faith.inFlight_inj flying' flying same ▸ pair
    · intro pair
      exact ⟨c, flying, by simp [pair]⟩
  rw [news, told]

/-- Without news what is confirmed stays. -/
lemma confirmed_of_no_news (none : past.news p e = none) :
    (past.next e).confirmed p = past.confirmed p := by
  rw [confirmed, none]

/-- The call that a reply is for ends with that reply, and no other call ends. -/
lemma Faithful.endedNow_reply (faith : h.Faithful) (flying : c ∈ h.inFlight) (r : Reply) :
    h.endedNow (.reply c.ticket r) = [(c.ticket, r.outcome)] := by
  have running := faith.isRunning_iff.2 (List.mem_map_of_mem flying)
  rw [endedNow, (faith.move _).ends_reply, if_pos running]

/-- Without a reply no call ends well in a history. -/
lemma Faithful.endedNow_unanswered (faith : h.Faithful) (answer : e.answer? = none) {t : Ticket}
    {r : Relationship} : (t, .ok r) ∉ h.endedNow e :=
  (faith.move e).not_ended_well answer

end History

end ProfileControls.Dispatch
