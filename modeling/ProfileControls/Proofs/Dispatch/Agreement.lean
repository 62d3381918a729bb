import ProfileControls.Proofs.Dispatch.Confirmed
import ProfileControls.Proofs.Dispatch.Server

/-!
# Agreement with the server

A gate that is connected to a server in memory keeps a table of its own, and the two tables are
changed at different places: the server's when a request passes it, the gate's when a reply or a
fetched relationship comes. They agree all the same (`Served.agreement`): what the gate takes as
confirmed is what the server has, whichever requests were held back, failed or lined up.

`ServerStep` lists what can happen next to the two. A request that is in flight may be held back for
any time; when it passes the server, the reply comes back in the same step. `Served` are the
histories and servers that come about step by step. The agreement is carried by induction, one case
for each kind of step.
-/

namespace ProfileControls.Dispatch

namespace History

/-- What one step makes of a history and the server that the gate is connected to. -/
inductive ServerStep : History → Server → History → Server → Prop where
  | dispatch {h s t approved target} :
    ServerStep h s (h.next (.dispatch t approved target)) s
  | tryDispatch {h s t approved target} :
    ServerStep h s (h.next (.tryDispatch t approved target)) s
  | resume {h s t} :
    ServerStep h s (h.next (.resume t)) s
  /-- a request that is in flight passes the server, and the reply comes back -/
  | pass {h s c} :
    c ∈ h.inFlight →
    ServerStep h s (h.next (.reply c.ticket (s.perform c.request).1)) (s.perform c.request).2
  /-- one more failure is queued at the server -/
  | fail {h s fault} :
    ServerStep h s h (s.failNext fault)
  /-- the relationship of a pair is fetched from the server -/
  | fetch {h s p} :
    ServerStep h s (h.next (.reconcile p (s.relationship p))) s

/-- The histories of a gate that is connected to a server in memory, with the server that they
leave. -/
inductive Served (origin : Server) : History → Server → Prop where
  | start :
    Served origin .start origin
  | next {h s h' s'} :
    Served origin h s →
    ServerStep h s h' s' →
    Served origin h' s'

/-- What is confirmed is what the server has. -/
def Agrees (h : History) (s : Server) : Prop :=
  ∀ p, h.confirmed p = none ∨ h.confirmed p = some (s.relationship p)

variable {origin s s' : Server} {h h' : History}

/-- Before a step the tickets were fresh too. -/
lemma ServerStep.earlier (step : ServerStep h s h' s') (fresh : h'.Fresh) : h.Fresh := by
  cases step with
  | fail => exact fresh
  | _ => exact fresh.earlier

/-- A reply brings what the server has, so what is confirmed still agrees with it. -/
lemma Faithful.agrees_pass (faith : h.Faithful) (agrees : h.Agrees s) {c : Errand}
    (flying : c ∈ h.inFlight) :
    (h.next (.reply c.ticket (s.perform c.request).1)).Agrees (s.perform c.request).2 := by
  intro p
  have news := faith.news_reply flying p (s.perform c.request).1
  cases pair : c.isOf p with
  | false =>
    -- the server has not touched the pair, and there are no news about it
    have other : p ≠ c.request.target.pair := by
      rintro rfl
      simp [Errand.isOf] at pair
    rw [pair] at news
    rw [confirmed_of_no_news news, Server.relationship_other other]
    exact agrees p
  | true =>
    obtain rfl : c.request.target.pair = p := by simpa [Errand.isOf] using pair
    rw [if_pos pair] at news
    rw [confirmed, news]
    cases reply : (s.perform c.request).1 with
    | ok r => exact .inr (congrArg some (Server.relationship_of_ok reply).symm)
    | error fault =>
      rw [Server.relationship_of_error reply]
      exact agrees _

/-- No step brings what is confirmed apart from what the server has. -/
lemma ServerStep.agrees (step : ServerStep h s h' s') (fresh : h.Fresh) (agrees : h.Agrees s) :
    h'.Agrees s' := by
  cases step with
  | dispatch => exact agrees
  | tryDispatch => exact agrees
  | resume => exact agrees
  | pass flying => exact fresh.faithful.agrees_pass agrees flying
  | fail => exact agrees
  | @fetch q =>
    intro p
    by_cases same : q = p
    · subst same
      right
      rw [confirmed, news, if_pos rfl]
    · have none : h.news p (.reconcile q (s.relationship q)) = none := if_neg same
      rw [confirmed_of_no_news none]
      exact agrees p

/-- What is confirmed agrees with the server, whatever has happened. -/
lemma Served.agrees (served : Served origin h s) (fresh : h.Fresh) : h.Agrees s := by
  induction served with
  | start => exact fun p => .inl rfl
  | next served step ih =>
    have earlier := step.earlier fresh
    exact step.agrees earlier (ih earlier)

/-- A call that ends well in a step had its request in flight, and it is given what the server has
after the step. -/
lemma ServerStep.ended_well (step : ServerStep h s h' s') (fresh : h.Fresh) :
    ∃ ends, h'.ended = h.ended ++ ends ∧
      ∀ t r, (t, .ok r) ∈ ends →
        ∃ c ∈ h.inFlight, c.ticket = t ∧ r = s'.relationship c.request.target.pair := by
  have faith := fresh.faithful
  cases step with
  | fail =>
    refine ⟨[], ?_, fun t r mem => absurd mem List.not_mem_nil⟩
    rw [List.append_nil]
  | @pass c flying =>
    refine ⟨_, ended_next, ?_⟩
    rw [faith.endedNow_reply flying]
    intro t r mem
    obtain ⟨rfl, same⟩ := Prod.mk.inj (List.mem_singleton.1 mem)
    cases reply : (s.perform c.request).1 with
    | ok r' =>
      rw [reply] at same
      cases same
      exact ⟨c, flying, rfl, (Server.relationship_of_ok reply).symm⟩
    | error fault =>
      rw [reply] at same
      cases same
  | _ => exact ⟨_, ended_next, fun t r mem => absurd mem (faith.endedNow_unanswered rfl)⟩

/-- Whatever happens to a gate and its server, what the gate takes as confirmed of a pair is what
the server has, if it is known at all. So is what the gate shows while no request of the pair is in
flight, and what a call is given that ends well. -/
theorem Served.agreement (served : Served origin h s) (fresh : h.Fresh) :
    (∀ p, h.gate.confirmed p = none ∨ h.gate.confirmed p = some (s.relationship p)) ∧
    (∀ p, (∀ c ∈ h.inFlight, c.isOf p = false) →
      h.gate.shown p = none ∨ h.gate.shown p = some (s.relationship p)) ∧
    (∀ h' s', ServerStep h s h' s' →
      ∃ ends, h'.ended = h.ended ++ ends ∧
        ∀ t r, (t, .ok r) ∈ ends →
          ∃ c ∈ h.inFlight, c.ticket = t ∧ r = s'.relationship c.request.target.pair) := by
  have agrees := served.agrees fresh
  refine ⟨?_, ?_, ?_⟩
  · intro p
    rw [fresh.gate_confirmed]
    exact agrees p
  · intro p idle
    rw [fresh.shown_idle idle]
    exact agrees p
  · intro h' s' step
    exact step.ended_well fresh

/-- The first request that passes the server is lost. -/
def lossyServer : Server where
  failures := [.network "lost"]

/-- An endorsement was lost while a mute was held back, which then went through. -/
def lossyExchange : History :=
  start
    |>.next (.dispatch 0 ⟨.mute⟩ sampleTarget)
    |>.next (.dispatch 1 ⟨.endorse⟩ sampleTarget)
    |>.next (.reply 1 (.error (.network "lost")))
    |>.next (.reply 0 (.ok (Relationship.unrelated.after .mute false)))

/-- The sample exchange takes place with a server that loses one request. -/
lemma lossyExchange_served :
    Served lossyServer lossyExchange
      ((lossyServer.perform ⟨sampleTarget, .endorse⟩).2.perform ⟨sampleTarget, .mute⟩).2 := by
  have sent : Served lossyServer
      ((start.next (.dispatch 0 ⟨.mute⟩ sampleTarget)).next (.dispatch 1 ⟨.endorse⟩ sampleTarget))
      lossyServer :=
    .next (.next .start .dispatch) .dispatch
  have lost := Served.next sent
    (.pass (c := ⟨1, sampleTarget, .endorse⟩) (by decide))
  exact Served.next lost (.pass (c := ⟨0, sampleTarget, .mute⟩) (by decide))

/-- After the exchange is over, the gate shows what the server has. -/
theorem lossyExchange_agreement :
    lossyExchange.Fresh ∧
      lossyExchange.gate.shown sampleTarget.pair =
        some (((lossyServer.perform ⟨sampleTarget, .endorse⟩).2.perform
          ⟨sampleTarget, .mute⟩).2.relationship sampleTarget.pair) := by
  have fresh : lossyExchange.Fresh := by decide
  obtain ⟨-, shown, -⟩ := Served.agreement lossyExchange_served fresh
  refine ⟨fresh, (shown sampleTarget.pair (by decide)).resolve_left ?_⟩
  decide

end History

end ProfileControls.Dispatch
