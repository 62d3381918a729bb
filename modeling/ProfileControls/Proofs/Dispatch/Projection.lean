import ProfileControls.Proofs.Dispatch.Known

/-!
# The part of a gate that is about one pair

Of the three tables of a gate, the part that is about one pair is made of the lanes, the calls and
the entry of that pair (`Gate.onPair`). A change of the gate is a change of that part if it is about
the pair, and none if it is about another pair. So a move about the pair is a move of the part
(`Move.onPair`) and a move about another pair leaves the part alone (`Move.onPair_of_other`).
Together with the fact that a gate has no choice between moves (`Move.unique`), the part can be
followed on its own.
-/

namespace ProfileControls.Dispatch

namespace Table

variable {κ α : Type} [DecidableEq κ]

/-- The table with some of its rows only. -/
def only (t : Table κ α) (keep : κ × α → Bool) : Table κ α :=
  ⟨t.rows.filter keep, t.nodup.sublist (List.filter_sublist.map _)⟩

/-- Rows may be put before or after others are left out, if the row that is replaced is like the new
one. -/
lemma filter_putRow_alike {keep : κ × α → Bool} {k : κ} {a : α} {rows : List (κ × α)}
    (alike : ∀ b, rows.lookup k = some b → keep (k, b) = keep (k, a)) :
    (putRow k a rows).filter keep =
      if keep (k, a) then putRow k a (rows.filter keep) else rows.filter keep := by
  fun_induction putRow k a rows with
  | case1 => rw [List.filter_cons]; rfl
  | case2 b rows =>
    have same : keep (k, b) = keep (k, a) := alike b (by rw [lookup_cons_eq_ite, if_pos rfl])
    rw [List.filter_cons, List.filter_cons, same]
    split
    case isTrue => rw [putRow, if_pos rfl]
    case isFalse => rfl
  | case3 j b rows ne ih =>
    have alike' : ∀ b, rows.lookup k = some b → keep (k, b) = keep (k, a) := fun b there =>
      alike b (by rw [lookup_cons_eq_ite, if_neg (Ne.symm ne), there])
    rw [List.filter_cons, List.filter_cons, ih alike']
    cases keep (k, a) with
    | true =>
      cases keep (j, b) with
      | true => simp [putRow, ne]
      | false => rfl
    | false => rfl

variable {t : Table κ α} {keep : κ × α → Bool} {k : κ}

/-- What is found in part of a table is what is found in the table, if it is kept. -/
lemma get?_only : (t.only keep).get? k = (t.get? k).filter fun a => keep (k, a) := by
  ext a
  rw [Option.filter_eq_some_iff, get?_eq_some_iff, get?_eq_some_iff]
  exact List.mem_filter

/-- What is always kept is found as in the table. -/
lemma get?_only_of_kept (kept : ∀ a, keep (k, a) = true) : (t.only keep).get? k = t.get? k := by
  rw [get?_only]
  cases t.get? k with
  | none => rfl
  | some a => rw [Option.filter_some, if_pos (kept a)]

/-- A row may be put before or after others are left out. -/
lemma only_put {a : α} (alike : ∀ b, t.get? k = some b → keep (k, b) = keep (k, a)) :
    (t.put k a).only keep = if keep (k, a) then (t.only keep).put k a else t.only keep := by
  apply ext_rows
  rw [apply_ite rows]
  exact filter_putRow_alike alike

/-- A row may be taken away before or after others are left out. -/
lemma only_erase : (t.erase k).only keep = (t.only keep).erase k :=
  ext_rows (List.filter_comm _ _ t.rows)

/-- To take away what is not there changes nothing. -/
lemma erase_of_get?_eq_none (absent : t.get? k = none) : t.erase k = t := by
  rw [get?_eq_none_iff] at absent
  apply ext_rows
  refine List.filter_eq_self.2 fun row mem => ?_
  have other : row.1 ≠ k := fun same => absent (same ▸ List.mem_map_of_mem mem)
  simpa using other

end Table

/-- The key of a request is about the pair of the request. -/
lemma Request.pair_of_laneKey? {request : Request} {k : LaneKey}
    (key : request.laneKey? = some k) : k.pair = request.target.pair := by
  obtain ⟨field, -, rfl⟩ := Option.map_eq_some_iff.1 key
  rfl

/-- The ticket of the call that an effect is about. -/
def Effect.ticket : Effect → Ticket
  | .sent t _ | .woken t | .ended t _ => t

namespace Gate

/-- The part of a gate that is about a pair. -/
def onPair (g : Gate) (p : Pair) : Gate where
  lanes := g.lanes.only fun row => row.1.pair = p
  calls := g.calls.only fun row => row.2.request.target.pair = p
  store := g.store.only fun row => row.1 = p

/-- The pair that an event is about, as far as the gate can tell. -/
def pair? (g : Gate) : Event → Option Pair
  | .dispatch _ _ target | .tryDispatch _ _ target => some target.pair
  | .resume t | .reply t _ => (g.calls.get? t).map (·.request.target.pair)
  | .reconcile q _ => some q

variable {g : Gate} {p : Pair}

/-! ## What the part shows -/

/-- The part has the lanes of its pair. -/
lemma lanes_onPair {k : LaneKey} (own : k.pair = p) :
    (g.onPair p).lanes.get? k = g.lanes.get? k :=
  Table.get?_only_of_kept fun _ => decide_eq_true own

/-- The part has the calls of its pair. -/
lemma calls_onPair {t : Ticket} :
    (g.onPair p).calls.get? t = (g.calls.get? t).filter (·.request.target.pair = p) :=
  Table.get?_only

/-- The part has the entry of its pair. -/
lemma store_onPair : (g.onPair p).store.get? p = g.store.get? p :=
  Table.get?_only_of_kept fun _ => decide_eq_true rfl

/-- The part shows the same of its pair. -/
lemma shown_onPair : (g.onPair p).shown p = g.shown p := by
  rw [shown, store_onPair, shown]

/-- The part has the same keys of its pair in flight. -/
lemma isInFlight_onPair {k : LaneKey} (own : k.pair = p) :
    (g.onPair p).isInFlight k = g.isInFlight k := by
  rw [isInFlight, lanes_onPair own, isInFlight]

/-- A call of the pair is found in the part. -/
lemma calls_onPair_of_call {t : Ticket} {c : Call} (call : g.calls.get? t = some c)
    (own : c.request.target.pair = p) : (g.onPair p).calls.get? t = some c := by
  rw [calls_onPair, call]
  simp [own]

/-- Under the ticket of another call nothing is found in the part. -/
lemma calls_onPair_of_other {t : Ticket}
    (other : ∀ c, g.calls.get? t = some c → c.request.target.pair ≠ p) :
    (g.onPair p).calls.get? t = none := by
  rw [calls_onPair, Option.filter_eq_none_iff]
  intro c call own
  exact other c call (of_decide_eq_true own)

/-- Pending in the part are the pending calls of the pair. -/
lemma pending_onPair : (g.onPair p).pending = g.pending.filter (·.isOf p) := by
  rw [pending, pending, List.filter_map]
  rfl

/-- The lines of the pair are the same in the part. -/
lemma line_onPair {k : LaneKey} (own : k.pair = p) : (g.onPair p).line k = g.line k := by
  rw [line, pending_onPair, List.filter_filter, line]
  congr 2
  funext c
  rw [Bool.and_eq_left_iff_imp]
  intro key
  have same : k.pair = c.request.target.pair := Request.pair_of_laneKey? (of_decide_eq_true key)
  exact decide_eq_true (same.symm.trans own)

/-! ## Changes of the part -/

/-- A lane changes the part if its key is of the pair. -/
lemma onPair_withLane {k : LaneKey} {l : Lane} :
    (g.withLane k l).onPair p = if k.pair = p then (g.onPair p).withLane k l else g.onPair p := by
  rw [onPair, withLane, Table.only_put fun _ _ => rfl]
  simp only [decide_eq_true_eq]
  split <;> rfl

/-- A lane that is taken away is taken away from the part. -/
lemma onPair_withoutLane {k : LaneKey} :
    (g.withoutLane k).onPair p = (g.onPair p).withoutLane k := by
  rw [onPair, withoutLane, Table.only_erase]
  rfl

/-- A call changes the part if it is of the pair. -/
lemma onPair_withCall {t : Ticket} {c : Call}
    (alike : ∀ d, g.calls.get? t = some d → d.request.target.pair = c.request.target.pair) :
    (g.withCall t c).onPair p =
      if c.request.target.pair = p then (g.onPair p).withCall t c else g.onPair p := by
  have kept : ∀ d, g.calls.get? t = some d →
      decide (d.request.target.pair = p) = decide (c.request.target.pair = p) := fun d call => by
    rw [alike d call]
  rw [onPair, withCall, Table.only_put kept]
  simp only [decide_eq_true_eq]
  split <;> rfl

/-- A call that is taken away is taken away from the part. -/
lemma onPair_withoutCall {t : Ticket} :
    (g.withoutCall t).onPair p = (g.onPair p).withoutCall t := by
  rw [onPair, withoutCall, Table.only_erase]
  rfl

/-- An entry changes the part if it is of the pair. -/
lemma onPair_put {q : Pair} {entry : Entry} :
    onPair { g with store := g.store.put q entry } p =
      if q = p then { g.onPair p with store := (g.onPair p).store.put q entry }
      else g.onPair p := by
  rw [onPair, Table.only_put fun _ _ => rfl]
  simp only [decide_eq_true_eq]
  split <;> rfl

/-- A request changes what is expected in the part if it is of the pair. -/
lemma onPair_expect {request : Request} :
    (g.expect request).onPair p =
      if request.target.pair = p then (g.onPair p).expect request else g.onPair p := by
  rw [expect, onPair_put]
  split
  case isTrue own => rw [expect, own, store_onPair]
  case isFalse => rfl

/-- What the server says changes the part if it is about the pair. -/
lemma onPair_settle {q : Pair} {r : Reply} :
    (g.settle q r).onPair p = if q = p then (g.onPair p).settle q r else g.onPair p := by
  cases r with
  | ok r => exact onPair_put
  | error fault =>
    split
    case isTrue own =>
      subst own
      rw [settle, settle, store_onPair]
      cases g.store.get? q with
      | none => rfl
      | some entry =>
        show onPair { g with store := g.store.put q entry.rolledBack } q = _
        rw [onPair_put, if_pos rfl]
    case isFalse other =>
      rw [settle]
      cases g.store.get? q with
      | none => rfl
      | some entry =>
        show onPair { g with store := g.store.put q entry.rolledBack } p = _
        rw [onPair_put, if_neg other]

/-- To take away the call of another pair changes nothing in the part. -/
lemma withoutCall_onPair {t : Ticket}
    (other : ∀ c, g.calls.get? t = some c → c.request.target.pair ≠ p) :
    (g.onPair p).withoutCall t = g.onPair p := by
  rw [withoutCall, Table.erase_of_get?_eq_none (calls_onPair_of_other other)]

/-- To take away the lane of another pair changes nothing in the part. -/
lemma withoutLane_onPair {k : LaneKey} (other : k.pair ≠ p) :
    (g.onPair p).withoutLane k = g.onPair p := by
  have absent : (g.onPair p).lanes.get? k = none := by
    rw [onPair, Table.get?_only, Option.filter_eq_none_iff]
    exact fun _ _ own => other (of_decide_eq_true own)
  rw [withoutLane, Table.erase_of_get?_eq_none absent]

/-! ## Moves -/

/-- An event that starts a call is about the pair of the call. -/
lemma pair?_of_errand {e : Event} {c : Errand} (call : e.errand? = some c) :
    g.pair? e = some c.request.target.pair := by
  cases e with
  | dispatch t approved target =>
    cases call
    rfl
  | tryDispatch t approved target =>
    cases call
    rfl
  | _ => cases call

/-- The second call of a line is about the pair of the key, like all others. -/
lemma pair_of_second {k t next queue c} (line : g.line k = t :: next :: queue)
    (call : g.calls.get? next = some c) : c.request.target.pair = k.pair := by
  have mem : next ∈ g.line k := line ▸ List.mem_cons_of_mem _ List.mem_cons_self
  obtain ⟨d, there, key⟩ := mem_line.1 mem
  cases there.symm.trans call
  exact (Request.pair_of_laneKey? key).symm

/-- The second call of a line is still there when the first has ended. -/
lemma calls_second {k t next queue c} (line : g.line k = t :: next :: queue)
    (call : g.calls.get? next = some c) (q : Pair) (r : Reply) (l : Lane) :
    (((g.settle q r).withoutCall t).withLane k l).calls.get? next = some c := by
  rw [calls_withLane, calls_withoutCall, if_neg (second_ne_first line), settle_calls, call]

/-- A move about the pair is a move of the part of the gate that is about the pair. -/
lemma Move.onPair {e g' fs} (m : g.Move e g' fs) (co : g.Coherent) (new : g.New e)
    (own : ∀ q, g.pair? e = some q → q = p) : (g.onPair p).Move e (g'.onPair p) fs := by
  cases m with
  | unrelated call key => exact .unrelated call key
  | @start _ t request k call key free =>
    have pair : request.target.pair = p := own _ (pair?_of_errand call)
    have lane : k.pair = p := (Request.pair_of_laneKey? key).trans pair
    rw [onPair_expect, if_pos pair, onPair_withCall, if_pos pair, onPair_withLane, if_pos lane]
    · exact .start call key ((line_onPair lane).trans free)
    · exact fun d there => absurd there (by simp [new _ call])
  | @lineUp t approved target k first queue key busy =>
    have pair : target.pair = p := own _ rfl
    have lane : k.pair = p := (Request.pair_of_laneKey? key).trans pair
    rw [onPair_withCall, if_pos pair, onPair_withLane, if_pos lane]
    · exact .lineUp key ((line_onPair lane).trans busy)
    · exact fun d there => absurd there (by simp [new _ rfl])
  | @refuse t approved target k key busy =>
    have pair : target.pair = p := own _ rfl
    have lane : k.pair = p := (Request.pair_of_laneKey? key).trans pair
    exact .refuse key (by rwa [line_onPair lane])
  | @resume t request k call =>
    have pair : request.target.pair = p := own _ (congrArg (Option.map _) call)
    rw [onPair_expect, if_pos pair, onPair_withCall, if_pos pair]
    · exact .resume (calls_onPair_of_call call pair)
    · intro d there
      cases there.symm.trans call
      rfl
  | @finish t request k r call line =>
    have pair : request.target.pair = p := own _ (congrArg (Option.map _) call)
    have lane : k.pair = p := (Request.pair_of_laneKey? (co.keyed call)).trans pair
    rw [onPair_withoutLane, onPair_withoutCall, onPair_settle, if_pos pair]
    exact .finish (calls_onPair_of_call call pair) ((line_onPair lane).trans line)
  | @handOver t request k r next c queue call line there =>
    have pair : request.target.pair = p := own _ (congrArg (Option.map _) call)
    have lane : k.pair = p := (Request.pair_of_laneKey? (co.keyed call)).trans pair
    have behind : c.request.target.pair = p := (pair_of_second line there).trans lane
    rw [onPair_withCall, if_pos behind, onPair_withLane, if_pos lane, onPair_withoutCall,
      onPair_settle, if_pos pair]
    · exact .handOver (calls_onPair_of_call call pair) ((line_onPair lane).trans line)
        (calls_onPair_of_call there behind)
    · intro d there'
      cases there'.symm.trans (calls_second line there _ _ _)
      rfl
  | sleep idle =>
    refine .sleep fun request k call => idle request k ?_
    rw [calls_onPair, Option.filter_eq_some_iff] at call
    exact call.1
  | stray idle =>
    refine .stray fun request k call => idle request k ?_
    rw [calls_onPair, Option.filter_eq_some_iff] at call
    exact call.1
  | @reconcile q r =>
    have same : (g.reconcile q r).onPair p = (g.onPair p).reconcile q r :=
      onPair_put.trans (if_pos (own q rfl))
    rw [same]
    exact .reconcile

/-- A move about another pair leaves the part of the gate alone. -/
lemma Move.onPair_of_other {e g' fs} (m : g.Move e g' fs) (co : g.Coherent) (new : g.New e)
    (other : g.pair? e ≠ some p) : g'.onPair p = g.onPair p := by
  cases m with
  | unrelated | refuse | sleep | stray => rfl
  | @start _ t request k call key free =>
    have pair : request.target.pair ≠ p := fun own => other (own ▸ pair?_of_errand call)
    have lane : k.pair ≠ p := fun own => pair ((Request.pair_of_laneKey? key).symm.trans own)
    rw [onPair_expect, if_neg pair, onPair_withCall, if_neg pair, onPair_withLane, if_neg lane]
    exact fun d there => absurd there (by simp [new _ call])
  | @lineUp t approved target k first queue key busy =>
    have pair : target.pair ≠ p := fun own => other (congrArg some own)
    have lane : k.pair ≠ p := fun own => pair ((Request.pair_of_laneKey? key).symm.trans own)
    rw [onPair_withCall, if_neg pair, onPair_withLane, if_neg lane]
    exact fun d there => absurd there (by simp [new _ rfl])
  | @resume t request k call =>
    have pair : request.target.pair ≠ p := fun own =>
      other ((congrArg (Option.map _) call).trans (congrArg some own))
    rw [onPair_expect, if_neg pair, onPair_withCall, if_neg pair]
    intro d there
    cases there.symm.trans call
    rfl
  | @finish t request k r call line =>
    have pair : request.target.pair ≠ p := fun own =>
      other ((congrArg (Option.map _) call).trans (congrArg some own))
    have lane : k.pair ≠ p := fun own =>
      pair ((Request.pair_of_laneKey? (co.keyed call)).symm.trans own)
    rw [onPair_withoutLane, onPair_withoutCall, onPair_settle, if_neg pair, withoutCall_onPair,
      withoutLane_onPair lane]
    intro d there
    cases there.symm.trans call
    exact pair
  | @handOver t request k r next c queue call line there =>
    have pair : request.target.pair ≠ p := fun own =>
      other ((congrArg (Option.map _) call).trans (congrArg some own))
    have lane : k.pair ≠ p := fun own =>
      pair ((Request.pair_of_laneKey? (co.keyed call)).symm.trans own)
    have behind : c.request.target.pair ≠ p := fun own =>
      lane ((pair_of_second line there).symm.trans own)
    rw [onPair_withCall, if_neg behind, onPair_withLane, if_neg lane, onPair_withoutCall,
      onPair_settle, if_neg pair, withoutCall_onPair]
    · intro d there'
      cases there'.symm.trans call
      exact pair
    · intro d there'
      cases there'.symm.trans (calls_second line there _ _ _)
      rfl
  | @reconcile q r => exact onPair_put.trans (if_neg fun own => other (congrArg some own))

/-- A gate has no choice between moves: what two of them ask of the gate for the same event excludes
one another unless they are the same. -/
lemma Move.unique {e g₁ fs₁ g₂ fs₂} (m : g.Move e g₁ fs₁) (m' : g.Move e g₂ fs₂) :
    g₁ = g₂ ∧ fs₁ = fs₂ := by
  -- pairs of moves with different events go at once, the others by what they ask of the gate
  cases m <;> cases m' <;> grind [Event.errand?]

/-- What a move brings about is about calls on the pair of the event. -/
lemma Move.about {e g' fs} (m : g.Move e g' fs) (co : g.Coherent) {f} (mem : f ∈ fs) :
    ∃ c ∈ g.pending ++ e.errand?.toList, c.ticket = f.ticket ∧
      g.pair? e = some c.request.target.pair := by
  have arrives : ∀ {c : Errand}, e.errand? = some c → c ∈ g.pending ++ e.errand?.toList :=
    fun call => List.mem_append_right _ (Option.mem_toList.2 call)
  have known : ∀ {t c}, g.calls.get? t = some c →
      (⟨t, c.request⟩ : Errand) ∈ g.pending ++ e.errand?.toList :=
    fun call => List.mem_append_left _ (mem_pending.2 ⟨_, call, rfl⟩)
  cases m with
  | unrelated call key =>
    cases List.mem_singleton.1 mem
    exact ⟨_, arrives call, rfl, pair?_of_errand call⟩
  | start call key free =>
    cases List.mem_singleton.1 mem
    exact ⟨_, arrives call, rfl, pair?_of_errand call⟩
  | lineUp => cases mem
  | refuse =>
    cases List.mem_singleton.1 mem
    exact ⟨_, arrives rfl, rfl, rfl⟩
  | resume call =>
    cases List.mem_singleton.1 mem
    exact ⟨_, known call, rfl, congrArg (Option.map _) call⟩
  | finish call line =>
    cases List.mem_singleton.1 mem
    exact ⟨_, known call, rfl, congrArg (Option.map _) call⟩
  | @handOver t request k r next c queue call line there =>
    obtain rfl | woken := List.mem_cons.1 mem
    · exact ⟨_, known call, rfl, congrArg (Option.map _) call⟩
    · cases List.mem_singleton.1 woken
      have behind : c.request.target.pair = k.pair := pair_of_second line there
      have pair : k.pair = request.target.pair := Request.pair_of_laneKey? (co.keyed call)
      exact ⟨_, known there, rfl,
        (congrArg (Option.map _) call).trans (congrArg some (behind.trans pair).symm)⟩
  | sleep => cases mem
  | stray => cases mem
  | reconcile => cases mem

end Gate

end ProfileControls.Dispatch
