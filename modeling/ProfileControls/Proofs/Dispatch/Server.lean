import Mathlib.Data.List.DropRight
import Mathlib.Data.List.Induction
import ProfileControls.Dispatch.Server
import ProfileControls.Proofs.Relationship.Independence

/-!
# The server in memory

What a server in memory has can be told from what was said to it and what it answered
(`Server.run_told`). A transcript has one line for each message: a relationship that is seeded, a
failure that is queued, a request that is performed, or a question for a relationship. The log is
the requests of the transcript. The failures that are queued are taken by requests in their order,
one each. The relationship of a pair is what the requests of that pair have made, since it was last
seeded, of what was seeded.

`Server.Told` is carried by induction on the messages from their end, one case for each kind of
message. A request sets and clears the same flags each time, so a granted one may be repeated at
once, for instance because its reply was lost on the way; but for the log that is as if it had not
been (`Server.perform_again`). A request that failed is another matter. If there is no failure left
for the second one, then it does what the first one was to do (`Server.perform_twice_iff`).
-/

namespace ProfileControls

/-- What an action sets and clears does not depend on the relationship, so at once a second time it
changes nothing. -/
lemma Relationship.after_again (r : Relationship) (action : Action) (locked : Bool) :
    (r.after action locked).after action locked = r.after action locked := by
  apply ext_flag
  case flags =>
    intro f
    rw [flag_after, flag_after]
    cases (action.marks locked).lookup f <;> rfl
  case note => rw [note_after]

namespace Dispatch.Server

/-- What can be said to a server in memory. -/
inductive Message where
  | seed (p : Pair) (r : Relationship)
  | failNext (fault : TransportFault)
  | perform (request : Request)
  | ask (p : Pair)
deriving DecidableEq, Repr

/-- What a server in memory answers. -/
inductive Answer where
  | done
  | reply (r : Reply)
  | relationship (r : Relationship)

/-- A message and the answer to it. -/
structure Line where
  message : Message
  answer : Answer

/-- The answer to a message, and the server after it. -/
def answer (s : Server) : Message → Answer × Server
  | .seed p r => (.done, s.seed p r)
  | .failNext fault => (.done, s.failNext fault)
  | .perform request => ((.reply (s.perform request).1), (s.perform request).2)
  | .ask p => (.relationship (s.relationship p), s)

/-- The line that a message makes in the transcript. -/
def line (s : Server) (m : Message) : Line :=
  ⟨m, (s.answer m).1⟩

/-- The server after a number of messages, and the transcript. -/
def run (s : Server) : List Message → Server × List Line
  | [] => (s, [])
  | m :: messages =>
    (((s.answer m).2.run messages).1, s.line m :: ((s.answer m).2.run messages).2)

/-! ## What a transcript tells -/

namespace Line

/-- The request that is performed. -/
def performed? : Line → Option Request
  | ⟨.perform request, _⟩ => some request
  | _ => none

/-- The failure that is queued. -/
def queued? : Line → Option TransportFault
  | ⟨.failNext fault, _⟩ => some fault
  | _ => none

/-- A request fails. -/
def fails : Line → Bool
  | ⟨.perform _, .reply (.error _)⟩ => true
  | _ => false

/-- The request of the pair that is granted. -/
def granted? (p : Pair) : Line → Option Request
  | ⟨.perform request, .reply (.ok _)⟩ => if request.target.pair = p then some request else none
  | _ => none

/-- The relationship that is seeded for the pair. -/
def seeded? (p : Pair) : Line → Option Relationship
  | ⟨.seed q r, _⟩ => if q = p then some r else none
  | _ => none

end Line

/-- The failures that were queued, in their order. -/
def queued (lines : List Line) : List TransportFault :=
  lines.filterMap Line.queued?

/-- How many of the failures have been taken by requests. -/
def taken (lines : List Line) : Nat :=
  lines.countP Line.fails

/-- The relationship that was seeded last for the pair, or else the one without any flags. -/
def origin (p : Pair) (lines : List Line) : Relationship :=
  (lines.filterMap (Line.seeded? p)).getLast?.getD .unrelated

/-- The requests of the pair that were granted since it was last seeded, in their order. -/
def grantedSince (p : Pair) (lines : List Line) : List Request :=
  (lines.rtakeWhile fun line => (line.seeded? p).isNone).filterMap (Line.granted? p)

/-- What the granted requests of a pair have made of the relationship that was seeded. -/
def outcome (p : Pair) (lines : List Line) : Relationship :=
  (grantedSince p lines).foldl (fun r q => r.after q.action q.target.locked) (origin p lines)

/-- The server is as the transcript tells. -/
structure Kept (s : Server) (lines : List Line) : Prop where
  log : s.log = lines.filterMap Line.performed?
  relationship : ∀ p, s.relationship p = outcome p lines
  /-- no more failures have been taken than queued -/
  bound : taken lines ≤ (queued lines).length
  /-- the failures that are left are the ones queued last -/
  failures : s.failures = (queued lines).drop (taken lines)

/-- A request may be repeated at once. -/
structure Repeatable (s : Server) (q : Request) : Prop where
  /-- after a request was granted, it is granted once more with the same reply, and whatever comes
  later is answered and ends as if it had been made once -/
  granted : ∀ r later, (s.perform q).1 = .ok r →
    (s.run (.perform q :: .perform q :: later)).2 =
        ⟨.perform q, .reply (.ok r)⟩ :: (s.run (.perform q :: later)).2 ∧
      ∀ p, (s.run (.perform q :: .perform q :: later)).1.relationship p =
        (s.run (.perform q :: later)).1.relationship p
  /-- granted or not, both together leave what one of them leaves that meets the failure, if there
  is one, that the second one meets -/
  once : ∀ p, ((s.perform q).2.perform q).2.relationship p =
    (({ s with failures := s.failures.tail } : Server).perform q).2.relationship p

/-- What the server has, and how it answers to a request, is told by the transcript. -/
structure Told (s : Server) (lines : List Line) : Prop where
  /-- the log is all requests, in their order -/
  log : s.log = lines.filterMap Line.performed?
  /-- to ask for a relationship is answered with what the granted requests have made of it, and
  changes nothing -/
  asked : ∀ p, s.answer (.ask p) = (.relationship (outcome p lines), s)
  /-- a request fails exactly if more failures were queued than taken -/
  fails : ∀ q, (∃ fault, (s.perform q).1 = .error fault) ↔ taken lines < (queued lines).length
  /-- the failure is the oldest that is left, and nothing comes of the request -/
  oldest : ∀ q fault, (s.perform q).1 = .error fault →
    (queued lines)[taken lines]? = some fault ∧
      ∀ p, (s.perform q).2.relationship p = s.relationship p
  /-- otherwise the reply is the relationship that comes of the request -/
  granted : ∀ q r, (s.perform q).1 = .ok r →
    r = (outcome q.target.pair lines).after q.action q.target.locked
  /-- a request that is made twice at once leaves what it leaves if it is made once, except where it
  makes a difference and a single failure is left, so that only the first one is lost -/
  twice : ∀ q,
    (∀ p, ((s.perform q).2.perform q).2.relationship p = (s.perform q).2.relationship p) ↔
    ((queued lines).length = taken lines + 1 →
      (outcome q.target.pair lines).after q.action q.target.locked = outcome q.target.pair lines)
  /-- a request may be repeated at once -/
  repeatable : ∀ q, s.Repeatable q

variable {s : Server} {q : Request} {p : Pair} {lines : List Line}

/-! ## One message -/

/-- Seeding sets the relationship of its own pair only. -/
lemma relationship_seed (s : Server) (p p' : Pair) (r : Relationship) :
    (s.seed p r).relationship p' = if p' = p then r else s.relationship p' := by
  rw [relationship, seed, Table.get?_put]
  split <;> rfl

/-- A queued failure is taken by the next request, which is lost. -/
lemma perform_failing {fault : TransportFault} {rest} (failures : s.failures = fault :: rest)
    (q : Request) :
    s.perform q = (.error fault, { s with log := s.log ++ [q], failures := rest }) := by
  simp only [perform, failures]

/-- Without queued failures, requests are granted. -/
lemma perform_granting (failures : s.failures = []) (q : Request) :
    s.perform q =
      (.ok ((s.relationship q.target.pair).after q.action q.target.locked),
        ({ s with log := s.log ++ [q] } : Server).seed q.target.pair
          ((s.relationship q.target.pair).after q.action q.target.locked)) := by
  simp only [perform, failures]
  rfl

/-- A reply without a fault tells what the server has. -/
lemma relationship_of_ok {r : Relationship} (reply : (s.perform q).1 = .ok r) :
    (s.perform q).2.relationship q.target.pair = r := by
  cases failures : s.failures with
  | cons fault rest =>
    rw [perform_failing failures] at reply
    cases reply
  | nil =>
    rw [perform_granting failures] at reply ⊢
    cases reply
    rw [relationship_seed, if_pos rfl]

/-- A request that fails changes no relationship. -/
lemma relationship_of_error {fault : TransportFault} (reply : (s.perform q).1 = .error fault) :
    (s.perform q).2.relationship p = s.relationship p := by
  cases failures : s.failures with
  | cons fault' rest =>
    rw [perform_failing failures]
    rfl
  | nil =>
    rw [perform_granting failures] at reply
    cases reply

/-- A request changes the relationship of its own pair only. -/
lemma relationship_other (other : p ≠ q.target.pair) :
    (s.perform q).2.relationship p = s.relationship p := by
  cases failures : s.failures with
  | cons fault rest =>
    rw [perform_failing failures]
    rfl
  | nil =>
    rw [perform_granting failures, relationship_seed, if_neg other]
    rfl

/-! ## What one message does -/

/-- A message adds to the log the request that it makes, if it makes one. -/
lemma log_answer (s : Server) (m : Message) :
    (s.answer m).2.log = s.log ++ (s.line m).performed?.toList := by
  cases m with
  | seed => exact (List.append_nil _).symm
  | failNext => exact (List.append_nil _).symm
  | ask => exact (List.append_nil _).symm
  | perform q =>
    cases failures : s.failures with
    | cons fault rest =>
      rw [answer, perform_failing failures]
      rfl
    | nil =>
      rw [answer, perform_granting failures]
      rfl

/-- The pair is seeded anew, or one more of its requests is granted, or nothing happens to it. -/
lemma relationship_answer (s : Server) (m : Message) (p : Pair) :
    (s.answer m).2.relationship p =
      match (s.line m).seeded? p, (s.line m).granted? p with
      | some r, _ => r
      | none, some q => (s.relationship p).after q.action q.target.locked
      | none, none => s.relationship p := by
  cases m with
  | seed q r =>
    rw [answer, relationship_seed]
    by_cases same : q = p
    · simp [line, Line.seeded?, same]
    · simp [line, Line.seeded?, Line.granted?, same, Ne.symm same]
  | failNext => rfl
  | ask => rfl
  | perform q =>
    cases failures : s.failures with
    | cons fault rest =>
      rw [line, answer, perform_failing failures]
      rfl
    | nil =>
      rw [line, answer, perform_granting failures, relationship_seed]
      by_cases same : q.target.pair = p
      · subst same
        simp [Line.seeded?, Line.granted?]
      · rw [if_neg (Ne.symm same)]
        simp [Line.seeded?, Line.granted?, same]
        rfl

/-- A request fails only if a failure is left, and takes the first one. -/
lemma failures_answer (s : Server) (m : Message) :
    (s.line m).fails.toNat ≤ s.failures.length ∧
      (s.answer m).2.failures =
        s.failures.drop (s.line m).fails.toNat ++ (s.line m).queued?.toList := by
  cases m with
  | seed => exact ⟨Nat.zero_le _, (List.append_nil _).symm⟩
  | failNext => exact ⟨Nat.zero_le _, rfl⟩
  | ask => exact ⟨Nat.zero_le _, (List.append_nil _).symm⟩
  | perform q =>
    cases failures : s.failures with
    | cons fault rest =>
      rw [line, answer, perform_failing failures]
      exact ⟨Nat.le_add_left 1 _, (List.append_nil _).symm⟩
    | nil =>
      rw [line, answer, perform_granting failures]
      exact ⟨Nat.le_refl 0, failures⟩

/-! ## Transcripts -/

/-- A line adds the failure that it queues, if it queues one. -/
lemma queued_concat (lines : List Line) (line : Line) :
    queued (lines ++ [line]) = queued lines ++ line.queued?.toList := by
  rw [queued, List.filterMap_append, queued]
  cases queues : line.queued? <;> simp [queues]

/-- A line adds one to the failures that are taken if its request fails. -/
lemma taken_concat (lines : List Line) (line : Line) :
    taken (lines ++ [line]) = taken lines + line.fails.toNat := by
  rw [taken, List.countP_append, taken]
  cases fails : line.fails <;> simp [fails]

/-- After a line the outcome is what was seeded, what was granted, or as before. -/
lemma outcome_concat (p : Pair) (lines : List Line) (line : Line) :
    outcome p (lines ++ [line]) =
      match line.seeded? p, line.granted? p with
      | some r, _ => r
      | none, some q => (outcome p lines).after q.action q.target.locked
      | none, none => outcome p lines := by
  rw [outcome, origin, grantedSince, List.rtakeWhile_concat, List.filterMap_append]
  cases seeded : line.seeded? p with
  | some r => simp [seeded]
  | none =>
    cases granted : line.granted? p with
    | none => simp [seeded, granted, outcome, origin, grantedSince]
    | some q => simp [seeded, granted, outcome, origin, grantedSince]

/-- Messages may be said in two parts. -/
lemma run_append (s : Server) (messages later : List Message) :
    s.run (messages ++ later) =
      (((s.run messages).1.run later).1,
        (s.run messages).2 ++ ((s.run messages).1.run later).2) := by
  induction messages generalizing s with
  | nil => rfl
  | cons m messages ih => simp [run, ih]

/-- A message keeps the server as the transcript tells. -/
lemma Kept.next (kept : Kept s lines) (m : Message) :
    Kept (s.answer m).2 (lines ++ [s.line m]) := by
  obtain ⟨left, failures⟩ := s.failures_answer m
  have length : s.failures.length = (queued lines).length - taken lines := by
    rw [kept.failures, List.length_drop]
  have bound := kept.bound
  -- a failure is only taken where one is left, so what is taken stays within what is queued
  constructor
  case log =>
    rw [log_answer, kept.log, List.filterMap_append]
    cases performed : (s.line m).performed? <;> simp [performed]
  case relationship =>
    intro p
    rw [relationship_answer, outcome_concat, kept.relationship]
  case bound =>
    rw [taken_concat, queued_concat, List.length_append]
    omega
  case failures =>
    rw [failures, kept.failures, List.drop_drop, taken_concat, queued_concat,
      List.drop_append_of_le_length]
    omega

/-- Whatever was said to it, a server is as the transcript tells. -/
lemma kept_run (messages : List Message) : Kept (run {} messages).1 (run {} messages).2 := by
  induction messages using List.reverseRecOn with
  | nil => exact ⟨rfl, fun _ => rfl, Nat.le_refl 0, rfl⟩
  | append_singleton messages m ih =>
    rw [run_append]
    exact ih.next m

/-! ## Repeated requests -/

/-- A request is granted only if no failure is left. -/
lemma failures_of_ok {r : Relationship} (granted : (s.perform q).1 = .ok r) : s.failures = [] := by
  cases failures : s.failures with
  | nil => rfl
  | cons fault rest =>
    rw [perform_failing failures] at granted
    cases granted

/-- A request that was granted is granted at once a second time, and only the log can tell. -/
lemma perform_again {r : Relationship} (granted : (s.perform q).1 = .ok r) :
    (s.perform q).2.perform q =
      (.ok r, { (s.perform q).2 with log := (s.perform q).2.log ++ [q] }) := by
  have none := failures_of_ok granted
  have none' : (s.perform q).2.failures = [] := by
    rw [perform_granting none]
    exact none
  -- the second request seeds the relationship that the first one has left
  rw [perform_granting none', relationship_of_ok granted]
  rw [perform_granting none] at granted ⊢
  cases granted
  rw [Relationship.after_again]
  simp only [seed, Table.put_put]

/-- What is in the log makes no difference to a request. -/
lemma perform_withLog (s : Server) (log : List Request) (q : Request) :
    ({ s with log := log } : Server).perform q =
      ((s.perform q).1, { (s.perform q).2 with log := log ++ [q] }) := by
  obtain ⟨relationships, failures, log⟩ := s
  cases failures <;> rfl

/-- What is in the log makes no difference to an answer. -/
lemma answer_withLog (s : Server) (log : List Request) (m : Message) :
    ∃ log', ({ s with log := log } : Server).answer m =
      ((s.answer m).1, { (s.answer m).2 with log := log' }) := by
  cases m with
  | seed => exact ⟨log, rfl⟩
  | failNext => exact ⟨log, rfl⟩
  | ask => exact ⟨log, rfl⟩
  | perform q =>
    refine ⟨log ++ [q], ?_⟩
    rw [answer, perform_withLog]
    rfl

/-- What is in the log makes no difference to answers and relationships, whatever is said. -/
lemma run_withLog (s : Server) (log : List Request) (messages : List Message) :
    (({ s with log := log } : Server).run messages).2 = (s.run messages).2 ∧
      ∀ p, (({ s with log := log } : Server).run messages).1.relationship p =
        (s.run messages).1.relationship p := by
  induction messages generalizing s log with
  | nil => exact ⟨rfl, fun _ => rfl⟩
  | cons m messages ih =>
    obtain ⟨log', same⟩ := s.answer_withLog log m
    obtain ⟨lines, relationship⟩ := ih (s.answer m).2 log'
    rw [run, run, line, line, same]
    exact ⟨congrArg (List.cons _) lines, relationship⟩

/-- The second one counts, as if the first had only taken its failure. -/
lemma perform_twice (s : Server) (q : Request) (p : Pair) :
    ((s.perform q).2.perform q).2.relationship p =
      (({ s with failures := s.failures.tail } : Server).perform q).2.relationship p := by
  cases failures : s.failures with
  | cons fault rest =>
    rw [perform_failing failures, List.tail_cons]
    have log := perform_withLog { s with failures := rest } (s.log ++ [q]) q
    rw [log]
    rfl
  | nil =>
    have unchanged : ({ s with failures := [] } : Server) = s := by rw [← failures]
    have granted := congrArg Prod.fst (perform_granting failures q)
    rw [perform_again granted, List.tail_nil, unchanged]
    rfl

/-- Both requests leave what one leaves, unless the first one is lost and the second one is not. -/
lemma perform_twice_iff (s : Server) (q : Request) :
    (∀ p, ((s.perform q).2.perform q).2.relationship p = (s.perform q).2.relationship p) ↔
      (s.failures.length = 1 →
        (s.relationship q.target.pair).after q.action q.target.locked =
          s.relationship q.target.pair) := by
  match failures : s.failures with
  | [] =>
    have granted := congrArg Prod.fst (perform_granting failures q)
    refine iff_of_true (fun p => ?_) nofun
    rw [perform_again granted]
    rfl
  | [fault] =>
    have lost : ∀ p, (s.perform q).2.relationship p = s.relationship p :=
      fun _ => relationship_of_error (congrArg Prod.fst (perform_failing failures q))
    have made : ∀ p, ((s.perform q).2.perform q).2.relationship p =
        if p = q.target.pair then (s.relationship p).after q.action q.target.locked
        else s.relationship p := by
      intro p
      rw [perform_failing failures, perform_granting rfl, relationship_seed]
      split
      case isTrue same => exact same ▸ rfl
      case isFalse => rfl
    constructor
    · intro same _
      have twice := made q.target.pair
      rw [if_pos rfl, same, lost] at twice
      exact twice.symm
    · intro same p
      rw [made, lost]
      split
      case isTrue pair => exact pair ▸ same rfl
      case isFalse => rfl
  | fault :: fault' :: rest =>
    refine iff_of_true (fun p => ?_) nofun
    rw [perform_failing failures, perform_failing rfl]
    rfl

/-- Every request may be repeated at once. -/
lemma repeatable (s : Server) (q : Request) : s.Repeatable q := by
  constructor
  case granted =>
    intro r later granted
    have again := perform_again granted
    obtain ⟨lines, relationship⟩ :=
      (s.perform q).2.run_withLog ((s.perform q).2.log ++ [q]) later
    simp only [run, line, answer, again, granted]
    refine ⟨?_, relationship⟩
    rw [lines]
  case once => exact s.perform_twice q

/-! ## What a server has -/

/-- A request fails exactly if a failure is left. -/
lemma perform_fails_iff (s : Server) (q : Request) :
    (∃ fault, (s.perform q).1 = .error fault) ↔ s.failures ≠ [] := by
  cases failures : s.failures with
  | cons fault rest =>
    rw [perform_failing failures]
    exact iff_of_true ⟨fault, rfl⟩ (List.cons_ne_nil _ _)
  | nil =>
    rw [perform_granting failures]
    exact iff_of_false nofun (fun left => left rfl)

/-- A request fails with the first failure that is left. -/
lemma head?_failures {fault : TransportFault} (lost : (s.perform q).1 = .error fault) :
    s.failures.head? = some fault := by
  cases failures : s.failures with
  | cons fault' rest =>
    rw [perform_failing failures] at lost
    cases lost
    rfl
  | nil =>
    rw [perform_granting failures] at lost
    cases lost

/-- What was said to a server in memory and what it answered tell what it has and how it answers to
the next request, and a request may be repeated at once. -/
theorem run_told (messages : List Message) : Told (run {} messages).1 (run {} messages).2 := by
  have kept := kept_run messages
  constructor
  case log => exact kept.log
  case asked =>
    intro p
    rw [answer, kept.relationship]
  case fails =>
    intro q
    rw [perform_fails_iff, kept.failures, ne_eq, List.drop_eq_nil_iff, Nat.not_le]
  case oldest =>
    intro q fault lost
    have first := head?_failures lost
    rw [kept.failures, List.head?_drop] at first
    exact ⟨first, fun p => relationship_of_error lost⟩
  case granted =>
    intro q r granted
    rw [perform_granting (failures_of_ok granted), kept.relationship] at granted
    exact (Except.ok.inj granted).symm
  case twice =>
    intro q
    have left : (run {} messages).1.failures.length = 1 ↔
        (queued (run {} messages).2).length = taken (run {} messages).2 + 1 := by
      rw [kept.failures, List.length_drop]
      omega
    rw [perform_twice_iff, left, kept.relationship]
  case repeatable => exact repeatable _

/-- A viewer and an account that the viewer follows. -/
def samplePair : Pair :=
  ⟨⟨"100"⟩, ⟨"1"⟩⟩

/-- The viewer blocks the account. -/
def sampleBlock : Request :=
  ⟨⟨samplePair, false⟩, .block⟩

/-- A mute gets through, and a block is lost. -/
def sampleMessages : List Message :=
  [.seed samplePair .ofFollower, .perform ⟨⟨samplePair, false⟩, .mute⟩, .failNext (.network "lost"),
    .perform sampleBlock]

/-- If a block is lost and sent again, then it is not as if it had been sent once. -/
theorem not_forall_perform_twice : ¬ ∀ (messages : List Message) (q : Request) (p : Pair),
    (run {} (messages ++ [.perform q, .perform q])).1.relationship p =
      (run {} (messages ++ [.perform q])).1.relationship p := by
  intro same
  exact absurd (same [.failNext (.network "lost")] sampleBlock samplePair) (by decide)

/-- A mute shows, and a block that gets through may be repeated although it was lost before. -/
theorem sampleMessages_told :
    (run {} sampleMessages).1.answer (.ask samplePair) =
        (.relationship (Relationship.ofFollower.after .mute false), (run {} sampleMessages).1) ∧
      ∀ p, ((run {} sampleMessages).1.run
          [.perform sampleBlock, .perform sampleBlock]).1.relationship p =
        ((run {} sampleMessages).1.run [.perform sampleBlock]).1.relationship p := by
  have told := run_told sampleMessages
  have made : outcome samplePair (run {} sampleMessages).2 =
      Relationship.ofFollower.after .mute false := by decide
  refine ⟨made ▸ told.asked samplePair, ?_⟩
  obtain ⟨-, relationship⟩ := (told.repeatable sampleBlock).granted _ [] rfl
  exact relationship

end Dispatch.Server

end ProfileControls
