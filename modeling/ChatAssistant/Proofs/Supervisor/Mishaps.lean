import ChatAssistant.Proofs.Supervisor.Memory

/-!
# Mishaps

A request to the encyclopedia can end without an answer in five ways, each by a mechanism of its
own: as a fault of three kinds, by bringing its task down, or by not ending in time.  Each way has
its text, and none of them leaves anything behind but the count of messages.

* `Mishap.of?`, `Mishap.reply` — the ways, and the text of each, which no detail of a fault enters;
* `process_of_mishap` — what replying to a question comes to then;
* `step_count`, `session_count` — nothing that comes in later depends on the count of messages;
* `mishap_leaves_no_trace` — together.
-/

namespace ChatAssistant
namespace Supervisor

open Assistant (Asks World Limits Reply)

/-! ## The ways to fail -/

/-- How a request ends without an answer. -/
inductive Mishap where
  /-- The encyclopedia gave no answer in time. -/
  | silent
  /-- The encyclopedia could not be asked. -/
  | unreachable
  /-- A fault of another kind. -/
  | faulty
  /-- The request brought its task down. -/
  | crashed
  /-- The request took more time than there is for the message. -/
  | late
  deriving DecidableEq, Repr

namespace Mishap

/-- The mishap in an outcome. -/
def ofOutcome? : Encyclopedia.Outcome → Option Mishap
  | .failed (.lookupTimeout _) => some silent
  | .failed (.lookupFailed _) => some unreachable
  | .failed _ => some faulty
  | .crashed => some crashed
  | .found _ | .missing => none

/-- The mishap in a request for a message with this time, in milliseconds. -/
def of? (deadline : Nat) (lookup : Encyclopedia.Lookup) : Option Mishap :=
  if deadline ≤ lookup.delay then some late else ofOutcome? lookup.outcome

/-- The reply to a question whose request has met the mishap. -/
def reply (limits : Limits) : Mishap → Text
  | silent => Answer.enforceCeiling limits.maxAnswer Encyclopedia.timeoutMessage
  | unreachable => Answer.enforceCeiling limits.maxAnswer Encyclopedia.failureMessage
  | faulty => Assistant.apology
  | crashed | late => failureText

end Mishap

variable {limits : Limits} {cache : Cache} {setup : Setup} {world : World} {s : Supervisor}
  {question : Text} {mishap : Mishap}

/-- An outcome with a mishap brings the call down or leads to the reply of the mishap, which is not
to be remembered. -/
theorem Mishap.ofOutcome {outcome : Encyclopedia.Outcome} (h : ofOutcome? outcome = some mishap)
    (limits : Limits) (query : Text) :
    (Reply.ofOutcome limits query outcome = none ∧ mishap.reply limits = failureText) ∨
      ∃ reply, Reply.ofOutcome limits query outcome = some reply ∧
        reply.shown limits = mishap.reply limits ∧
        ∀ question cache, reply.remember limits question cache = cache := by
  cases outcome with
  | found article => cases h
  | missing => cases h
  | crashed =>
      cases h
      exact .inl ⟨rfl, rfl⟩
  | failed fault =>
      refine .inr ?_
      cases fault with
      | lookupTimeout detail =>
          cases h
          exact ⟨_, rfl, Assistant.shown_passing (Text.literal_ne_nil (by decide)), fun _ _ => rfl⟩
      | lookupFailed detail =>
          cases h
          exact ⟨_, rfl, Assistant.shown_passing (Text.literal_ne_nil (by decide)), fun _ _ => rfl⟩
      | _ =>
          cases h
          exact ⟨_, rfl, rfl, fun _ _ => rfl⟩

/-! ## Replying to the question -/

/-- A message makes a request only if it is a query that is not remembered, if the supervisor takes
it, and if there is time for it. -/
theorem of_queries_ne_nil (h : (s.process setup world question).queries ≠ []) :
    s.isOpen = true ∧ 0 < setup.deadline ∧ s.cache.lookup? question = none ∧ Asks question := by
  by_cases ho : s.isOpen = true
  · by_cases hd : setup.deadline = 0
    · -- Without any time nothing is even tried.
      refine absurd ?_ h
      simp only [process, ho, answerInTime, hd, if_true]
    · have hpos : 0 < setup.deadline := Nat.pos_of_ne_zero hd
      exact ⟨ho, hpos, (served_process hpos world ho question).asks h⟩
  · rw [process_of_closed ho] at h
    exact absurd rfl h

/-- A message for the question meets the mishap: in its request, or because there is no time to make
one. -/
inductive Meets (setup : Setup) (world : World) (s : Supervisor) (question : Text) :
    Mishap → Prop where
  | request {mishap : Mishap} (h : (s.process setup world question).queries ≠ [])
      (hm : Mishap.of? setup.deadline (world.lookup (Encyclopedia.query question)) = some mishap) :
      Meets setup world s question mishap
  | noTime (ho : s.isOpen = true) (hd : setup.deadline = 0) : Meets setup world s question .late

/-- A message whose request meets a mishap gets the reply of the mishap; it is counted, and nothing
else is changed. -/
theorem process_of_request (h : (s.process setup world question).queries ≠ [])
    (hm : Mishap.of? setup.deadline (world.lookup (Encyclopedia.query question)) = some mishap) :
    s.process setup world question =
      ⟨.ok (mishap.reply setup.limits), s.count, [Encyclopedia.query question]⟩ := by
  obtain ⟨ho, hd, hn, ha⟩ := of_queries_ne_nil h
  have hcall := Assistant.answer_of_asks setup.limits world hn ha
  rw [process_of_open ho, answerInTime, if_neg (Nat.ne_of_gt hd)]
  simp only [hcall]
  unfold Mishap.of? at hm
  split at hm
  · -- The request has an outcome, but it comes too late.
    rename_i hlate
    cases hm
    cases Reply.ofOutcome setup.limits (Encyclopedia.query question)
      (world.lookup (Encyclopedia.query question)).outcome with
    | some reply => simp only [hlate, if_true]; rfl
    | none => simp only [hlate, if_true]; rfl
  · rename_i hintime
    rcases Mishap.ofOutcome hm setup.limits (Encyclopedia.query question) with
      ⟨hr, hreply⟩ | ⟨reply, hr, hreply, hremember⟩
    · simp only [hr, hintime, if_false, hreply]
      rfl
    · simp only [hr, hintime, if_false, hreply, hremember]
      rfl

theorem process_of_mishap (h : Meets setup world s question mishap) :
    (s.process setup world question).result = .ok (mishap.reply setup.limits) ∧
      (s.process setup world question).supervisor = s.count := by
  cases h with
  | request h hm =>
      rw [process_of_request h hm]
      exact ⟨rfl, rfl⟩
  | noTime ho hd =>
      rw [process_of_open ho, answerInTime, if_pos hd]
      exact ⟨rfl, rfl⟩

/-! ## The count of messages -/

/-- The effect of a turn, with one more message counted before it. -/
def Turn.counted {α : Type} (turn : Turn α) : Turn α :=
  { turn with supervisor := turn.supervisor.count }

theorem process_count (setup : Setup) (world : World) (s : Supervisor) (question : Text) :
    s.count.process setup world question = (s.process setup world question).counted := by
  by_cases ho : s.isOpen = true
  · have hcache : s.count.cache = s.cache := rfl
    rw [process_of_open ho, process_of_open (s := s.count) ho]
    simp only [answerInTime, hcache]
    -- whether the answer comes in time does not depend on the count
    split
    · rfl
    · split
      · rfl
      · rfl
  · rw [process_of_closed ho, process_of_closed (s := s.count) ho]
    rfl

theorem shutdown_count (s : Supervisor) : s.count.shutdown = s.shutdown.counted := by
  by_cases ho : s.isOpen = true
  · have ho' : s.count.isOpen = true := ho
    simp only [shutdown, ho, ho', if_true]
    rfl
  · have ho' : ¬ s.count.isOpen = true := ho
    simp only [shutdown, ho, ho']
    rfl

/-- A message goes on with the count as any turn does; a report, which shows the count, is no
visit. -/
theorem respond_count (setup : Setup) (world : World) (s : Supervisor) (firstName message : Text) :
    (Conversation.respond setup world s.count firstName message).supervisor =
        (Conversation.respond setup world s firstName message).supervisor.count ∧
      (Conversation.respond setup world s.count firstName message).queries =
        (Conversation.respond setup world s firstName message).queries ∧
      messageVisits setup world s.count firstName message =
        messageVisits setup world s firstName message := by
  unfold messageVisits
  cases hq : Conversation.question? message with
  | none =>
      have h := respond_other hq setup world s firstName
      have h' := respond_other hq setup world s.count firstName
      exact ⟨by rw [h.1, h'.1], by rw [h.2, h'.2], rfl⟩
  | some question =>
      have h := respond_question hq setup world s firstName
      have h' := respond_question hq setup world s.count firstName
      rw [process_count] at h'
      rw [h, h']
      exact ⟨rfl, rfl, rfl⟩

theorem converse_count (setup : Setup) (world : Nat → World) (n : Nat) (s : Supervisor)
    (lines : List (List UInt8)) :
    (Console.converse setup world n s.count lines).supervisor =
        (Console.converse setup world n s lines).supervisor.count ∧
      (Console.converse setup world n s.count lines).queries =
        (Console.converse setup world n s lines).queries ∧
      lineVisits setup world n s.count lines = lineVisits setup world n s lines := by
  induction lines generalizing n s with
  | nil => exact ⟨rfl, rfl, rfl⟩
  | cons line rest ih =>
      unfold lineVisits exchanges Console.converse
      cases hm : Console.message line with
      | error e => exact ⟨rfl, rfl, rfl⟩
      | ok message =>
          obtain ⟨hs, hqueries, hvisits⟩ :=
            respond_count setup (world n) s Console.userName message
          obtain ⟨ihs, ihqueries, ihvisits⟩ := ih (n + 1)
            (Conversation.respond setup (world n) s Console.userName message).supervisor
          simp only [List.flatMap_cons, Exchange.turn, hs, hqueries, hvisits]
          exact ⟨ihs, by rw [ihqueries], congrArg _ ihvisits⟩

theorem step_count (setup : Setup) (s : Supervisor) (step : Step) :
    (step.take setup s.count).supervisor = (step.take setup s).supervisor.count ∧
      (step.take setup s.count).queries = (step.take setup s).queries ∧
      step.visits setup s.count = step.visits setup s := by
  obtain ⟨entry, world⟩ := step
  unfold Step.take Step.visits
  cases entry with
  | ask question => exact ⟨rfl, rfl, rfl⟩
  | process question =>
      dsimp only
      rw [process_count]
      exact ⟨rfl, rfl, rfl⟩
  | message firstName text => exact respond_count setup (world 0) s firstName text
  | console input => exact converse_count setup world 0 s (Console.lines input)
  | shutdown =>
      dsimp only
      rw [shutdown_count]
      exact ⟨rfl, rfl, rfl⟩

/-- A session goes on in the same way when one more message was counted before it. -/
theorem session_count (setup : Setup) (s : Supervisor) (steps : List Step) :
    (session setup s.count steps).supervisor = (session setup s steps).supervisor.count ∧
      (session setup s.count steps).queries = (session setup s steps).queries ∧
      visits setup s.count steps = visits setup s steps := by
  induction steps generalizing s with
  | nil => exact ⟨rfl, rfl, rfl⟩
  | cons step rest ih =>
      obtain ⟨hs, hqueries, hvisits⟩ := step_count setup s step
      obtain ⟨ihs, ihqueries, ihvisits⟩ := ih (step.take setup s).supervisor
      simp only [session, visits, hs, hqueries, hvisits]
      exact ⟨ihs, by rw [ihqueries], by rw [ihvisits]⟩

/-! ## No trace -/

/-- What comes in later goes after the second state as it goes after the first, up to the count; and
until the question gets a lasting answer, it makes its request again each time. -/
structure Forgotten (setup : Setup) (s s' : Supervisor) (question : Text) (steps : List Step) :
    Prop where
  supervisor : (session setup s' steps).supervisor = (session setup s steps).supervisor.count
  queries : (session setup s' steps).queries = (session setup s steps).queries
  visits : visits setup s' steps = visits setup s steps
  again : 0 < setup.deadline → ∀ before v after,
    Supervisor.visits setup s' steps = before ++ v :: after → v.question = question →
      (∀ u ∈ before, u.question = question → ¬ u.Lasting) →
        v.queries = [Encyclopedia.query question]

theorem forgotten_of_mishap (h : Meets setup world s question mishap) (steps : List Step) :
    Forgotten setup s s.count question steps := by
  obtain ⟨hsupervisor, hqueries, hvisits⟩ := session_count setup s steps
  refine ⟨hsupervisor, hqueries, hvisits, ?_⟩
  intro hd before v after hsplit hv hnew
  subst hv
  cases h with
  | request h hm =>
      obtain ⟨_, _, hn, ha⟩ := of_queries_ne_nil h
      have hnone : s.count.cache.lookup? v.question = none := hn
      exact (requests_of_visits hd hsplit hnone hnew).1 ha
  | noTime ho hzero => exact absurd hzero (Nat.ne_of_gt hd)

/-- Whatever state the program is in: when a message meets a mishap, the reply is the one of the
mishap, the memory is as before, and the message is counted.  Whatever comes in later goes as if the
message had never been there. -/
theorem mishap_leaves_no_trace (h : Meets setup world s question mishap) :
    (s.process setup world question).result = .ok (mishap.reply setup.limits) ∧
      (s.process setup world question).supervisor.cache = s.cache ∧
      (s.process setup world question).supervisor.processed = s.processed + 1 ∧
      ∀ steps, Forgotten setup s (s.process setup world question).supervisor question steps := by
  obtain ⟨hresult, hsupervisor⟩ := process_of_mishap h
  rw [hsupervisor]
  exact ⟨hresult, rfl, rfl, forgotten_of_mishap h⟩

/-- The state after a session with other questions. -/
def laterState : Supervisor := (session usualSetup fresh mixedSteps).supervisor

/-- An encyclopedia that has an answer, but takes as much time as there is. -/
def slowWorld : World := ⟨fun _ => ⟨Setup.usualDeadline, .missing⟩, Fin.last 2⟩

theorem mishap_leaves_no_trace_late :
    Meets usualSetup slowWorld laterState "что такое кварк".toList .late ∧
      (laterState.process usualSetup slowWorld "что такое кварк".toList).result =
        .ok (Mishap.late.reply usualSetup.limits) ∧
      (laterState.process usualSetup slowWorld "что такое кварк".toList).supervisor.cache =
        laterState.cache ∧
      (laterState.process usualSetup slowWorld "что такое кварк".toList).supervisor.processed =
        laterState.processed + 1 ∧
      ∀ steps, Forgotten usualSetup laterState
        (laterState.process usualSetup slowWorld "что такое кварк".toList).supervisor
        "что такое кварк".toList steps := by
  have hqueries :
      (laterState.process usualSetup slowWorld "что такое кварк".toList).queries ≠ [] := by
    decide +kernel
  have hmishap : Mishap.of? usualSetup.deadline
      (slowWorld.lookup (Encyclopedia.query "что такое кварк".toList)) = some .late := by
    decide +kernel
  have hmeets := Meets.request hqueries hmishap
  exact ⟨hmeets, mishap_leaves_no_trace hmeets⟩

end Supervisor
end ChatAssistant
