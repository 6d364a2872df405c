import ChatAssistant.Console
import ChatAssistant.Proofs.Assistant.Replies

/-!
# Sessions

One program serves whatever comes in, one thing after the other: questions that are put to the
assistant itself or to the supervisor, messages, whole conversations on the console, and at some
point the end of the supervisor.  All of them share one memory.

* `Step.take`, `session` — what one step does, and what steps in a row do, by the very functions
  that serve them;
* `Step.visits`, `visits` — the questions that reach the assistant on the way, with all that comes
  of them;
* `Visit.Served` — the three ways in which a visit can go;
* `session_accounts` — the visits account for a session: each of them is served, each starts from
  the memory that the one before it has left, and nothing else makes requests;
* `output_converse` — the console shows what is replied to its messages, visits or not.
-/

namespace ChatAssistant

/-! ## Which answers are remembered -/

/-- The request ended with an article, or with the news that there is none. -/
def Encyclopedia.Outcome.isAnswer : Encyclopedia.Outcome → Bool
  | .found _ | .missing => true
  | .failed _ | .crashed => false

namespace Assistant

open Encyclopedia (Outcome)

/-- The answer to the question is to be remembered: the question makes no request, or its request
ends with an answer and within the limit, if there is one. -/
def Lasts (limit : Option Nat) (world : World) (question : Text) : Prop :=
  Asks question →
    (∀ time ∈ limit, (world.lookup (Encyclopedia.query question)).delay < time) ∧
      (world.lookup (Encyclopedia.query question)).outcome.isAnswer = true

/-- The requests are those of a question that is not remembered: its query, if it has one. -/
def Requests (question : Text) (queries : List Text) : Prop :=
  (Asks question → queries = [Encyclopedia.query question]) ∧ (¬ Asks question → queries = [])

instance (limit : Option Nat) (world : World) (question : Text) :
    Decidable (Lasts limit world question) :=
  inferInstanceAs (Decidable (_ → _))

variable {limits : Limits} {cache : Cache} {question : Text} {request : Option Request}
  {reply : Reply} {outcome : Outcome}

theorem Asks.requests (h : Asks question) : Requests question [Encyclopedia.query question] :=
  ⟨fun _ => rfl, fun hn => absurd h hn⟩

theorem requests_of_not_asks (h : ¬ Asks question) : Requests question [] :=
  ⟨fun ha => absurd ha h, fun _ => rfl⟩

/-- Without a request every reply is to be remembered. -/
theorem Handled.exists_lasting (h : Handled limits question none reply) :
    ∃ text, reply = .lasting text := by
  cases h with
  | math _ => exact ⟨_, rfl⟩
  | general _ pick => exact ⟨_, rfl⟩
  | noQuery _ _ => exact ⟨_, rfl⟩

/-- What is remembered of a reply is what is shown of it. -/
theorem Handled.remember_lasting {text : Text} (h : Handled limits question request (.lasting text))
    (cache : Cache) :
    (Reply.lasting text).remember limits question cache =
      cache.store question ((Reply.lasting text).shown limits) := by
  rw [h.shown_eq]
  rfl

/-- A request with an answer leads to a reply that is to be remembered. -/
theorem Reply.exists_lasting_of_isAnswer {query : Text} (ho : outcome.isAnswer = true)
    (h : Reply.ofOutcome limits query outcome = some reply) : ∃ text, reply = .lasting text := by
  cases outcome with
  | found article => exact ⟨_, (Option.some.inj h).symm⟩
  | missing => exact ⟨_, (Option.some.inj h).symm⟩
  | failed fault => cases ho
  | crashed => cases ho

/-- A request without an answer leaves no trace in the memory. -/
theorem Reply.remember_of_not_isAnswer {query : Text} (ho : ¬ outcome.isAnswer = true)
    (h : Reply.ofOutcome limits query outcome = some reply) (cache : Cache) :
    reply.remember limits question cache = cache := by
  cases outcome with
  | found article => exact absurd rfl ho
  | missing => exact absurd rfl ho
  | failed fault =>
      obtain rfl := Option.some.inj h
      -- the fault has a message of its own, or it ends in the apology
      split
      · rfl
      · rfl
  | crashed => cases h

end Assistant

/-- The question of a message; none if the message is a command or blank. -/
def Conversation.question? (message : Text) : Option Text :=
  match Command.ofText message with
  | .question q => if Text.isBlankText q then none else some q
  | _ => none

namespace Supervisor

open Assistant (Asks Lasts Requests Called World Limits Handled Reply)

/-- The effect of dealing with a message, with another view of its result. -/
def Turn.map {α β : Type} (f : α → β) (turn : Turn α) : Turn β :=
  ⟨f turn.result, turn.supervisor, turn.queries⟩

/-- The usual settings. -/
def usualSetup : Setup :=
  ⟨⟨4000, 400⟩, "https://ru.wikipedia.org/w/api.php".toList, Setup.usualDeadline, ⟨0⟩⟩

/-! ## Steps -/

/-- What can come in. -/
inductive Entry where
  /-- A question for the assistant itself. -/
  | ask (question : Text)
  /-- A question for the supervisor. -/
  | process (question : Text)
  | message (firstName text : Text)
  /-- A whole conversation. -/
  | console (input : List UInt8)
  | shutdown
  deriving DecidableEq, Repr

/-- What comes in, and what it meets: the calls of a conversation one world each, the others the
first. -/
structure Step where
  entry : Entry
  world : Nat → World

/-- The effect of a step. -/
def Step.take (setup : Setup) (s : Supervisor) (step : Step) : Turn Unit :=
  match step.entry with
  | .ask question => (s.ask setup (step.world 0) question).map fun _ => ()
  | .process question => (s.process setup (step.world 0) question).map fun _ => ()
  | .message firstName text =>
      (Conversation.respond setup (step.world 0) s firstName text).map fun _ => ()
  | .console input =>
      let run := Console.run setup step.world s input
      ⟨(), run.supervisor, run.queries⟩
  | .shutdown => s.shutdown.map fun _ => ()

/-- The effect of steps in a row. -/
def session (setup : Setup) : Supervisor → List Step → Turn Unit
  | s, [] => ⟨(), s, []⟩
  | s, step :: rest =>
      let turn := step.take setup s
      let others := session setup turn.supervisor rest
      ⟨(), others.supervisor, turn.queries ++ others.queries⟩

/-! ## Visits -/

/-- A question that reaches the assistant, and what comes of it. -/
structure Visit where
  question : Text
  /-- The time that the answer may take, in milliseconds, if that is limited. -/
  limit : Option Nat
  /-- What the call meets. -/
  world : World
  before : Cache
  after : Cache
  /-- The answer; none if the call came down and nobody stands in for it. -/
  answer : Option Text
  /-- What the encyclopedia was asked, in order. -/
  queries : List Text

/-- The answer of the visit is to be remembered. -/
def Visit.Lasting (v : Visit) : Prop := Lasts v.limit v.world v.question

instance (v : Visit) : Decidable v.Lasting := inferInstanceAs (Decidable (Lasts _ _ _))

/-- The visit of a question that took this turn. -/
def Visit.ofTurn (question : Text) (limit : Option Nat) (world : World) (s : Supervisor)
    (turn : Turn (Option Text)) : Visit :=
  ⟨question, limit, world, s.cache, turn.supervisor.cache, turn.result, turn.queries⟩

/-- The visits of a message: one if it is a question and the supervisor takes it. -/
def messageVisits (setup : Setup) (world : World) (s : Supervisor) (firstName message : Text) :
    List Visit :=
  match Conversation.question? message with
  | some question =>
      if s.isOpen then
        [.ofTurn question setup.deadline world s
          (Conversation.respond setup world s firstName message)]
      else []
  | none => []

/-- A message on the console, and what it meets. -/
structure Exchange where
  world : World
  supervisor : Supervisor
  message : Text

def Exchange.turn (setup : Setup) (e : Exchange) : Turn (Option Text) :=
  Conversation.respond setup e.world e.supervisor Console.userName e.message

/-- The messages in the lines of a conversation, up to a line that ends it. -/
def exchanges (setup : Setup) (world : Nat → World) (n : Nat) (s : Supervisor) :
    List (List UInt8) → List Exchange
  | [] => []
  | line :: rest =>
      match Console.message line with
      | .error _ => []
      | .ok message =>
          let e : Exchange := ⟨world n, s, message⟩
          e :: exchanges setup world (n + 1) (e.turn setup).supervisor rest

/-- The visits of the lines of a conversation. -/
def lineVisits (setup : Setup) (world : Nat → World) (n : Nat) (s : Supervisor)
    (lines : List (List UInt8)) : List Visit :=
  (exchanges setup world n s lines).flatMap fun e =>
    messageVisits setup e.world e.supervisor Console.userName e.message

/-- The visits of a step. -/
def Step.visits (setup : Setup) (s : Supervisor) (step : Step) : List Visit :=
  match step.entry with
  | .ask question =>
      [.ofTurn question none (step.world 0) s (s.ask setup (step.world 0) question)]
  | .process question =>
      if s.isOpen then
        [.ofTurn question setup.deadline (step.world 0) s
          ((s.process setup (step.world 0) question).map Except.toOption)]
      else []
  | .message firstName text => messageVisits setup (step.world 0) s firstName text
  | .console input => lineVisits setup step.world 0 s (Console.lines input)
  | .shutdown => []

/-- The visits of steps in a row. -/
def visits (setup : Setup) : Supervisor → List Step → List Visit
  | _, [] => []
  | s, step :: rest => step.visits setup s ++ visits setup (step.take setup s).supervisor rest

/-! ## How a visit can go -/

/-- All that can come of a visit: the answer was remembered, or it is new and to be remembered, or
it is new and passing. -/
inductive Visit.Served : Visit → Prop where
  | remembered {question a : Text} {limit : Option Nat} {world : World} {cache : Cache}
      (hc : cache.lookup? question = some a) :
      Served ⟨question, limit, world, cache, cache, some a, []⟩
  | lasting {question : Text} {limit : Option Nat} {world : World} {cache : Cache}
      {queries : List Text} (hc : cache.lookup? question = none)
      (hl : Lasts limit world question) (hq : Requests question queries) (text : Text) :
      Served ⟨question, limit, world, cache, cache.store question text, some text, queries⟩
  | passing {question : Text} {limit : Option Nat} {world : World} {cache : Cache}
      {queries : List Text} (hc : cache.lookup? question = none)
      (hl : ¬ Lasts limit world question) (hq : Requests question queries)
      (answer : Option Text) :
      Served ⟨question, limit, world, cache, cache, answer, queries⟩

variable {setup : Setup} {limits : Limits} {world : World} {cache : Cache} {question : Text}
  {call : Assistant.Call}

/-- A call within the limit is served; if it came down, any answer may stand in. -/
theorem served_of_called {limit : Option Nat} {answer : Option Text}
    (h : Called limits world cache question call) (ht : ∀ time ∈ limit, call.delay < time)
    (ha : ∀ a, call.answer = some a → answer = some a) :
    Visit.Served ⟨question, limit, world, cache, call.cache, answer, call.query.toList⟩ := by
  cases h with
  | remembered hc =>
      obtain rfl := ha _ rfl
      exact .remembered hc
  | @handled hc reply hr =>
      obtain rfl := ha _ rfl
      have hasks : ¬ Asks question := hr.not_asks
      obtain ⟨text, rfl⟩ := hr.exists_lasting
      rw [hr.remember_lasting]
      exact .lasting hc (fun h => absurd h hasks) (Assistant.requests_of_not_asks hasks) _
  | @looked hc hasks reply hr =>
      obtain rfl := ha _ rfl
      by_cases ho : (world.lookup (Encyclopedia.query question)).outcome.isAnswer = true
      · obtain ⟨text, rfl⟩ := Reply.exists_lasting_of_isAnswer ho hr
        rw [(hasks.handled hr).remember_lasting]
        exact .lasting hc (fun _ => ⟨ht, ho⟩) hasks.requests _
      · rw [Reply.remember_of_not_isAnswer ho hr]
        exact .passing hc (fun hl => ho (hl hasks).2) hasks.requests _
  | crashed hc hasks ho =>
      refine .passing hc (fun hl => ?_) hasks.requests _
      have hanswer := (hl hasks).2
      rw [ho] at hanswer
      cases hanswer

/-- A call that takes too long has made a request, and is given up. -/
theorem served_of_late {time : Nat} (h : Called limits world cache question call)
    (hpos : 0 < time) (hlate : time ≤ call.delay) (answer : Option Text) :
    Visit.Served ⟨question, some time, world, cache, cache, answer, call.query.toList⟩ := by
  have hnot (hasks : Asks question)
      (hd : time ≤ (world.lookup (Encyclopedia.query question)).delay) :
      ¬ Lasts (some time) world question := by
    intro hl
    have hlt := (hl hasks).1 time rfl
    omega
  cases h with
  | remembered hc => exact absurd hlate (Nat.not_le.2 hpos)
  | handled hc hr => exact absurd hlate (Nat.not_le.2 hpos)
  | looked hc hasks hr => exact .passing hc (hnot hasks hlate) hasks.requests _
  | crashed hc hasks ho => exact .passing hc (hnot hasks hlate) hasks.requests _

theorem served_ask (setup : Setup) (world : World) (s : Supervisor) (question : Text) :
    (Visit.ofTurn question none world s (s.ask setup world question)).Served := by
  have hcall := Assistant.called_answer setup.limits world s.cache question
  refine served_of_called hcall ?_ fun _ ha => ha
  intro time ht
  cases ht

theorem served_process (hd : 0 < setup.deadline) (world : World) {s : Supervisor}
    (ho : s.isOpen = true) (question : Text) :
    (Visit.ofTurn question setup.deadline world s
      ((s.process setup world question).map Except.toOption)).Served := by
  have hcall := Assistant.called_answer setup.limits world s.cache question
  have hne : setup.deadline ≠ 0 := Nat.pos_iff_ne_zero.1 hd
  by_cases hlate : setup.deadline ≤ (Assistant.answer setup.limits world s.cache question).delay
  · simp only [Visit.ofTurn, Turn.map, process, answerInTime, ho, hne, hlate, if_true, if_false]
    exact served_of_late hcall hd hlate _
  · simp only [Visit.ofTurn, Turn.map, process, answerInTime, ho, hne, hlate, if_true, if_false]
    refine served_of_called hcall ?_ ?_
    · intro time ht
      cases ht
      omega
    · intro a ha
      simp [ha, Except.toOption]

/-! ## Messages -/

/-- A question in a message goes to the supervisor as it is. -/
theorem respond_question {message : Text} (hq : Conversation.question? message = some question)
    (setup : Setup) (world : World) (s : Supervisor) (firstName : Text) :
    Conversation.respond setup world s firstName message =
      (s.process setup world question).map fun result => some (Conversation.shown result) := by
  unfold Conversation.question? at hq
  unfold Conversation.respond
  split at hq
  · rename_i q hc
    split at hq
    · cases hq
    · rename_i hblank
      cases hq
      simp only [hc, if_neg hblank]
      rfl
  · cases hq

/-- Any other message changes nothing and makes no request. -/
theorem respond_other {message : Text} (hq : Conversation.question? message = none)
    (setup : Setup) (world : World) (s : Supervisor) (firstName : Text) :
    (Conversation.respond setup world s firstName message).supervisor = s ∧
      (Conversation.respond setup world s firstName message).queries = [] := by
  unfold Conversation.question? at hq
  unfold Conversation.respond
  cases hc : Command.ofText message with
  | start => exact ⟨rfl, rfl⟩
  | status => exact ⟨rfl, rfl⟩
  | unknown name => exact ⟨rfl, rfl⟩
  | question q =>
      rw [hc] at hq
      dsimp only at hq ⊢
      split at hq
      · rename_i hblank
        rw [if_pos hblank]
        exact ⟨rfl, rfl⟩
      · cases hq

theorem process_of_closed {s : Supervisor} (ho : ¬ s.isOpen = true) (setup : Setup)
    (world : World) (question : Text) :
    s.process setup world question = ⟨.error closed, s, []⟩ := by
  rw [process, if_neg ho]

/-- An open supervisor has a text for every question, and counts it. -/
theorem process_of_open {s : Supervisor} (ho : s.isOpen = true) (setup : Setup) (world : World)
    (question : Text) :
    s.process setup world question =
      ⟨.ok (answerInTime setup world s question).result,
        (answerInTime setup world s question).supervisor.count,
        (answerInTime setup world s question).queries⟩ := by
  rw [process, if_pos ho]

/-! ## Visits in a row -/

/-- The visits lead from one memory to the other: each starts where the one before it has ended. -/
def Leads : Cache → List Visit → Cache → Prop
  | cache, [], cache' => cache = cache'
  | cache, v :: rest, cache' => v.before = cache ∧ Leads v.after rest cache'

theorem Leads.append {c₁ c₂ c₃ : Cache} {log log' : List Visit} (h : Leads c₁ log c₂)
    (h' : Leads c₂ log' c₃) : Leads c₁ (log ++ log') c₃ := by
  induction log generalizing c₁ with
  | nil =>
      cases h
      exact h'
  | cons v rest ih => exact ⟨h.1, ih h.2⟩

/-- Visits lead to the start of each of them. -/
theorem Leads.before {c₁ c₂ : Cache} {log log' : List Visit} {v : Visit}
    (h : Leads c₁ (log ++ v :: log') c₂) : Leads c₁ log v.before := by
  induction log generalizing c₁ with
  | nil => exact h.1.symm
  | cons u rest ih => exact ⟨h.1, ih h.2⟩

/-- A visit that is not lasting leaves its question out of the memory, and so does a visit to
another question. -/
theorem Visit.Served.lookup_eq_none {v : Visit} (hv : v.Served)
    (hn : v.before.lookup? question = none) (hl : v.question = question → ¬ v.Lasting) :
    v.after.lookup? question = none := by
  cases hv with
  | remembered hc => exact hn
  | passing hc hnot hq answer => exact hn
  | @lasting q limit world cache queries hc hlasts hq text =>
      have hne : question ≠ q := fun heq => hl heq.symm hlasts
      rw [Cache.lookup?_store, if_neg hne]
      exact hn

/-- Until there is a lasting visit to a question, the question is not in the memory. -/
theorem Leads.lookup_eq_none {c₁ c₂ : Cache} {log : List Visit} (h : Leads c₁ log c₂)
    (hs : ∀ v ∈ log, v.Served) (hn : c₁.lookup? question = none)
    (hl : ∀ v ∈ log, v.question = question → ¬ v.Lasting) : c₂.lookup? question = none := by
  induction log generalizing c₁ with
  | nil =>
      cases h
      exact hn
  | cons v rest ih =>
      obtain ⟨rfl, hrest⟩ := h
      have hv := (hs v List.mem_cons_self).lookup_eq_none hn (hl v List.mem_cons_self)
      exact ih hrest (fun u hu => hs u (List.mem_cons_of_mem _ hu)) hv
        fun u hu => hl u (List.mem_cons_of_mem _ hu)

/-- A visit that finds nothing in the memory makes the request of its question. -/
theorem Visit.Served.requests {v : Visit} (hv : v.Served)
    (hn : v.before.lookup? v.question = none) : Requests v.question v.queries := by
  cases hv with
  | remembered hc => exact absurd (hc.symm.trans hn) (by simp)
  | lasting _ _ hq => exact hq
  | passing _ _ hq => exact hq

/-- A visit with requests is to a query that was not in the memory. -/
theorem Visit.Served.asks {v : Visit} (hv : v.Served) (h : v.queries ≠ []) :
    v.before.lookup? v.question = none ∧ Asks v.question := by
  have hasks {question : Text} {queries : List Text} (hq : Requests question queries)
      (hne : queries ≠ []) : Asks question :=
    Decidable.byContradiction fun hnot => hne (hq.2 hnot)
  cases hv with
  | remembered hc => exact absurd rfl h
  | lasting hc _ hq => exact ⟨hc, hasks hq h⟩
  | passing hc _ hq => exact ⟨hc, hasks hq h⟩

/-! ## Accounts -/

/-- The visits account for all that happened between two states: to the memory, and in requests. -/
structure Accounts (s : Supervisor) (log : List Visit) (s' : Supervisor) (queries : List Text) :
    Prop where
  leads : Leads s.cache log s'.cache
  served : ∀ v ∈ log, v.Served
  queries : queries = log.flatMap (·.queries)

variable {s s₁ s₂ : Supervisor}

theorem Accounts.idle (hs : s₁.cache = s.cache) : Accounts s [] s₁ [] where
  leads := hs.symm
  served := by
    intro v hv
    cases hv
  queries := rfl

theorem Accounts.single {limit : Option Nat} {turn : Turn (Option Text)}
    (h : (Visit.ofTurn question limit world s turn).Served) :
    Accounts s [Visit.ofTurn question limit world s turn] turn.supervisor turn.queries where
  leads := ⟨rfl, rfl⟩
  served := by
    intro v hv
    rw [List.mem_singleton.1 hv]
    exact h
  queries := (List.append_nil _).symm

/-- What visits account for one after the other, they account for together. -/
theorem Accounts.append {log₁ log₂ : List Visit} {queries₁ queries₂ : List Text}
    (h₁ : Accounts s log₁ s₁ queries₁) (h₂ : Accounts s₁ log₂ s₂ queries₂) :
    Accounts s (log₁ ++ log₂) s₂ (queries₁ ++ queries₂) where
  leads := h₁.leads.append h₂.leads
  served := by
    intro v hv
    rcases List.mem_append.1 hv with hv | hv
    · exact h₁.served v hv
    · exact h₂.served v hv
  queries := by rw [h₁.queries, h₂.queries, List.flatMap_append]

theorem message_accounts (hd : 0 < setup.deadline) (world : World) (s : Supervisor)
    (firstName message : Text) :
    Accounts s (messageVisits setup world s firstName message)
      (Conversation.respond setup world s firstName message).supervisor
      (Conversation.respond setup world s firstName message).queries := by
  unfold messageVisits
  cases hq : Conversation.question? message with
  | none =>
      have hother := respond_other hq setup world s firstName
      rw [hother.1, hother.2]
      exact .idle rfl
  | some question =>
      have hturn := respond_question hq setup world s firstName
      by_cases ho : s.isOpen = true
      · -- The text that is shown is the one that the supervisor has.
        have hserved := served_process hd world ho question
        have hsame : (s.process setup world question).map Except.toOption =
            (s.process setup world question).map
              fun result => some (Conversation.shown result) := by
          simp only [Turn.map, process_of_open ho, Except.toOption, Conversation.shown]
        rw [hsame, ← hturn] at hserved
        simp only [ho, if_true]
        exact .single hserved
      · simp only [ho, hturn, process_of_closed ho]
        exact .idle rfl

theorem line_accounts (hd : 0 < setup.deadline) (world : Nat → World) (n : Nat) (s : Supervisor)
    (lines : List (List UInt8)) :
    Accounts s (lineVisits setup world n s lines)
      (Console.converse setup world n s lines).supervisor
      (Console.converse setup world n s lines).queries := by
  induction lines generalizing n s with
  | nil => exact .idle rfl
  | cons line rest ih =>
      unfold lineVisits exchanges Console.converse
      cases hm : Console.message line with
      | error e => exact .idle rfl
      | ok message =>
          exact (message_accounts hd (world n) s Console.userName message).append (ih _ _)

/-- What is written on the console is what is replied to its messages. -/
theorem output_converse (setup : Setup) (world : Nat → World) (n : Nat) (s : Supervisor)
    (lines : List (List UInt8)) :
    (Console.converse setup world n s lines).output =
      (exchanges setup world n s lines).flatMap fun e => Console.written (e.turn setup).result := by
  induction lines generalizing n s with
  | nil => rfl
  | cons line rest ih =>
      unfold exchanges Console.converse
      cases hm : Console.message line with
      | error e => rfl
      | ok message =>
          rw [List.flatMap_cons]
          exact congrArg _ (ih _ _)

theorem step_accounts (hd : 0 < setup.deadline) (s : Supervisor) (step : Step) :
    Accounts s (step.visits setup s) (step.take setup s).supervisor
      (step.take setup s).queries := by
  obtain ⟨entry, world⟩ := step
  cases entry with
  | ask question => exact .single (served_ask setup (world 0) s question)
  | process question =>
      unfold Step.visits Step.take
      by_cases ho : s.isOpen = true
      · simp only [ho, if_true]
        exact .single (served_process hd (world 0) ho question)
      · simp only [ho, process_of_closed ho]
        exact .idle rfl
  | message firstName text => exact message_accounts hd (world 0) s firstName text
  | console input => exact line_accounts hd world 0 s (Console.lines input)
  | shutdown =>
      unfold Step.visits Step.take shutdown
      dsimp only
      split
      · exact .idle rfl
      · exact .idle rfl

/-- The visits of a session account for it. -/
theorem session_accounts (hd : 0 < setup.deadline) (s : Supervisor) (steps : List Step) :
    Accounts s (visits setup s steps) (session setup s steps).supervisor
      (session setup s steps).queries := by
  induction steps generalizing s with
  | nil => exact .idle rfl
  | cons step rest ih => exact (step_accounts hd s step).append (ih _)

variable {before after : List Visit} {v : Visit} {steps : List Step}

/-- A visit of a session whose question was not remembered at the start, and has got no lasting
answer since, makes the request of its question. -/
theorem requests_of_visits (hd : 0 < setup.deadline)
    (hsplit : visits setup s steps = before ++ v :: after)
    (hn : s.cache.lookup? v.question = none)
    (hl : ∀ u ∈ before, u.question = v.question → ¬ u.Lasting) :
    Requests v.question v.queries := by
  have hall := session_accounts hd s steps
  have hleads := hall.leads
  have hserved := hall.served
  rw [hsplit] at hleads hserved
  have hbefore : v.before.lookup? v.question = none :=
    hleads.before.lookup_eq_none (fun u hu => hserved u (List.mem_append_left _ hu)) hn hl
  exact (hserved v (List.mem_append_right _ List.mem_cons_self)).requests hbefore

end Supervisor
end ChatAssistant
