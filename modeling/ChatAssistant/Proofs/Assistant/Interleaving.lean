import ChatAssistant.Proofs.Assistant.Replies

/-!
# Calls side by side

Calls of `Assistant.answer` share one memory, and each of them is a task of its own.  The memory is
locked for one look-up or one store at a time, never for a whole call, so between two steps of a
call anything may happen to the memory.  Here a call is taken apart into those steps:

* `Task.move` — one step of one task, with the memory as the only thing shared;
* `Task.moves_alone` — without other tasks in between, the steps come to `Assistant.answer`;
* `System.step`, `System.run` — any task may come next, and new ones may come at any time;
* `System.run_alone` — so a system with nothing in between answers as one call does.

A task waits only for its request.  There the request may bring it down, and there, or before its
first step, it may be given up.
-/

namespace ChatAssistant
namespace Assistant

open Encyclopedia (Outcome)

/-! ## One task -/

/-- How far a call has come. -/
inductive Phase where
  | arrived
  /-- The answer was in the memory. -/
  | remembered (answer : Text)
  /-- The answer was not in the memory. -/
  | missed
  | waiting (query : Text)
  | replied (reply : Reply)
  /-- The reply is out, and in the memory if it is to be remembered. -/
  | finished (reply : Reply)
  /-- Given up, or brought down by its request. -/
  | lost
  deriving DecidableEq, Repr

/-- A call under way. -/
structure Task where
  question : Text
  phase : Phase
  /-- The request that has ended, if there was one. -/
  request : Option Request
  deriving DecidableEq, Repr

/-- What the task returns. -/
def Task.answer? (limits : Limits) (t : Task) : Option Text :=
  match t.phase with
  | .remembered a => some a
  | .finished reply => some (reply.shown limits)
  | _ => none

/-- A step of a task, with all that the task does not decide. -/
inductive Move where
  /-- Looks into the memory. -/
  | look
  /-- Runs the handler up to the request. -/
  | handle (pick : Answer.Pick)
  /-- Goes on after the request. -/
  | resume (outcome : Outcome)
  /-- Stores the answer if it is to be remembered, and returns it. -/
  | finish
  | giveUp
  deriving DecidableEq, Repr

/-- The task and the memory after a step; none if the task cannot take it. -/
def Task.move (limits : Limits) (cache : Cache) (t : Task) : Move → Option (Task × Cache)
  | .look =>
      match t.phase with
      | .arrived =>
          match cache.lookup? t.question with
          | some a => some ({ t with phase := .remembered a }, cache)
          | none => some ({ t with phase := .missed }, cache)
      | _ => none
  | .handle pick =>
      match t.phase with
      | .missed =>
          match Assistant.handle pick t.question with
          | .remembered a => some ({ t with phase := .remembered a }, cache)
          | .replied reply => some ({ t with phase := .replied reply }, cache)
          | .asking query => some ({ t with phase := .waiting query }, cache)
      | _ => none
  | .resume outcome =>
      match t.phase with
      | .waiting query =>
          match Reply.ofOutcome limits query outcome with
          | some reply =>
              some ({ t with phase := .replied reply, request := some ⟨query, outcome⟩ }, cache)
          | none => some ({ t with phase := .lost, request := some ⟨query, outcome⟩ }, cache)
      | _ => none
  | .finish =>
      match t.phase with
      | .replied reply =>
          some ({ t with phase := .finished reply }, reply.remember limits t.question cache)
      | _ => none
  | .giveUp =>
      match t.phase with
      | .arrived | .waiting _ => some ({ t with phase := .lost }, cache)
      | _ => none

/-- All that a step can do. -/
inductive Moved (limits : Limits) (cache : Cache) : Move → Task → Task → Cache → Prop where
  | remembered {q a : Text} {r : Option Request} (hc : cache.lookup? q = some a) :
      Moved limits cache .look ⟨q, .arrived, r⟩ ⟨q, .remembered a, r⟩ cache
  | missed {q : Text} {r : Option Request} (hc : cache.lookup? q = none) :
      Moved limits cache .look ⟨q, .arrived, r⟩ ⟨q, .missed, r⟩ cache
  | handled {q : Text} {r : Option Request} {pick : Answer.Pick} {reply : Reply}
      (hr : Handled limits q none reply) :
      Moved limits cache (.handle pick) ⟨q, .missed, r⟩ ⟨q, .replied reply, r⟩ cache
  | asked {q : Text} {r : Option Request} {pick : Answer.Pick} (ha : Asks q) :
      Moved limits cache (.handle pick) ⟨q, .missed, r⟩
        ⟨q, .waiting (Encyclopedia.query q), r⟩ cache
  | resumed {q query : Text} {r : Option Request} {outcome : Outcome} {reply : Reply}
      (hr : Reply.ofOutcome limits query outcome = some reply) :
      Moved limits cache (.resume outcome) ⟨q, .waiting query, r⟩
        ⟨q, .replied reply, some ⟨query, outcome⟩⟩ cache
  | crashed {q query : Text} {r : Option Request} :
      Moved limits cache (.resume .crashed) ⟨q, .waiting query, r⟩
        ⟨q, .lost, some ⟨query, .crashed⟩⟩ cache
  | finished {q : Text} {r : Option Request} {reply : Reply} :
      Moved limits cache .finish ⟨q, .replied reply, r⟩ ⟨q, .finished reply, r⟩
        (reply.remember limits q cache)
  | gaveUp {q : Text} {p : Phase} {r : Option Request}
      (hp : p = .arrived ∨ ∃ query, p = .waiting query) :
      Moved limits cache .giveUp ⟨q, p, r⟩ ⟨q, .lost, r⟩ cache

variable {limits : Limits} {cache cache' : Cache} {t t' : Task} {m : Move}

theorem Reply.ofOutcome_eq_none_iff {query : Text} {outcome : Outcome} :
    Reply.ofOutcome limits query outcome = none ↔ outcome = .crashed := by
  cases outcome <;> simp [Reply.ofOutcome]

theorem Task.moved_of_move :
    t.move limits cache m = some (t', cache') → Moved limits cache m t t' cache' := by
  intro h
  rcases t with ⟨q, phase, request⟩
  cases m with
  | look =>
      cases phase with
      | arrived =>
          cases hc : cache.lookup? q with
          | some a =>
              simp only [Task.move, hc] at h
              cases h
              exact .remembered hc
          | none =>
              simp only [Task.move, hc] at h
              cases h
              exact .missed hc
      | _ => cases h
  | handle pick =>
      cases phase with
      | missed =>
          -- Both ends of the handler are known, and none of them is an answer from the memory.
          rcases handle_cases limits pick q with ⟨reply, hh, hr⟩ | ⟨hh, ha⟩
          · simp only [Task.move, hh] at h
            cases h
            exact .handled hr
          · simp only [Task.move, hh] at h
            cases h
            exact .asked ha
      | _ => cases h
  | resume outcome =>
      cases phase with
      | waiting query =>
          cases hr : Reply.ofOutcome limits query outcome with
          | some reply =>
              simp only [Task.move, hr] at h
              cases h
              exact .resumed hr
          | none =>
              simp only [Task.move, hr] at h
              cases h
              rw [Reply.ofOutcome_eq_none_iff.1 hr]
              exact .crashed
      | _ => cases h
  | finish =>
      cases phase with
      | replied reply =>
          cases h
          exact .finished
      | _ => cases h
  | giveUp =>
      cases phase with
      | arrived =>
          cases h
          exact .gaveUp (.inl rfl)
      | waiting query =>
          cases h
          exact .gaveUp (.inr ⟨query, rfl⟩)
      | _ => cases h

theorem Moved.question_eq (h : Moved limits cache m t t' cache') : t'.question = t.question := by
  cases h with
  | _ => rfl

theorem Moved.eq_look {a : Text} (h : Moved limits cache m t t' cache')
    (hp : t'.phase = .remembered a) : m = .look := by
  cases h with
  | remembered => rfl
  | _ => cases hp

/-- A request is on record once its outcome has come in. -/
theorem Moved.request_cases {r : Request} (h : Moved limits cache m t t' cache')
    (hr : r ∈ t'.request) : r ∈ t.request ∨ m = .resume r.outcome := by
  cases h with
  | resumed =>
      cases hr
      exact .inr rfl
  | crashed =>
      cases hr
      exact .inr rfl
  | _ => exact .inl hr

theorem Moved.lost_cases (h : Moved limits cache m t t' cache') (hp : t'.phase = .lost) :
    m = .resume .crashed ∨ m = .giveUp := by
  cases h with
  | crashed => exact .inl rfl
  | gaveUp => exact .inr rfl
  | _ => cases hp

/-- No step leaves the end of a call. -/
theorem Moved.ne_finished (h : Moved limits cache m t t' cache') (reply : Reply) :
    t.phase ≠ .finished reply := by
  intro hp
  cases h with
  | gaveUp hl =>
      cases hp
      rcases hl with hl | ⟨query, hl⟩
      · cases hl
      · cases hl
  | _ => cases hp

/-- The steps that a call can still take, at most. -/
def Phase.rank : Phase → Nat
  | .arrived => 4
  | .missed => 3
  | .waiting _ => 2
  | .replied _ => 1
  | .remembered _ | .finished _ | .lost => 0

theorem Moved.rank_lt (h : Moved limits cache m t t' cache') : t'.phase.rank < t.phase.rank := by
  cases h with
  | gaveUp hp =>
      rcases hp with rfl | ⟨query, rfl⟩
      · exact Nat.zero_lt_succ 3
      · exact Nat.zero_lt_succ 1
  | _ => simp [Phase.rank]

/-! ## A task alone -/

/-- The task and the memory after some steps with nothing in between; none if one of them is not
possible. -/
def Task.moves (limits : Limits) : Task → Cache → List Move → Option (Task × Cache)
  | t, cache, [] => some (t, cache)
  | t, cache, m :: rest => (t.move limits cache m).bind fun next => next.1.moves limits next.2 rest

/-- The task has come to its end for the question, with this answer, or with none because its
request has brought it down. -/
structure Task.Ends (limits : Limits) (question : Text) (answer : Option Text) (t : Task) :
    Prop where
  question_eq : t.question = question
  answer_eq : t.answer? limits = answer
  lost : answer = none → t.phase = .lost

theorem Task.moves_cons {moves : List Move} (h : t.move limits cache m = some (t', cache')) :
    t.moves limits cache (m :: moves) = t'.moves limits cache' moves := by
  rw [Task.moves, h, Option.bind_some]

/-- The steps of a task with nothing in between come to a whole call, without giving up. -/
theorem Task.moves_alone (limits : Limits) (world : World) (cache : Cache) (question : Text) :
    ∃ (moves : List Move) (t : Task),
      Task.moves limits ⟨question, .arrived, none⟩ cache moves =
        some (t, (answer limits world cache question).cache) ∧
      t.Ends limits question (answer limits world cache question).answer ∧
      Move.giveUp ∉ moves := by
  unfold answer begin
  -- Each case names the steps of the call and the task that they leave.
  cases hc : cache.lookup? question with
  | some a =>
      refine ⟨[.look], ⟨question, .remembered a, none⟩, ?_, ⟨rfl, rfl, nofun⟩, by simp⟩
      exact Task.moves_cons (by simp only [Task.move, hc])
  | none =>
      have hlook : Task.move limits cache ⟨question, .arrived, none⟩ .look =
          some (⟨question, .missed, none⟩, cache) := by
        simp only [Task.move, hc]
      rcases handle_cases limits world.pick question with ⟨reply, hh, _⟩ | ⟨hh, _⟩
      · have hhandle : Task.move limits cache ⟨question, .missed, none⟩ (.handle world.pick) =
            some (⟨question, .replied reply, none⟩, cache) := by
          simp only [Task.move, hh]
        simp only [hh]
        refine ⟨[.look, .handle world.pick, .finish], ⟨question, .finished reply, none⟩, ?_,
          ⟨rfl, rfl, nofun⟩, by simp⟩
        rw [Task.moves_cons hlook, Task.moves_cons hhandle]
        exact Task.moves_cons rfl
      · generalize Encyclopedia.query question = query at hh
        have hhandle : Task.move limits cache ⟨question, .missed, none⟩ (.handle world.pick) =
            some (⟨question, .waiting query, none⟩, cache) := by
          simp only [Task.move, hh]
        simp only [hh]
        generalize world.lookup query = lookup
        -- the request ends the call or leads to its reply
        cases hr : Reply.ofOutcome limits query lookup.outcome with
        | some reply =>
            have hresume : Task.move limits cache ⟨question, .waiting query, none⟩
                (.resume lookup.outcome) =
                  some (⟨question, .replied reply, some ⟨query, lookup.outcome⟩⟩, cache) := by
              simp only [Task.move, hr]
            refine ⟨[.look, .handle world.pick, .resume lookup.outcome, .finish],
              ⟨question, .finished reply, some ⟨query, lookup.outcome⟩⟩, ?_, ⟨rfl, rfl, nofun⟩,
              by simp⟩
            rw [Task.moves_cons hlook, Task.moves_cons hhandle, Task.moves_cons hresume]
            exact Task.moves_cons rfl
        | none =>
            have hresume : Task.move limits cache ⟨question, .waiting query, none⟩
                (.resume lookup.outcome) =
                  some (⟨question, .lost, some ⟨query, lookup.outcome⟩⟩, cache) := by
              simp only [Task.move, hr]
            refine ⟨[.look, .handle world.pick, .resume lookup.outcome],
              ⟨question, .lost, some ⟨query, lookup.outcome⟩⟩, ?_, ⟨rfl, rfl, fun _ => rfl⟩,
              by simp⟩
            rw [Task.moves_cons hlook, Task.moves_cons hhandle]
            exact Task.moves_cons hresume

/-! ## All tasks -/

/-- The memory and the tasks that share it. -/
structure System where
  cache : Cache
  /-- In the order in which they came. -/
  tasks : List Task
  deriving DecidableEq, Repr

namespace System

/-- Before the first call. -/
def initial : System := ⟨.empty, []⟩

inductive Event where
  /-- A question comes in and gets a task. -/
  | arrive (question : Text)
  /-- A step of the task with this number. -/
  | move (number : Nat) (m : Move)
  deriving DecidableEq, Repr

/-- The system after an event; none if it cannot happen. -/
def step (limits : Limits) (s : System) : Event → Option System
  | .arrive question => some ⟨s.cache, s.tasks ++ [⟨question, .arrived, none⟩]⟩
  | .move number m =>
      match s.tasks[number]? with
      | some t => (t.move limits s.cache m).map fun (t', cache) => ⟨cache, s.tasks.set number t'⟩
      | none => none

/-- The system after some events, in this order; none if one of them cannot happen. -/
def run (limits : Limits) : System → List Event → Option System
  | s, [] => some s
  | s, event :: rest => (s.step limits event).bind fun s' => run limits s' rest

variable {s s' : System} {event : Event} {history : List Event}

theorem step_cases (h : s.step limits event = some s') :
    (∃ question, s' = ⟨s.cache, s.tasks ++ [⟨question, .arrived, none⟩]⟩) ∨
      ∃ number m t t' cache, s.tasks[number]? = some t ∧ Moved limits s.cache m t t' cache ∧
        s' = ⟨cache, s.tasks.set number t'⟩ := by
  cases event with
  | arrive question =>
      cases h
      exact .inl ⟨question, rfl⟩
  | move number m =>
      simp only [step] at h
      cases ht : s.tasks[number]? with
      | none =>
          rw [ht] at h
          cases h
      | some t =>
          rw [ht] at h
          rcases Option.map_eq_some_iff.1 h with ⟨⟨t', cache⟩, hm, rfl⟩
          exact .inr ⟨number, m, t, t', cache, ht, Task.moved_of_move hm, rfl⟩

/-- What each step keeps, every run keeps. -/
theorem run_induction {P : System → Prop}
    (hstep : ∀ {s s' : System} {event : Event}, P s → s.step limits event = some s' → P s')
    (hs : P s) (h : s.run limits history = some s') : P s' := by
  induction history generalizing s with
  | nil =>
      cases h
      exact hs
  | cons event rest ih =>
      rcases Option.bind_eq_some_iff.1 h with ⟨next, hnext, hrest⟩
      exact ih (hstep hs hnext) hrest

/-! ## A call alone -/

/-- The task that came last takes some steps, and the other tasks stay as they are. -/
theorem run_moves_last {tasks : List Task} {moves : List Move}
    (h : t.moves limits cache moves = some (t', cache')) :
    run limits ⟨cache, tasks ++ [t]⟩ (moves.map (.move tasks.length)) =
      some ⟨cache', tasks ++ [t']⟩ := by
  induction moves generalizing t cache with
  | nil =>
      cases h
      rfl
  | cons m rest ih =>
      obtain ⟨⟨next, nextCache⟩, hm, hrest⟩ := Option.bind_eq_some_iff.1 h
      have hstep : step limits ⟨cache, tasks ++ [t]⟩ (.move tasks.length m) =
          some ⟨nextCache, tasks ++ [next]⟩ := by
        simp [step, hm]
      rw [List.map_cons, run, hstep, Option.bind_some]
      exact ih hrest

/-- The steps of a call with nothing in between come to the whole call. -/
theorem run_alone (limits : Limits) (world : World) (s : System) (question : Text) :
    ∃ (moves : List Move) (t : Task),
      s.run limits (.arrive question :: moves.map (.move s.tasks.length)) =
        some ⟨(answer limits world s.cache question).cache, s.tasks ++ [t]⟩ ∧
      t.question = question ∧ t.answer? limits = (answer limits world s.cache question).answer := by
  obtain ⟨moves, t, hmoves, hends, _⟩ := Task.moves_alone limits world s.cache question
  exact ⟨moves, t, run_moves_last hmoves, hends.question_eq, hends.answer_eq⟩

end System
end Assistant
end ChatAssistant
