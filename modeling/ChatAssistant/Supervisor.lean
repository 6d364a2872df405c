import ChatAssistant.Assistant
import ChatAssistant.Status

/-!
# The supervisor

Stands between the users and the assistant: every message gets one reply, within a deadline,
whatever becomes of its answer, and replies are counted. Once it is shut down it takes no more
messages.
-/

namespace ChatAssistant

/-- What is settled when the program starts. -/
structure Setup where
  limits : Assistant.Limits
  /-- The address of the encyclopedia, as reports show it. -/
  endpoint : Text
  /-- The time for one message, in milliseconds. -/
  deadline : Nat
  startedAt : Timestamp
  deriving DecidableEq, Repr

/-- The time for one message unless settled otherwise, in milliseconds. -/
def Setup.usualDeadline : Nat := 30000

/-- What changes from message to message. -/
structure Supervisor where
  /-- The answers of the assistant. -/
  cache : Cache
  /-- The messages with a reply. -/
  processed : Nat
  isOpen : Bool
  deriving DecidableEq, Repr

namespace Supervisor

def fresh : Supervisor := ⟨.empty, 0, true⟩

structure Turn (α : Type) where
  result : α
  supervisor : Supervisor
  /-- What the encyclopedia was asked, in order. -/
  queries : List Text
  deriving DecidableEq, Repr

/-- Shown when answering came down or took too long. -/
def failureText : Text := "❌ Внутренняя ошибка бота. Попробуйте ещё раз.".toList

/-- The fault of calling a supervisor that was shut down. -/
def closed : Fault := .unavailable "Supervisor closed".toList

/-! ## Answers -/

/-- Answers a question without a deadline, and without counting it. No answer means that answering
came down. -/
def ask (setup : Setup) (world : Assistant.World) (s : Supervisor) (question : Text) :
    Turn (Option Text) :=
  let call := Assistant.answer setup.limits world s.cache question
  ⟨call.answer, { s with cache := call.cache }, call.query.toList⟩

/-- Answers a question within the deadline. An answer that is late is given up, and leaves nothing
in the memory; without any time nothing is even tried. -/
def answerInTime (setup : Setup) (world : Assistant.World) (s : Supervisor) (question : Text) :
    Turn Text :=
  if setup.deadline = 0 then ⟨failureText, s, []⟩
  else
    let call := Assistant.answer setup.limits world s.cache question
    if setup.deadline ≤ call.delay then ⟨failureText, s, call.query.toList⟩
    else ⟨call.answer.getD failureText, { s with cache := call.cache }, call.query.toList⟩

def count (s : Supervisor) : Supervisor := { s with processed := s.processed + 1 }

def process (setup : Setup) (world : Assistant.World) (s : Supervisor) (question : Text) :
    Turn (Except Fault Text) :=
  if s.isOpen then
    let turn := answerInTime setup world s question
    ⟨.ok turn.result, turn.supervisor.count, turn.queries⟩
  else ⟨.error closed, s, []⟩

/-! ## Reports and the end -/

def status (setup : Setup) (s : Supervisor) : Except Fault Status.Report :=
  if s.isOpen then
    .ok (Status.report s.cache.size setup.endpoint setup.startedAt s.processed)
  else .error closed

def shutdown (s : Supervisor) : Turn (Except Fault Unit) :=
  if s.isOpen then ⟨.ok (), { s with isOpen := false }, []⟩ else ⟨.error closed, s, []⟩

end Supervisor
end ChatAssistant
