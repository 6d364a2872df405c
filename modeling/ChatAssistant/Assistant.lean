import ChatAssistant.Answer.Suggestion
import ChatAssistant.Cache
import ChatAssistant.Encyclopedia.Lookup
import ChatAssistant.Encyclopedia.Query
import ChatAssistant.Problem.Answer
import ChatAssistant.Question.Intent

/-!
# The assistant

Answers one question: from memory if the same text was answered before, else by the handler of its
intent. The one place where it waits is a request to the encyclopedia, so a call is split there:
`begin` runs up to the request, `Reply.ofOutcome` goes on from its outcome. Answers that stem from a
failed request are not remembered.
-/

namespace ChatAssistant
namespace Assistant

/-- The limits on answers, in characters. -/
structure Limits where
  /-- For a whole answer, notice included. -/
  maxAnswer : Nat
  /-- For the summary of an article. -/
  summary : Nat
  deriving DecidableEq, Repr

/-- Shown when answering failed. -/
def apology : Text :=
  "⚠️ *Произошла ошибка*\n\nПопробуйте:\n1. Переформулировать вопрос\n".toList ++
    "2. Использовать команду /start\n3. Подождать 1-2 минуты".toList

/-- A reply on its way out. -/
inductive Reply where
  /-- To be remembered. -/
  | lasting (text : Text)
  /-- Not to be remembered. -/
  | passing (text : Text)
  | failure
  deriving DecidableEq, Repr

/-- The text of a reply, or the apology if there is none. -/
def orApology (s : Text) : Text := if s.isEmpty then apology else s

def Reply.shown (limits : Limits) : Reply → Text
  | .lasting s | .passing s => orApology (Answer.enforceCeiling limits.maxAnswer s)
  | .failure => apology

def Reply.remember (limits : Limits) (question : Text) (cache : Cache) : Reply → Cache
  | .lasting s => cache.store question (Answer.enforceCeiling limits.maxAnswer s)
  | .passing _ | .failure => cache

/-- Where the first half of a call ends. -/
inductive Stage where
  /-- The answer was remembered. -/
  | remembered (answer : Text)
  | replied (reply : Reply)
  /-- The encyclopedia has to be asked. -/
  | asking (query : Text)
  deriving DecidableEq, Repr

/-- A question without a remembered answer, up to a request to the encyclopedia. -/
def handle (pick : Answer.Pick) (question : Text) : Stage :=
  match (Intent.classify question).intent with
  | .math => .replied (.lasting (Problem.answer Float question))
  | .general => .replied (.lasting (Answer.suggestion question pick))
  | .encyclopedia =>
    let query := Encyclopedia.query question
    if query.isEmpty then .replied (.lasting Encyclopedia.usageHint) else .asking query

/-- The first half of a call. -/
def begin (pick : Answer.Pick) (cache : Cache) (question : Text) : Stage :=
  match cache.lookup? question with
  | some answer => .remembered answer
  | none => handle pick question

/-- The reply to a question after the encyclopedia was asked `query`; none if the request brought
the call down. -/
def Reply.ofOutcome (limits : Limits) (query : Text) : Encyclopedia.Outcome → Option Reply
  | .found article => some (.lasting (article.toText limits.summary))
  | .missing => some (.lasting (Encyclopedia.notFoundText query))
  | .failed fault => some <|
    match Encyclopedia.faultMessage? fault with
    | some message => .passing message
    | none => .failure
  | .crashed => none

/-! ## A whole call -/

/-- What a call meets that it does not decide: the encyclopedia, and the choice of a suggestion. -/
structure World where
  lookup : Text → Encyclopedia.Lookup
  pick : Answer.Pick

structure Call where
  /-- The answer; none if the call came down. -/
  answer : Option Text
  cache : Cache
  /-- The request that was made. -/
  query : Option Text
  /-- The time spent waiting, in milliseconds. -/
  delay : Nat
  deriving DecidableEq, Repr

def answer (limits : Limits) (world : World) (cache : Cache) (question : Text) : Call :=
  match begin world.pick cache question with
  | .remembered a => ⟨some a, cache, none, 0⟩
  | .replied r => ⟨some (r.shown limits), r.remember limits question cache, none, 0⟩
  | .asking query =>
    let l := world.lookup query
    match Reply.ofOutcome limits query l.outcome with
    | some r => ⟨some (r.shown limits), r.remember limits question cache, some query, l.delay⟩
    | none => ⟨none, cache, some query, l.delay⟩

end Assistant
end ChatAssistant
