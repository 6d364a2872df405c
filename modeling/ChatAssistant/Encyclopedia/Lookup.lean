import ChatAssistant.Encyclopedia.Article
import ChatAssistant.Fault

/-!
# Looking up a query

What becomes of one request to the encyclopedia, and the words for a request that failed.
-/

namespace ChatAssistant
namespace Encyclopedia

inductive Outcome where
  | found (article : Article)
  | missing
  | failed (fault : Fault)
  /-- The request brought its task down. -/
  | crashed
  deriving DecidableEq, Repr

/-- A request: how long it takes, in milliseconds, and how it ends. -/
structure Lookup where
  delay : Nat
  outcome : Outcome
  deriving DecidableEq, Repr

def timeoutMessage : Text := "⏰ Wikipedia не отвечает. Попробуйте позже.".toList

def failureMessage : Text := "❌ Ошибка поиска в Wikipedia. Попробуйте позже.".toList

/-- What is shown for a failed request; nothing for faults of another kind. -/
def faultMessage? : Fault → Option Text
  | .lookupTimeout _ => some timeoutMessage
  | .lookupFailed _ => some failureMessage
  | _ => none

end Encyclopedia
end ChatAssistant
