import ChatAssistant.Expr.Parser
import ChatAssistant.Timestamp
import ChatAssistant.Url.Parser

/-!
# Status

A report on the program: checks of its parts, none of which waits for anything, and what it has done
since it was started.
-/

namespace ChatAssistant
namespace Status

structure Check where
  name : Text
  passed : Bool
  message : Text
  deriving DecidableEq, Repr

structure Report where
  checks : List Check
  startedAt : Timestamp
  /-- The messages answered since the start. -/
  processed : Nat
  deriving DecidableEq, Repr

/-! ## Checks -/

/-- Evaluates an expression whose value is known to be 6. -/
def checkEvaluation (α : Type) [Arithmetic α] : Check :=
  let expression := "2+2*2".toList
  match (Expr.evaluate expression : Except Expr.Error α) with
  | .ok v =>
    { name := "math_engine".toList
      passed := Arithmetic.isZero (Arithmetic.sub v (Arithmetic.ofNat 6))
      message := expression ++ " = ".toList ++ Arithmetic.toText v }
  | .error e => ⟨"math_engine".toList, false, e.message⟩

def checkCache (entries : Nat) : Check :=
  ⟨"cache".toList, true, Decimal.digitsOfNat entries ++ " записей".toList⟩

/-- Reads the address of the encyclopedia, and shows its host, or all of it if it names none. -/
def checkEncyclopedia (endpoint : Text) : Check :=
  match Url.parse endpoint with
  | .ok url => ⟨"encyclopedia".toList, true, url.hostText?.getD endpoint⟩
  | .error e => ⟨"encyclopedia".toList, false, "некорректный адрес: ".toList ++ e.message⟩

def report (entries : Nat) (endpoint : Text) (startedAt : Timestamp) (processed : Nat) : Report :=
  ⟨[checkEvaluation Float, checkCache entries, checkEncyclopedia endpoint], startedAt, processed⟩

/-! ## Text -/

def Report.allPassed (r : Report) : Bool := r.checks.all (·.passed)

/-- The line of a check. Its name and message stand in code spans, where no markup is read. -/
def Check.line (c : Check) : Text :=
  (if c.passed then "✓ `".toList else "✗ `".toList) ++ c.name ++ "`: `".toList ++ c.message ++
    "`\n".toList

def Report.toText (r : Report) : Text :=
  (if r.allPassed then "✅ *Бот работает нормально!*".toList
    else "⚠️ *Бот работает с ошибками*".toList) ++
    "\n\n".toList ++ r.checks.flatMap Check.line ++ "\n⏰ *Запущен:* ".toList ++
    r.startedAt.toReadableText ++ "\n📩 *Обработано сообщений:* ".toList ++
    Decimal.digitsOfNat r.processed

end Status
end ChatAssistant
