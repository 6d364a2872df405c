import ChatAssistant.Expr.Parser
import ChatAssistant.Problem.Kind
import ChatAssistant.Problem.Percentage
import ChatAssistant.Problem.Trigonometry
import ChatAssistant.Question.Extraction

/-!
# Answers to math problems

The kinds whose gate is open are tried in order, and the first solution is the answer. Without one,
the expression in the text is evaluated, and if that fails too, the answer is a hint or the error.
-/

namespace ChatAssistant
namespace Problem

/-- Why the expression of a text gave no answer. -/
inductive Failure where
  | noExpression
  | failed (error : Expr.Error)
  deriving DecidableEq, Repr

/-- A heading, an empty line, and a text. -/
def block (kind : Kind) (body : Text) : Text := kind.heading ++ "\n\n".toList ++ body

variable (α : Type) [Arithmetic α]

/-- The expression of a text with its value. -/
def evaluateIn (s : Text) : Except Failure Text :=
  match Question.extract? s with
  | none => .error .noExpression
  | some expression =>
    match (Expr.evaluate expression : Except Expr.Error α) with
    | .error e => .error (.failed e)
    | .ok v =>
      .ok (block .howMuch
        ("`".toList ++ expression ++ " = ".toList ++ Arithmetic.toText v ++ "`".toList))

/-- The solution that a kind of solver finds; expressions are evaluated instead. -/
def Kind.solve? (kind : Kind) (s : Text) : Option (Solution α) :=
  match kind with
  | .howMuch => none
  | .equation => solveLinear? α s
  | .powerRoot => solvePowerRoot? α s
  | .percentage => solvePercentage? α s
  | .trigonometry => solveTrigonometry? α s

def Kind.answer? (kind : Kind) (s : Text) : Option Text :=
  match kind with
  | .howMuch => (evaluateIn α s).toOption
  | _ => (kind.solve? α s).map fun solution => block kind solution.toText

/-- Shown when nothing could be made of a problem. -/
def generalHelp : Text :=
  "🧮 *Математическая помощь:*\n\nУточните:\n• Конкретное выражение\n• Тип задачи\n• Пример".toList

/-- Shown when an expression was found and cannot be evaluated. -/
def errorText (e : Expr.Error) : Text :=
  "❌ Ошибка вычисления: ".toList ++ e.message ++ "\n\nПопробуйте сформулировать иначе.".toList

def answer (s : Text) : Text :=
  let gated := Kind.gated (Text.lowercase s)
  match gated.findSome? (·.answer? α s) with
  | some text => text
  | none =>
    let hint := gated.findSome? Kind.help?
    match evaluateIn α s with
    | .ok text => text
    | .error (.failed e) => hint.getD (errorText e)
    | .error .noExpression => hint.getD generalHelp

end Problem
end ChatAssistant
