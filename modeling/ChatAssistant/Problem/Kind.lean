import ChatAssistant.Text.Substring
import ChatAssistant.Problem.Linear

/-!
# Kinds of problems

The kinds in the order in which they are tried, the phrases that make a kind worth trying, and the
hint shown when a problem of a kind was meant but not solved.
-/

namespace ChatAssistant
namespace Problem

inductive Kind where
  | howMuch
  | equation
  | powerRoot
  | percentage
  | trigonometry
  deriving DecidableEq, Repr

namespace Kind

/-- All kinds, in the order in which they are tried. -/
def all : List Kind := [howMuch, equation, powerRoot, percentage, trigonometry]

def label : Kind → Text
  | howMuch => "how_much".toList
  | equation => "equation".toList
  | powerRoot => "power_root".toList
  | percentage => "percentage".toList
  | trigonometry => "trigonometry".toList

/-- The kind is worth trying on a text in lower case. -/
def gate (kind : Kind) (lower : Text) : Bool :=
  match kind with
  | howMuch => Text.contains "сколько будет".toList lower
  | equation =>
    Text.contains "уравнение".toList lower ||
      (Text.contains "=".toList lower && mentionsUnknown lower)
  | powerRoot =>
    Text.containsAny ["квадрат".toList, "корень".toList, "√".toList, "степен".toList] lower
  | percentage => Text.containsAny ["процент".toList, "%".toList] lower
  | trigonometry =>
    Text.containsAny
      ["sin".toList, "cos".toList, "tg".toList, "tan".toList, "cot".toList, "синус".toList,
        "косинус".toList, "тангенс".toList, "котангенс".toList]
      lower

def gated (lower : Text) : List Kind := all.filter (·.gate lower)

def heading : Kind → Text
  | howMuch => "🧮 **Решение:**".toList
  | equation => "📐 **Решение уравнения:**".toList
  | powerRoot => "🔢 **Решение:**".toList
  | percentage => "📊 **Проценты:**".toList
  | trigonometry => "📐 **Тригонометрия:**".toList

def help? : Kind → Option Text
  | howMuch => none
  | equation =>
    some ("📐 *Решение уравнений:*\n\nНапишите уравнение в формате:\n".toList ++
      "`2x + 5 = 15` или `3x - 6 = 9`".toList)
  | powerRoot =>
    some ("🔢 *Степени и корни:*\n\nПримеры:\n".toList ++
      "• квадрат 5\n• корень из 16\n• 2 в степени 3".toList)
  | percentage =>
    some ("📊 *Проценты:*\n\nПример:\n".toList ++
      "`15% от 200` или `сколько процентов составляет 30 от 150?`".toList)
  | trigonometry =>
    some "📐 *Тригонометрия:*\n\nПримеры:\n• sin 30\n• cos 45\n• tg 60".toList

end Kind
end Problem
end ChatAssistant
