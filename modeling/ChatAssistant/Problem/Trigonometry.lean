import ChatAssistant.Problem.Numbers
import ChatAssistant.Problem.Solution
import ChatAssistant.Text.Lowercase

/-!
# Trigonometry

A function of the first number of the text, read as degrees.
-/

namespace ChatAssistant
namespace Problem

/-- The names of each function, in an order in which no name is found inside one that comes later:
`ctg` holds `tg`. -/
def trigNames : List (TrigFunction × List Text) :=
  [(.cot, ["ctg".toList, "cot".toList, "котангенс".toList]),
    (.cos, ["cos".toList, "косинус".toList]),
    (.sin, ["sin".toList, "синус".toList]),
    (.tan, ["tg".toList, "tan".toList, "тангенс".toList])]

def TrigFunction.detect? (lower : Text) : Option TrigFunction :=
  (trigNames.find? fun f => Text.containsAny f.2 lower).map (·.1)

variable {α : Type} [Arithmetic α]

/-- The value at an angle in radians, absent where the function is undefined. -/
def TrigFunction.value? (f : TrigFunction) (radians : α) : Option α :=
  match f with
  | .sin => some (Arithmetic.sin radians)
  | .cos => some (Arithmetic.cos radians)
  | .tan =>
    if Arithmetic.isNegligible (Arithmetic.cos radians) then none
    else some (Arithmetic.tan radians)
  | .cot =>
    let t := Arithmetic.tan radians
    if Arithmetic.isNegligible t then none else some (Arithmetic.div (Arithmetic.ofNat 1) t)

/-- The named function of the first number. -/
def solveTrigonometry? (α : Type) [Arithmetic α] (s : Text) : Option (Solution α) := do
  let f ← TrigFunction.detect? (Text.lowercase s)
  let angle ← (decimals α s).head?
  return .trigonometric f angle (f.value? (Arithmetic.radians angle))

end Problem
end ChatAssistant
