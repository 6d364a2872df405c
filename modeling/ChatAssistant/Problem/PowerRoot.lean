import ChatAssistant.Problem.Numbers
import ChatAssistant.Problem.Solution
import ChatAssistant.Text.Lowercase

/-!
# Powers and roots

Roots are looked for before squares, because the words for a square root hold the word for a square.
-/

namespace ChatAssistant
namespace Problem

def finiteResult? {α : Type} [Arithmetic α] (a : α) (solution : α → Solution α) :
    Option (Solution α) :=
  if Arithmetic.isFinite a then some (solution a) else none

/-- A root, square or power of the runs of digits of the text. -/
def solvePowerRoot? (α : Type) [Arithmetic α] (s : Text) : Option (Solution α) :=
  let lower := Text.lowercase s
  match integers α s with
  | [] => none
  | n :: others =>
    if Text.containsAny ["корень".toList, "√".toList] lower then
      if Text.contains "кубич".toList lower then some (.cubeRoot n (Arithmetic.cbrt n))
      else some (.squareRoot n (Arithmetic.sqrt n))
    else if Text.contains "квадрат".toList lower then
      finiteResult? (Arithmetic.mul n n) (.square n)
    else if Text.containsAny ["степен".toList, "^".toList] lower then
      match others with
      | [] => none
      | exponent :: _ => finiteResult? (Arithmetic.pow n exponent) (.power n exponent)
    else none

end Problem
end ChatAssistant
