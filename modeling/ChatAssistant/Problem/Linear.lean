import ChatAssistant.Problem.Numbers
import ChatAssistant.Problem.Solution
import ChatAssistant.Text.Lowercase

/-!
# Linear equations

The first three numbers of a text with an unknown are read as the equation `a·x + b = c`, whatever
their role in the text.
-/

namespace ChatAssistant
namespace Problem

/-- The text, in lower case, holds a Latin or a Cyrillic letter for the unknown. -/
def mentionsUnknown (lower : Text) : Bool := Text.containsAny ["x".toList, "х".toList] lower

/-- Solves the equation with the first three numbers of the text. -/
def solveLinear? (α : Type) [Arithmetic α] (s : Text) : Option (Solution α) :=
  if !mentionsUnknown (Text.lowercase s) then none
  else
    match signedNumbers α s with
    | a :: b :: c :: _ =>
      if Arithmetic.isZero a then none
      else
        let x := Arithmetic.div (Arithmetic.sub c b) a
        if Arithmetic.isFinite x then some (.linear s a b c x) else none
    | _ => none

end Problem
end ChatAssistant
