import ChatAssistant.Problem.PowerRoot
import ChatAssistant.Text.CaseFold

/-!
# Percentages

Two phrasings: so many percent of a number, and what percentage one number is of another. The first
place in the text that fits a phrasing decides, and the first phrasing that fits anywhere.
-/

namespace ChatAssistant
namespace Problem

def skipBlanks (s : Text) : Text := s.dropWhile Text.isBlank

/-- Blanks, the word that joins the two numbers of either phrasing, blanks, and a literal. -/
def ofDecimalAt? (s : Text) : Option Decimal := do
  let rest ← Text.dropPhrase? "от".toList (skipBlanks s)
  let (d, _) ← decimalAt? (skipBlanks rest)
  return d

/-- So many percent of a number, at the start of a text. -/
def percentOfAt? (s : Text) : Option (Decimal × Decimal) := do
  let (percent, rest) ← decimalAt? s
  match skipBlanks rest with
  | '%' :: r =>
    let whole ← ofDecimalAt? r
    return (percent, whole)
  | _ => none

/-- What percentage one number is of another, at the start of a text. -/
def whatPercentAt? (s : Text) : Option (Decimal × Decimal) := do
  let rest ← Text.dropPhrase? "сколько процентов составляет".toList s
  if (rest.head?.map Text.isBlank).getD false then
    let (part, r) ← decimalAt? (skipBlanks rest)
    let whole ← ofDecimalAt? r
    return (part, whole)
  else none

def solvePercentage? (α : Type) [Arithmetic α] (s : Text) : Option (Solution α) :=
  match Text.findFirst? percentOfAt? s with
  | some (p, w) => do
    let percent ← finite? α p
    let whole ← finite? α w
    let hundredth := Arithmetic.div percent (Arithmetic.ofNat 100)
    finiteResult? (Arithmetic.mul hundredth whole) (.percentOf percent whole)
  | none =>
    match Text.findFirst? whatPercentAt? s with
    | some (p, w) => do
      let part ← finite? α p
      let whole ← finite? α w
      if Arithmetic.isZero whole then none
      else
        let ratio := Arithmetic.div part whole
        finiteResult? (Arithmetic.mul ratio (Arithmetic.ofNat 100)) (.proportion part whole)
    | none => none

end Problem
end ChatAssistant
