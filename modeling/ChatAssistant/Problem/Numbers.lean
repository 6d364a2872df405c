import ChatAssistant.Number.Arithmetic
import ChatAssistant.Text.Substring

/-!
# Numbers in running text

The solvers read numbers in order of appearance and use them by position. This file finds them: runs
of digits, decimal literals, and decimal literals with a sign.
-/

namespace ChatAssistant
namespace Problem

/-- The literal at the start of a text, as long as possible, and what follows it: digits, and a
point only with digits after it. -/
def decimalAt? (s : Text) : Option (Decimal × Text) :=
  let whole := s.takeWhile Text.isDigit
  let rest := s.dropWhile Text.isDigit
  if whole.isEmpty then none
  else
    match rest with
    | '.' :: r =>
      let fraction := r.takeWhile Text.isDigit
      if fraction.isEmpty then some (Decimal.ofParts whole [], rest)
      else some (Decimal.ofParts whole fraction, r.dropWhile Text.isDigit)
    | _ => some (Decimal.ofParts whole [], rest)

/-- The literal at the start of a text, where the digits before the point may be missing. -/
def openDecimalAt? : Text → Option (Decimal × Text)
  | '.' :: r =>
    let fraction := r.takeWhile Text.isDigit
    if fraction.isEmpty then none
    else some (Decimal.ofParts [] fraction, r.dropWhile Text.isDigit)
  | s => decimalAt? s

structure SignedDecimal where
  negative : Bool
  magnitude : Decimal
  deriving DecidableEq, Repr

def signedAt? : Text → Option (SignedDecimal × Text)
  | '-' :: r => (openDecimalAt? r).map fun (d, rest) => (⟨true, d⟩, rest)
  | '+' :: r => (openDecimalAt? r).map fun (d, rest) => (⟨false, d⟩, rest)
  | s => (openDecimalAt? s).map fun (d, rest) => (⟨false, d⟩, rest)

def integerAt? (s : Text) : Option (Decimal × Text) :=
  let digits := s.takeWhile Text.isDigit
  if digits.isEmpty then none else some (Decimal.ofParts digits [], s.dropWhile Text.isDigit)

/-- The items that `at?` finds in a text, from the left and without overlap. -/
def occurrences {β : Type} (at? : Text → Option (β × Text)) : Text → List β
  | [] => []
  | c :: r =>
    match at? (c :: r) with
    | some (item, rest) =>
      if rest.length ≤ r.length then item :: occurrences at? rest
      else item :: occurrences at? r
    | none => occurrences at? r
termination_by s => s.length

variable (α : Type) [Arithmetic α]

def SignedDecimal.toNumber (d : SignedDecimal) : α :=
  let a : α := Arithmetic.ofDecimal d.magnitude
  if d.negative then Arithmetic.neg a else a

/-- A literal as a number, unless it is too large. -/
def finite? (d : Decimal) : Option α :=
  let a : α := Arithmetic.ofDecimal d
  if Arithmetic.isFinite a then some a else none

/-- The numbers, or none at all if one of them is too large: to leave it out would move the others
to a wrong position. -/
def allFinite (numbers : List α) : List α :=
  if numbers.all Arithmetic.isFinite then numbers else []

def signedNumbers (s : Text) : List α :=
  allFinite α ((occurrences signedAt? s).map (·.toNumber α))

/-- The runs of digits of a text. -/
def integers (s : Text) : List α :=
  allFinite α ((occurrences integerAt? s).map Arithmetic.ofDecimal)

def decimals (s : Text) : List α :=
  allFinite α ((occurrences decimalAt? s).map Arithmetic.ofDecimal)

end Problem
end ChatAssistant
