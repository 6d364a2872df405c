import ChatAssistant.Number.Arithmetic

/-!
# Solutions

What the solvers find, as data, and how it is written. A solution holds every number that its text
shows.
-/

namespace ChatAssistant
namespace Problem

inductive TrigFunction where
  | sin
  | cos
  | tan
  | cot
  deriving DecidableEq, Repr

def TrigFunction.label : TrigFunction → Text
  | .sin => "sin".toList
  | .cos => "cos".toList
  | .tan => "tg".toList
  | .cot => "ctg".toList

inductive Solution (α : Type) where
  /-- The root `x` of `a·x + b = c`, with the text of the equation. -/
  | linear (equation : Text) (a b c x : α)
  | squareRoot (n root : α)
  | cubeRoot (n root : α)
  | square (n result : α)
  | power (base exponent result : α)
  | percentOf (percent whole result : α)
  | proportion (part whole percent : α)
  /-- The value at an angle in degrees; absent where the function is undefined. -/
  | trigonometric (function : TrigFunction) (angle : α) (value : Option α)
  deriving Repr

namespace Solution

variable {α : Type}

/-- The numbers that the text of a solution shows. -/
def numbers : Solution α → List α
  | linear _ a b c x => [c, b, a, x]
  | squareRoot n r | cubeRoot n r | square n r => [n, r]
  | power base exponent result => [base, exponent, result]
  | percentOf percent whole result => [percent, whole, result]
  | proportion part whole percent => [part, whole, percent]
  | trigonometric _ angle value => angle :: value.toList

variable [Arithmetic α]

def toText : Solution α → Text
  | linear equation a b c x =>
    "Уравнение: ".toList ++ Text.trim equation ++ "\nРешение: x = (".toList ++
      Arithmetic.toText c ++ " - ".toList ++ Arithmetic.toText b ++ ") / ".toList ++
      Arithmetic.toText a ++ " = ".toList ++ Arithmetic.toText x
  | squareRoot n root =>
    "Квадратный корень из ".toList ++ Arithmetic.toText n ++ " = ".toList ++
      Arithmetic.toFixed 4 root
  | cubeRoot n root =>
    "Кубический корень из ".toList ++ Arithmetic.toText n ++ " = ".toList ++
      Arithmetic.toFixed 4 root
  | square n result =>
    "Квадрат числа ".toList ++ Arithmetic.toText n ++ " = ".toList ++ Arithmetic.toText result
  | power base exponent result =>
    Arithmetic.toText base ++ " в степени ".toList ++ Arithmetic.toText exponent ++
      " = ".toList ++ Arithmetic.toText result
  | percentOf percent whole result =>
    Arithmetic.toText percent ++ "% от ".toList ++ Arithmetic.toText whole ++ " = ".toList ++
      Arithmetic.toText result
  | proportion part whole percent =>
    Arithmetic.toText part ++ " от ".toList ++ Arithmetic.toText whole ++ " = ".toList ++
      Arithmetic.toFixed 1 percent ++ "%".toList
  | trigonometric function angle value =>
    let term := function.label ++ "(".toList ++ Arithmetic.toText angle ++ "°)".toList
    match value with
    | some v => term ++ " = ".toList ++ Arithmetic.toFixed 4 v
    | none => term ++ " не определён".toList

end Solution
end Problem
end ChatAssistant
