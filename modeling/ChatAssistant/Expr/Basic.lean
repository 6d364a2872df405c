import ChatAssistant.Number.Arithmetic

/-!
# Arithmetic expressions

Expressions over numbers of any type, the ways in which reading or evaluating one fails, and their
values. Operands are evaluated before their operator, the left one first, and a number that is not
finite is an overflow wherever it turns up, so an enclosing operation never hides it.
-/

namespace ChatAssistant

inductive BinaryOp where
  | add
  | sub
  | mul
  | div
  | pow
  deriving DecidableEq, Repr

/-- An expression with numbers of type `α` at its leaves. -/
inductive Expr (α : Type) where
  | number (n : α)
  | neg (operand : Expr α)
  | binary (op : BinaryOp) (lhs rhs : Expr α)
  deriving DecidableEq, Repr

namespace Expr

inductive Error where
  /-- A character that no expression holds. -/
  | invalidCharacter (c : Char)
  /-- A run of digits and points that is no number. -/
  | malformedNumber (run : Text)
  | empty
  | tooLong
  | tooDeep
  | unclosedBracket
  | unexpectedOperator
  | unexpectedEnd
  /-- A whole expression with something after it. -/
  | trailingTokens
  | divisionByZero
  | fractionalPowerOfNegative
  | overflow
  deriving DecidableEq, Repr

def Error.message : Error → Text
  | .invalidCharacter c => "недопустимый символ '".toList ++ [c] ++ "'".toList
  | .malformedNumber run => "некорректное число '".toList ++ run ++ "'".toList
  | .empty => "пустое выражение".toList
  | .tooLong => "слишком длинное выражение".toList
  | .tooDeep => "слишком глубокая вложенность".toList
  | .unclosedBracket => "синтаксическая ошибка: не закрыта скобка".toList
  | .unexpectedOperator => "синтаксическая ошибка: неожиданный оператор".toList
  | .unexpectedEnd => "синтаксическая ошибка: неожиданный конец выражения".toList
  | .trailingTokens => "синтаксическая ошибка: лишние символы".toList
  | .divisionByZero => "деление на ноль".toList
  | .fractionalPowerOfNegative => "дробная степень отрицательного числа".toList
  | .overflow => "переполнение".toList

variable {α β : Type}

def map (f : α → β) : Expr α → Expr β
  | number n => number (f n)
  | neg e => neg (e.map f)
  | binary op l r => binary op (l.map f) (r.map f)

def size : Expr α → Nat
  | number _ => 1
  | neg e => e.size + 1
  | binary _ l r => l.size + r.size + 1

/-! ## Values -/

/-- The result of an operator on two finite numbers. -/
def BinaryOp.apply [Arithmetic α] (op : BinaryOp) (a b : α) : Except Error α :=
  match op with
  | .add => .ok (Arithmetic.add a b)
  | .sub => .ok (Arithmetic.sub a b)
  | .mul => .ok (Arithmetic.mul a b)
  | .div => if Arithmetic.isZero b then .error .divisionByZero else .ok (Arithmetic.div a b)
  | .pow =>
    if Arithmetic.isZero a && Arithmetic.isNegative b then .error .divisionByZero
    else if Arithmetic.isNegative a && !Arithmetic.isWhole b then
      .error .fractionalPowerOfNegative
    else .ok (Arithmetic.pow a b)

/-- A number that may be a value. -/
def finite [Arithmetic α] (a : α) : Except Error α :=
  if Arithmetic.isFinite a then .ok a else .error .overflow

def value [Arithmetic α] : Expr α → Except Error α
  | number n => finite n
  | neg e => do
    let a ← e.value
    finite (Arithmetic.neg a)
  | binary op l r => do
    let a ← l.value
    let b ← r.value
    let c ← BinaryOp.apply op a b
    finite c

end Expr
end ChatAssistant
