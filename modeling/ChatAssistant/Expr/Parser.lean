import ChatAssistant.Expr.Token

/-!
# Reading expressions

The grammar, from the loosest to the tightest:

    sum     := product (('+' | '-') product)*
    product := signed (('*' | '/') signed)*
    signed  := ('+' | '-') signed | power
    power   := primary ('^' signed)?
    primary := NUMBER | '(' sum ')'

Sums and products group to the left, powers to the right, and a power binds tighter than a sign on
its left. A sign, an exponent and a bracket each open a level of nesting, and the number of levels
around a place is bounded; the reader of one level is built from the reader of the next.
-/

namespace ChatAssistant
namespace Expr

/-- Reads an expression from the front of a list of tokens and returns what follows it. -/
abbrev Reader := List Token → Except Error (Expr Decimal × List Token)

/-- The most levels of nesting around a place. -/
def maxDepth : Nat := 64

/-- The most tokens of an expression. -/
def maxTokens : Nat := 1024

def sumOp? : Token → Option BinaryOp
  | .plus => some .add
  | .minus => some .sub
  | _ => none

def productOp? : Token → Option BinaryOp
  | .star => some .mul
  | .slash => some .div
  | _ => none

/-- Goes on from `lhs` with any number of operators and operands, grouped to the left. -/
def chain (operand : Reader) (op? : Token → Option BinaryOp) (lhs : Expr Decimal) : Reader
  | [] => .ok (lhs, [])
  | t :: r =>
    match op? t with
    | none => .ok (lhs, t :: r)
    | some op =>
      match operand r with
      | .error e => .error e
      | .ok (rhs, rest) =>
        if rest.length ≤ r.length then chain operand op? (.binary op lhs rhs) rest
        else .ok (.binary op lhs rhs, rest)
termination_by ts => ts.length

/-- Signed operands joined by the operators of a product. -/
def product (signed : Reader) : Reader := fun ts =>
  match signed ts with
  | .error e => .error e
  | .ok (lhs, rest) => chain signed productOp? lhs rest

/-- Products joined by the operators of a sum. -/
def sum (signed : Reader) : Reader := fun ts =>
  match product signed ts with
  | .error e => .error e
  | .ok (lhs, rest) => chain (product signed) sumOp? lhs rest

/-- A number or a sum in brackets. `inner` reads a signed operand one level further in; it is absent
when no level is left. -/
def primary (inner : Option Reader) : Reader
  | [] => .error .unexpectedEnd
  | .number d :: r => .ok (.number d, r)
  | .lparen :: r =>
    match inner with
    | none => .error .tooDeep
    | some signed =>
      match sum signed r with
      | .error e => .error e
      | .ok (e, .rparen :: rest) => .ok (e, rest)
      | .ok _ => .error .unclosedBracket
  | _ :: _ => .error .unexpectedOperator

/-- A primary, raised to a signed operand if a power sign follows. -/
def power (inner : Option Reader) : Reader := fun ts =>
  match primary inner ts with
  | .error e => .error e
  | .ok (base, .caret :: r) =>
    match inner with
    | none => .error .tooDeep
    | some signed =>
      match signed r with
      | .error e => .error e
      | .ok (exponent, rest) => .ok (.binary .pow base exponent, rest)
  | .ok (base, rest) => .ok (base, rest)

/-- A power behind any number of signs. A plus leaves no trace in the expression. -/
def signedOperand (inner : Option Reader) : Reader
  | .minus :: r =>
    match inner with
    | none => .error .tooDeep
    | some signed =>
      match signed r with
      | .error e => .error e
      | .ok (e, rest) => .ok (.neg e, rest)
  | .plus :: r =>
    match inner with
    | none => .error .tooDeep
    | some signed => signed r
  | ts => power inner ts

/-- A signed operand with at most `levels` levels of nesting around any place in it. -/
def signed : Nat → Reader
  | 0 => signedOperand none
  | levels + 1 => signedOperand (some (signed levels))

def ofTokens (ts : List Token) : Except Error (Expr Decimal) :=
  if ts.isEmpty then .error .empty
  else if maxTokens < ts.length then .error .tooLong
  else
    match sum (signed maxDepth) ts with
    | .error e => .error e
    | .ok (e, []) => .ok e
    | .ok _ => .error .trailingTokens

def parse (s : Text) : Except Error (Expr Decimal) := do
  checkCharacters s
  let ts ← tokens s
  ofTokens ts

def evaluate {α : Type} [Arithmetic α] (s : Text) : Except Error α := do
  let e ← parse s
  (e.map Arithmetic.ofDecimal).value

end Expr
end ChatAssistant
