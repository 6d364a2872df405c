import ChatAssistant.Expr.Parser

/-!
# Derivations of the expression grammar

The reader of expressions is a program; this file states the grammar it stands for as data, one type
for each nonterminal and one constructor for each production:

    sum     := product (('+' | '-') product)*
    product := signed (('*' | '/') signed)*
    signed  := ('+' | '-') signed | power
    power   := primary ('^' signed)?
    primary := NUMBER | '(' sum ')'

A value of one of these types is a derivation.  It has

* `tokens` — the tokens it derives;
* `tree` — the expression it stands for: sums and products group to the left, and a plus sign in
  front of an operand leaves no node;
* `nesting` — the most levels around one of its places, where the operand of a sign, an exponent and
  the inside of brackets are one level further in each.
-/

namespace ChatAssistant
namespace Expr
namespace Grammar

/-! ## Operators -/

/-- A plus or a minus, between two products or in front of an operand. -/
inductive Sign where
  | plus
  | minus
  deriving DecidableEq, Repr

/-- An operator between two signed operands. -/
inductive Factor where
  | multiply
  | divide
  deriving DecidableEq, Repr

namespace Sign

def token : Sign → Token
  | plus => .plus
  | minus => .minus

/-- The operator between two products. -/
def op : Sign → BinaryOp
  | plus => .add
  | minus => .sub

/-- The sign in front of an operand. -/
def apply : Sign → Expr Decimal → Expr Decimal
  | plus, e => e
  | minus, e => .neg e

end Sign

namespace Factor

def token : Factor → Token
  | multiply => .star
  | divide => .slash

def op : Factor → BinaryOp
  | multiply => .mul
  | divide => .div

end Factor

/-! ## Derivations -/

mutual

inductive Sum where
  | mk (head : Product) (tail : SumTail)

/-- Any number of further products, each behind its sign. -/
inductive SumTail where
  | nil
  | cons (sign : Sign) (operand : Product) (tail : SumTail)

inductive Product where
  | mk (head : Signed) (tail : ProductTail)

/-- Any number of further operands, each behind its operator. -/
inductive ProductTail where
  | nil
  | cons (factor : Factor) (operand : Signed) (tail : ProductTail)

inductive Signed where
  | sign (sign : Sign) (operand : Signed)
  | power (power : Power)

inductive Power where
  | plain (base : Primary)
  | raised (base : Primary) (exponent : Signed)

inductive Primary where
  | number (d : Decimal)
  | bracketed (inner : Sum)

end

/-! ## Derived tokens -/

mutual

def Sum.tokens : Sum → List Token
  | .mk head tail => head.tokens ++ tail.tokens

def SumTail.tokens : SumTail → List Token
  | .nil => []
  | .cons sign operand tail => sign.token :: (operand.tokens ++ tail.tokens)

def Product.tokens : Product → List Token
  | .mk head tail => head.tokens ++ tail.tokens

def ProductTail.tokens : ProductTail → List Token
  | .nil => []
  | .cons factor operand tail => factor.token :: (operand.tokens ++ tail.tokens)

def Signed.tokens : Signed → List Token
  | .sign sign operand => sign.token :: operand.tokens
  | .power power => power.tokens

def Power.tokens : Power → List Token
  | .plain base => base.tokens
  | .raised base exponent => base.tokens ++ .caret :: exponent.tokens

def Primary.tokens : Primary → List Token
  | .number d => [.number d]
  | .bracketed inner => .lparen :: (inner.tokens ++ [.rparen])

end

/-! ## Trees -/

mutual

def Sum.tree : Sum → Expr Decimal
  | .mk head tail => tail.tree head.tree

/-- The tree of a sum that goes on from `lhs`. -/
def SumTail.tree : SumTail → Expr Decimal → Expr Decimal
  | .nil, lhs => lhs
  | .cons sign operand tail, lhs => tail.tree (.binary sign.op lhs operand.tree)

def Product.tree : Product → Expr Decimal
  | .mk head tail => tail.tree head.tree

/-- The tree of a product that goes on from `lhs`. -/
def ProductTail.tree : ProductTail → Expr Decimal → Expr Decimal
  | .nil, lhs => lhs
  | .cons factor operand tail, lhs => tail.tree (.binary factor.op lhs operand.tree)

def Signed.tree : Signed → Expr Decimal
  | .sign sign operand => sign.apply operand.tree
  | .power power => power.tree

def Power.tree : Power → Expr Decimal
  | .plain base => base.tree
  | .raised base exponent => .binary .pow base.tree exponent.tree

def Primary.tree : Primary → Expr Decimal
  | .number d => .number d
  | .bracketed inner => inner.tree

end

/-! ## Nesting -/

mutual

def Sum.nesting : Sum → Nat
  | .mk head tail => max head.nesting tail.nesting

def SumTail.nesting : SumTail → Nat
  | .nil => 0
  | .cons _ operand tail => max operand.nesting tail.nesting

def Product.nesting : Product → Nat
  | .mk head tail => max head.nesting tail.nesting

def ProductTail.nesting : ProductTail → Nat
  | .nil => 0
  | .cons _ operand tail => max operand.nesting tail.nesting

def Signed.nesting : Signed → Nat
  | .sign _ operand => operand.nesting + 1
  | .power power => power.nesting

def Power.nesting : Power → Nat
  | .plain base => base.nesting
  | .raised base exponent => max base.nesting (exponent.nesting + 1)

def Primary.nesting : Primary → Nat
  | .number _ => 0
  | .bracketed inner => inner.nesting + 1

end

/-! ## What may follow -/

/-- The tokens that would carry on a signed operand. -/
def Signed.extenders : List Token := [.caret]

/-- The tokens that would carry on a product. -/
def Product.extenders : List Token := [.star, .slash, .caret]

/-- The tokens that would carry on a sum. -/
def Sum.extenders : List Token := [.plus, .minus, .star, .slash, .caret]

/-- The tokens `rest` do not start with one of `extenders`. -/
def StopsAt (extenders rest : List Token) : Prop := ∀ t ∈ rest.head?, t ∉ extenders

theorem stopsAt_nil (extenders : List Token) : StopsAt extenders [] := by
  intro t ht
  simp at ht

theorem stopsAt_cons {extenders rest : List Token} {t : Token} :
    StopsAt extenders (t :: rest) ↔ t ∉ extenders := by
  simp [StopsAt]

theorem StopsAt.mono {few many rest : List Token} (h : StopsAt many rest) (hsub : few ⊆ many) :
    StopsAt few rest := by
  intro t ht hf
  exact h t ht (hsub hf)

/-- A closing bracket ends a sum. -/
theorem stopsAt_rparen (r : List Token) : StopsAt Sum.extenders (.rparen :: r) := by
  rw [stopsAt_cons]
  decide

/-- A product ends where the rest of its sum starts. -/
theorem SumTail.stopsAt (tail : SumTail) {rest : List Token} (h : StopsAt Sum.extenders rest) :
    StopsAt Product.extenders (tail.tokens ++ rest) := by
  cases tail with
  | nil => exact h.mono (by decide)
  | cons sign operand tail =>
      rw [SumTail.tokens, List.cons_append, stopsAt_cons]
      cases sign <;> decide

/-- A signed operand ends where the rest of its product starts. -/
theorem ProductTail.stopsAt (tail : ProductTail) {rest : List Token}
    (h : StopsAt Product.extenders rest) : StopsAt Signed.extenders (tail.tokens ++ rest) := by
  cases tail with
  | nil => exact h.mono (by decide)
  | cons factor operand tail =>
      rw [ProductTail.tokens, List.cons_append, stopsAt_cons]
      cases factor <;> decide

end Grammar
end Expr
end ChatAssistant
