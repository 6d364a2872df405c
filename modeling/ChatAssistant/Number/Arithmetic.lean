import ChatAssistant.Number.Shortest
import ChatAssistant.Number.Fixed

/-!
# Arithmetic

The operations that evaluation and the solvers need of a number type. Everything above this file is
written for any interpretation of them; machine floats are the interpretation that runs.
-/

namespace ChatAssistant

/-- An interpretation of the operations on numbers. -/
class Arithmetic (α : Type) where
  ofDecimal : Decimal → α
  add : α → α → α
  sub : α → α → α
  mul : α → α → α
  div : α → α → α
  pow : α → α → α
  neg : α → α
  sqrt : α → α
  cbrt : α → α
  sin : α → α
  cos : α → α
  tan : α → α
  /-- Degrees to radians. -/
  radians : α → α
  isFinite : α → Bool
  isZero : α → Bool
  isNegative : α → Bool
  /-- No fractional part. -/
  isWhole : α → Bool
  /-- So close to zero that a sine or tangent of this size counts as zero. -/
  isNegligible : α → Bool
  /-- The text of a number in an answer. -/
  toText : α → Text
  /-- The text with a fixed number of digits after the point. -/
  toFixed : Nat → α → Text

namespace Arithmetic

def ofNat {α : Type} [Arithmetic α] (n : Nat) : α := ofDecimal (Decimal.ofNat n)

/-- One degree in radians. -/
def degree : Float := Float.ofBits 0x3F91DF46A2529D39

/-- Machine numbers. Sines and tangents below `10⁻¹⁰` in size count as zero. -/
instance : Arithmetic Float where
  ofDecimal := Binary64.toFloat
  add := (· + ·)
  sub := (· - ·)
  mul := (· * ·)
  div := (· / ·)
  pow := Float.pow
  neg x := -x
  sqrt := Float.sqrt
  cbrt := Float.cbrt
  sin := Float.sin
  cos := Float.cos
  tan := Float.tan
  radians x := x * degree
  isFinite := Float.isFinite
  isZero x := x == 0
  isNegative x := x < 0
  isWhole x := x.floor == x
  isNegligible x := x.abs < Binary64.toFloat ⟨1, 10⟩
  toText x := (Binary64.ofFloat x).toText
  toFixed places x := (Binary64.ofFloat x).toFixed places

end Arithmetic
end ChatAssistant
