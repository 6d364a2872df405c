import ChatAssistant.Number.Decimal

/-!
# JSON

Values as they are written: numbers by their digits, and objects with all their members in order,
also those of one name. A string whose escapes stand for no text is kept as such, because a value
that nobody looks at may hold one.
-/

namespace ChatAssistant

/-- A number as it is written. -/
structure Numeral where
  negative : Bool
  whole : Text
  /-- The digits after the point; none without a point. -/
  fraction : Text
  exponent : Option Int
  deriving DecidableEq, Repr

inductive Json where
  | null
  | bool (b : Bool)
  | number (n : Numeral)
  /-- A string; no text if half of a pair of surrogates stands alone in it. -/
  | string (text : Option Text)
  | array (items : List Json)
  | object (members : List (Option Text × Json))

/-! ## Numbers -/

namespace Numeral

/-- The number has no point and no exponent. -/
def isPlain (n : Numeral) : Bool := n.fraction.isEmpty && n.exponent.isNone

/-- The number as a signed one of 64 bits. A zero with a sign is none. -/
def int64? (n : Numeral) : Option Int64 :=
  let size := Decimal.natOfDigits n.whole
  if !n.isPlain then none
  else if n.negative then
    if 0 < size ∧ size ≤ 0x8000000000000000 then some (Int64.ofInt (-size)) else none
  else if size < 0x8000000000000000 then some (Int64.ofNat size) else none

/-- The least size that is rounded to a number beyond the largest machine number. -/
def overflow : Nat := Nat.pow 2 1024 - Nat.pow 2 970

/-- The number is not too large for a machine number. Only numbers of about the size of the largest
one are compared with it. -/
def isInRange (n : Numeral) : Bool :=
  let digits := (n.whole ++ n.fraction).dropWhile (· = '0')
  let shift := n.exponent.getD 0 - n.fraction.length
  let magnitude := shift + digits.length
  if digits.isEmpty || magnitude < 309 then true
  else if 309 < magnitude then false
  else
    let size := Decimal.natOfDigits digits
    if 0 ≤ shift then size * Nat.pow 10 shift.toNat < overflow
    else size < overflow * Nat.pow 10 (-shift).toNat

end Numeral
end ChatAssistant
