import ChatAssistant.Number.Decimal
import ChatAssistant.Number.Rounding

/-!
# Binary64

The values of the 64-bit binary format, apart from the machine operations on them: what a bit
pattern stands for, and which value is nearest to a decimal literal. Powers of numbers are always
`Nat.pow`, never that of an algebraic structure.
-/

namespace ChatAssistant

inductive Binary64 where
  /-- `mantissa * 2 ^ exponent`, or its negative. -/
  | finite (negative : Bool) (mantissa : Nat) (exponent : Int)
  | infinite (negative : Bool)
  | notANumber
  deriving DecidableEq, Repr

namespace Binary64

/-- The exponent of the smallest positive value. -/
def minExponent : Int := -1074

/-- The number of bits of a mantissa below its leading one. -/
def fractionBits : Nat := 52

/-- The value of a bit pattern: a sign, eleven bits of exponent, the fraction. -/
def ofBits (bits : Nat) : Binary64 :=
  let negative := bits / 0x8000000000000000 % 2 == 1
  let biased := bits / Nat.pow 2 fractionBits % 0x800
  let fraction := bits % Nat.pow 2 fractionBits
  if biased = 0x7FF then
    if fraction = 0 then .infinite negative else .notANumber
  else if biased = 0 then .finite negative fraction minExponent
  else .finite negative (fraction + Nat.pow 2 fractionBits) (minExponent + (biased - 1 : Nat))

def ofFloat (x : Float) : Binary64 := ofBits x.toBits.toNat

/-- The least `e` from the smallest exponent on with `num / den < 2 ^ (e + 53)`, where `num` and
`den` are positive: in units of `2 ^ e` the quotient fits a mantissa. -/
def unitExponent (num den : Nat) : Int :=
  let estimate : Int := num.log2 - den.log2 - 53
  let fits := num * Nat.pow 2 (-(estimate + 53)).toNat < den * Nat.pow 2 (estimate + 53).toNat
  max minExponent (if fits then estimate else estimate + 1)

/-- The bit pattern of the non-negative value nearest to `num / den`; a tie goes to the even
mantissa, and a quotient beyond the largest finite value gives infinity. -/
def bitsOfRatio (num den : Nat) : Nat :=
  if num = 0 then 0
  else
    let e := unitExponent num den
    let mantissa := roundDiv .toEven (num * Nat.pow 2 (-e).toNat) (den * Nat.pow 2 e.toNat)
    min (0x7FF * Nat.pow 2 fractionBits)
      ((e - minExponent).toNat * Nat.pow 2 fractionBits + mantissa)

/-- The bit pattern of the value nearest to a literal. -/
def bitsOfDecimal (d : Decimal) : Nat := bitsOfRatio d.coefficient (Nat.pow 10 d.places)

/-- The machine number nearest to a literal. -/
def toFloat (d : Decimal) : Float := Float.ofBits (UInt64.ofNat (bitsOfDecimal d))

end Binary64
end ChatAssistant
