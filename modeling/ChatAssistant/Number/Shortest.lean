import ChatAssistant.Number.Binary64

/-!
# The fewest digits that read back

Every positive finite value is the nearest one to a whole interval of real numbers. This file finds
the decimal of fewest digits in that interval; of two it takes the one closer to the value, and of
two equally close the upper one. All of it is exact arithmetic on natural numbers.
-/

namespace ChatAssistant
namespace Binary64

/-- The numbers `low` to `high` around `value`, all in units of `2 ^ exponent`, that round to one
value of the format. -/
structure Interval where
  low : Nat
  value : Nat
  high : Nat
  exponent : Int
  /-- The ends belong to the interval. -/
  closed : Bool
  deriving Repr

/-- The interval of the positive value `mantissa * 2 ^ exponent`. The value below a power of two is
only half a unit away, unless that power is among the smallest. -/
def interval (mantissa : Nat) (exponent : Int) : Interval :=
  let below := if mantissa = Nat.pow 2 fractionBits && exponent != minExponent then 1 else 2
  { low := 4 * mantissa - below
    value := 4 * mantissa
    high := 4 * mantissa + 2
    exponent := exponent - 2
    closed := mantissa % 2 == 0 }

/-- Compares `a * 10 ^ p` with `b * 2 ^ q`. -/
def comparePowers (a : Nat) (p : Int) (b : Nat) (q : Int) : Ordering :=
  compare (a * Nat.pow 10 p.toNat * Nat.pow 2 (-q).toNat)
    (b * Nat.pow 2 q.toNat * Nat.pow 10 (-p).toNat)

/-- The decimal `c * 10 ^ p` rounds to the interval's value. -/
def Interval.holds (i : Interval) (c : Nat) (p : Int) : Bool :=
  let above := comparePowers c p i.low i.exponent
  let under := comparePowers c p i.high i.exponent
  (above == .gt && under == .lt) || (i.closed && (above == .eq || under == .eq))

/-- The position `k` of the leading digit: `10 ^ (k - 1) ≤ value < 10 ^ k`. -/
def Interval.leadingPosition (i : Interval) : Int :=
  let num := i.value * Nat.pow 2 i.exponent.toNat
  let den := Nat.pow 2 (-i.exponent).toNat
  if den ≤ num then (Decimal.digitsOfNat (num / den)).length
  else 1 - ((Decimal.digitsOfNat (den / num)).length : Int)

/-- The multiple of `10 ^ p` that is taken on this grid, if one of the two neighbours of the value
on it lies in the interval. -/
def Interval.onGrid? (i : Interval) (p : Int) : Option Nat :=
  let num := i.value * Nat.pow 2 i.exponent.toNat * Nat.pow 10 (-p).toNat
  let den := Nat.pow 2 (-i.exponent).toNat * Nat.pow 10 p.toNat
  let floor := num / den
  match i.holds floor p, i.holds (floor + 1) p with
  | true, true => some (roundDiv .up num den)
  | true, false => some floor
  | false, true => some (floor + 1)
  | false, false => none

/-- `c * 10 ^ p` with the zeros at the end of `c` moved into the power; `c` has at most `fuel` of
them. -/
def dropZeros : Nat → Nat → Int → Nat × Int
  | 0, c, p => (c, p)
  | fuel + 1, c, p => if c % 10 = 0 then dropZeros fuel (c / 10) (p + 1) else (c, p)

/-- The digits `c` and the power `p` of the decimal `c * 10 ^ p` of fewest digits that rounds to the
positive value `mantissa * 2 ^ exponent`. Seventeen digits always do. -/
def shortest (mantissa : Nat) (exponent : Int) : Nat × Int :=
  let i := interval mantissa exponent
  let k := i.leadingPosition
  let hit := (List.range 17).findSome? fun n =>
    let p := k - (n + 1 : Nat)
    (i.onGrid? p).map fun c => (c, p)
  match hit with
  | some (c, p) => dropZeros 17 c p
  | none => (0, 0)

/-- `c * 10 ^ p` in positional notation. -/
def positional (c : Nat) (p : Int) : Text :=
  Decimal.withPoint (c * Nat.pow 10 p.toNat) (-p).toNat

/-- The text of a value: the fewest digits that read back, never an exponent, no point in a whole
number, and no sign on a zero. -/
def toText : Binary64 → Text
  | .finite _ 0 _ => ['0']
  | .finite negative m e =>
    let (c, p) := shortest m e
    (if negative then ['-'] else []) ++ positional c p
  | .infinite negative => (if negative then ['-'] else []) ++ "inf".toList
  | .notANumber => "NaN".toList

end Binary64
end ChatAssistant
