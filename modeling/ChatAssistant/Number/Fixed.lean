import ChatAssistant.Number.Binary64

/-!
# A fixed number of places

The text of a value with a given number of digits after the point. The exact binary value is
rounded, an exact half to the even neighbour, and a value that rounds to zero has no sign.
-/

namespace ChatAssistant
namespace Binary64

/-- `mantissa * 2 ^ exponent` in units of `10 ^ -places`, rounded. -/
def roundedUnits (mantissa : Nat) (exponent : Int) (places : Nat) : Nat :=
  roundDiv .toEven (mantissa * Nat.pow 2 exponent.toNat * Nat.pow 10 places)
    (Nat.pow 2 (-exponent).toNat)

/-- The text of a value with `places` digits after the point. -/
def toFixed (places : Nat) : Binary64 → Text
  | .finite negative m e =>
    let units := roundedUnits m e places
    (if negative && units != 0 then ['-'] else []) ++ Decimal.withPoint units places
  | .infinite negative => (if negative then ['-'] else []) ++ "inf".toList
  | .notANumber => "NaN".toList

end Binary64
end ChatAssistant
