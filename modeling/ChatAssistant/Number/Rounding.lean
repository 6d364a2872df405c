/-!
# Rounding a quotient

A quotient of natural numbers rounded to a nearest whole number. Only an exact half needs a rule.
-/

namespace ChatAssistant

/-- Where an exact half goes. -/
inductive Tie where
  /-- To the even neighbour. -/
  | toEven
  /-- To the upper neighbour. -/
  | up
  deriving DecidableEq, Repr

/-- The whole number nearest to `num / den`. -/
def roundDiv (tie : Tie) (num den : Nat) : Nat :=
  let floor := num / den
  let rest := 2 * (num % den)
  if rest < den then floor
  else if den < rest then floor + 1
  else
    match tie with
    | .toEven => floor + floor % 2
    | .up => floor + 1

end ChatAssistant
