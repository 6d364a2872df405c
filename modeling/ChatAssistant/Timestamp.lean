import ChatAssistant.Number.Decimal

/-!
# Points in time

A point in time is a count of seconds. Its date is found by counting days in cycles of 400 years,
with years that start in March, so that the day of a leap year is the last of its year.
-/

namespace ChatAssistant

/-- A date of the Gregorian calendar, also before its introduction; the year 0 precedes the year 1.
-/
structure Date where
  year : Int
  month : Nat
  day : Nat
  deriving DecidableEq, Repr

/-- Seconds since the start of 1970. -/
structure Timestamp where
  seconds : Int
  deriving DecidableEq, Repr

/-- Days in 400 years. -/
def Date.cycle : Nat := 146097

/-- Days from the first of March of the year 0 to the start of 1970. -/
def Date.epoch : Nat := 719468

/-- The date on a day of a cycle, which starts in March of the year `year`. -/
def Date.ofCycle (year : Int) (day : Nat) : Date :=
  let years := (day - day / 1460 + day / 36524 - day / 146096) / 365
  let rest := day - (365 * years + years / 4 - years / 100)
  let months := (5 * rest + 2) / 153
  let month := if months < 10 then months + 3 else months - 9
  { year := year + years + if month ≤ 2 then 1 else 0
    month := month
    day := rest - (153 * months + 2) / 5 + 1 }

/-- The date a number of days after the start of 1970. -/
def Date.ofDays (days : Int) : Date :=
  let n := days + Date.epoch
  Date.ofCycle (400 * n.fdiv Date.cycle) (n.fmod Date.cycle).toNat

/-- The year in at least four digits; with a sign if it is negative or takes more. -/
def Date.yearText (year : Int) : Text :=
  let digits := Decimal.padded 4 year.natAbs
  if year < 0 then '-' :: digits else if 9999 < year then '+' :: digits else digits

def Date.toText (d : Date) : Text :=
  Date.yearText d.year ++ '-' :: Decimal.padded 2 d.month ++ '-' :: Decimal.padded 2 d.day

namespace Timestamp

def daySeconds : Nat := 86400

def date (t : Timestamp) : Date := Date.ofDays (t.seconds.fdiv daySeconds)

def clockText (t : Timestamp) : Text :=
  let s := (t.seconds.fmod daySeconds).toNat
  Decimal.padded 2 (s / 3600) ++ ':' :: Decimal.padded 2 (s / 60 % 60) ++
    ':' :: Decimal.padded 2 (s % 60)

/-- The point in time for programs to read. -/
def toText (t : Timestamp) : Text := t.date.toText ++ 'T' :: t.clockText ++ ['Z']

/-- The point in time for people to read. -/
def toReadableText (t : Timestamp) : Text :=
  t.date.toText ++ ' ' :: t.clockText ++ " UTC".toList

end Timestamp
end ChatAssistant
