import ChatAssistant.Number.Hexadecimal

/-!
# Tables of characters

A table is written as words. Each word names code points in hexadecimal, a single one or the first
and the last of a range, with `/2` after it if every other one is meant; after a colon follow the
values that belong to them, between commas.
-/

namespace ChatAssistant
namespace Url
namespace Domain

/-- The code points `first`, `first + stride`, … up to `last`, and the values that belong to them.
-/
structure Row where
  first : Nat
  last : Nat
  stride : Nat
  values : List Nat
  deriving DecidableEq, Repr

/-- What stands before and after the first `c`; nothing after it if there is none. -/
def halves (c : Char) (s : Text) : Text × Text :=
  (s.takeWhile (· ≠ c), (s.dropWhile (· ≠ c)).drop 1)

def Row.ofWord (w : Text) : Row :=
  let (points, values) := halves ':' w
  let (range, stride) := halves '/' points
  let (first, last) := halves '-' range
  { first := Hexadecimal.natOfDigits first
    last := Hexadecimal.natOfDigits (if last.isEmpty then first else last)
    stride := if stride.isEmpty then 1 else Hexadecimal.natOfDigits stride
    values := if values.isEmpty then [] else (values.splitOn ',').map Hexadecimal.natOfDigits }

def rows (table : String) : List Row := (Text.words table.toList).map Row.ofWord

def Row.names (r : Row) (n : Nat) : Bool :=
  r.first ≤ n && n ≤ r.last && (n - r.first) % r.stride == 0

def row? (table : List Row) (n : Nat) : Option Row := table.find? (·.names n)

def isIn (table : List Row) (c : Char) : Bool := (row? table c.toNat).isSome

end Domain
end Url
end ChatAssistant
