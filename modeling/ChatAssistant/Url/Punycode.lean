import ChatAssistant.Text.Blank

/-!
# Punycode

A label of a domain in ASCII. Its ASCII characters come first, then the places and values of the
others in increasing order of value, as differences written with digits to base 36. The number of
digits of a difference follows a threshold that adapts to the differences before it.
-/

namespace ChatAssistant
namespace Url
namespace Punycode

/-! ## Digits -/

/-- The digit of a value below 36: the letters, then the ten digits. -/
def digit (n : Nat) : Char := if n < 26 then Char.ofNat (97 + n) else Char.ofNat (22 + n)

def digitValue? (c : Char) : Option Nat :=
  if 'a' ≤ c ∧ c ≤ 'z' then some (c.toNat - 97)
  else if 'A' ≤ c ∧ c ≤ 'Z' then some (c.toNat - 65)
  else if '0' ≤ c ∧ c ≤ '9' then some (c.toNat - 22)
  else none

/-- The threshold of a digit, by its place (36, 72, …) and the bias. -/
def threshold (bias place : Nat) : Nat := min 26 (max 1 (place - bias))

theorem threshold_pos (bias place : Nat) : 1 ≤ threshold bias place := by
  unfold threshold; omega

/-- Divides by 35 until the value is at most 455, and adds 36 for each division to `k`; then the
bias that follows from the rest. -/
def settle (k delta : Nat) : Nat :=
  if 455 < delta then settle (k + 36) (delta / 35) else k + 36 * delta / (delta + 38)
termination_by delta

/-- The bias after a difference, which is the first one or not, when `count` characters are placed.
-/
def adapt (delta count : Nat) (first : Bool) : Nat :=
  let d := if first then delta / 700 else delta / 2
  settle 0 (d + d / count)

def initialBias : Nat := 72

def firstValue : Nat := 128

def isBasic (c : Char) : Bool := c.toNat < firstValue

/-! ## Encoding -/

/-- The digits of a difference from a place on. -/
def digits (bias place delta : Nat) : Text :=
  let t := threshold bias place
  if delta < t then [digit delta]
  else digit (t + (delta - t) % (36 - t)) :: digits bias (place + 36) ((delta - t) / (36 - t))
termination_by delta
decreasing_by
  have := threshold_pos bias place
  exact Nat.lt_of_le_of_lt (Nat.div_le_self _ _) (by omega)

structure Encoder where
  written : Text
  delta : Nat
  bias : Nat
  /-- The characters placed so far. -/
  placed : Nat

/-- Passes a character of the label while those of the value `value` are placed. -/
def Encoder.pass (basics value : Nat) (e : Encoder) (c : Char) : Encoder :=
  if c.toNat < value then { e with delta := e.delta + 1 }
  else if c.toNat = value then
    ⟨e.written ++ digits e.bias 36 e.delta, 0, adapt e.delta (e.placed + 1) (e.placed = basics),
      e.placed + 1⟩
  else e

/-- Places the characters of the values `values`, which increase from `next` on. -/
def Encoder.place (label : Text) (basics : Nat) :
    (next : Nat) → (values : List Nat) → Encoder → Text
  | _, [], e => e.written
  | next, value :: values, e =>
    let e := { e with delta := e.delta + (value - next) * (e.placed + 1) }
    let e := label.foldl (Encoder.pass basics value) e
    place label basics (value + 1) values { e with delta := e.delta + 1 }

/-- A number put into an increasing list, unless it is there. -/
def insertValue (n : Nat) : List Nat → List Nat
  | [] => [n]
  | m :: r => if n < m then n :: m :: r else if n = m then m :: r else m :: insertValue n r

def encode (label : Text) : Text :=
  let basic := label.filter isBasic
  let values := (label.filter (!isBasic ·)).foldr (fun c vs => insertValue c.toNat vs) []
  let front := if basic.isEmpty then [] else basic ++ ['-']
  Encoder.place label basic.length firstValue values ⟨front, 0, initialBias, basic.length⟩

/-! ## Decoding -/

/-- Reads a difference: its value and the text after it. -/
def readDifference? (bias : Nat) (place weight value : Nat) :
    (s : Text) → Option (Nat × { r : Text // r.length < s.length })
  | [] => none
  | c :: r => do
    let d ← digitValue? c
    let t := threshold bias place
    if d < t then some (value + d * weight, ⟨r, by simp⟩)
    else
      let value := value + d * weight
      let (v, ⟨r', h⟩) ← readDifference? bias (place + 36) (weight * (36 - t)) value r
      some (v, ⟨r', by simp only [List.length_cons]; omega⟩)

/-- A value that is the number of a character. -/
def isScalar (n : Nat) : Bool := n < 0xD800 || (0xDFFF < n && n < 0x110000)

/-- Puts the characters of the differences that `s` writes into the label read so far. -/
def decodeFrom? (label : Text) (value index bias : Nat) (first : Bool) (s : Text) : Option Text :=
  if s.isEmpty then some label
  else
    match readDifference? bias 36 1 0 s with
    | none => none
    | some (delta, ⟨r, _⟩) =>
      let count := label.length + 1
      let place := index + delta
      let value := value + place / count
      if isScalar value then
        decodeFrom? (label.insertIdx (place % count) (Char.ofNat value)) value (place % count + 1)
          (adapt delta count first) false r
      else none
termination_by s.length

def decode? (s : Text) : Option Text :=
  let tail := (s.reverse.takeWhile (· ≠ '-')).reverse
  let front := s.take (s.length - tail.length - 1)
  if front.all isBasic then
    if front.isEmpty then decodeFrom? [] firstValue 0 initialBias true s
    else decodeFrom? front firstValue 0 initialBias true tail
  else none

end Punycode
end Url
end ChatAssistant
