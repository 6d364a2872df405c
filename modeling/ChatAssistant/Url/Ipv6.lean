import ChatAssistant.Number.Decimal
import ChatAssistant.Number.Hexadecimal

/-!
# Addresses of eight pieces

Eight numbers of 16 bits in hexadecimal between colons. One run of zeros may be left out and leaves
two colons; the last two pieces may be written as four bytes in decimal. The written form leaves out
the first of the longest runs of two or more zeros.
-/

namespace ChatAssistant
namespace Url

structure Ipv6 where
  pieces : List Nat
  length_pieces : pieces.length = 8
  deriving DecidableEq, Repr

namespace Ipv6

/-! ## Reading -/

/-- A byte in decimal, without zeros in front. -/
def byte? (s : Text) : Option Nat :=
  if s.isEmpty || !s.all Text.isDigit || (s.head? = some '0' && s.length ≠ 1) then none
  else
    let n := Decimal.natOfDigits s
    if n ≤ 255 then some n else none

/-- Two pieces written as four bytes. -/
def bytePieces? (s : Text) : Option (List Nat) := do
  match ← (s.splitOn '.').mapM byte? with
  | [a, b, c, d] => some [256 * a + b, 256 * c + d]
  | _ => none

/-- All eight pieces, from those that were read and the place where zeros were left out. -/
def complete? (pieces : List Nat) (gap : Option Nat) : Option Ipv6 :=
  let all :=
    match gap with
    | none => pieces
    | some g =>
      pieces.take g ++ List.replicate (8 - pieces.length) 0 ++ pieces.drop g
  if h : all.length = 8 then some ⟨all, h⟩ else none

/-- The number of pieces that are settled; zeros that were left out count as one. -/
def settled (pieces : List Nat) (gap : Option Nat) : Nat :=
  pieces.length + if gap.isSome then 1 else 0

/-- The value of a piece of at most four digits, and the text after it. -/
def pieceFront (s : Text) : Nat × Text :=
  let digits := (s.take 4).takeWhile fun c => (Hexadecimal.digitValue? c).isSome
  (Hexadecimal.natOfDigits digits, s.drop digits.length)

/-- Goes on reading after a piece or after the place of the zeros left out. -/
def parseFrom? (pieces : List Nat) (gap : Option Nat) (s : Text) : Option Ipv6 :=
  if s.isEmpty then complete? pieces gap
  else if settled pieces gap = 8 then none
  else
    match s with
    | ':' :: r => if gap.isSome then none else parseFrom? pieces (some pieces.length) r
    | s =>
      match _h : pieceFront s with
      | (n, []) => complete? (pieces ++ [n]) gap
      | (n, ':' :: r) => if r.isEmpty then none else parseFrom? (pieces ++ [n]) gap r
      | (_, '.' :: r) =>
        if r.length + 1 = s.length || 6 < settled pieces gap then none
        else do complete? (pieces ++ (← bytePieces? s)) gap
      | _ => none
termination_by s.length
decreasing_by
  · simp
  · have : (pieceFront s).2.length ≤ s.length := by simp [pieceFront]
    rw [_h] at this
    simp only [List.length_cons] at this
    omega

def parse? : Text → Option Ipv6
  | ':' :: ':' :: r => parseFrom? [] (some 0) r
  | ':' :: _ => none
  | s => parseFrom? [] none s

/-! ## Writing -/

def zeros (pieces : List Nat) : Nat := (pieces.takeWhile (· == 0)).length

/-- The first place of the longest run of two or more zeros, and its length. -/
def longestZeros (pieces : List Nat) : Option (Nat × Nat) :=
  (List.range pieces.length).foldl
    (fun best i =>
      let n := zeros (pieces.drop i)
      if n < 2 then best
      else
        match best with
        | some (_, m) => if m < n then some (i, n) else best
        | none => some (i, n))
    none

def toText (a : Ipv6) : Text :=
  let join (ps : List Nat) : Text := [':'].intercalate (ps.map Hexadecimal.digitsOfNat)
  match longestZeros a.pieces with
  | none => join a.pieces
  | some (i, n) => join (a.pieces.take i) ++ "::".toList ++ join (a.pieces.drop (i + n))

end Ipv6
end Url
end ChatAssistant
