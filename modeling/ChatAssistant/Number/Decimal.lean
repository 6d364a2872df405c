import ChatAssistant.Text.Blank

/-!
# Decimal literals

An unsigned decimal literal is a run of digits with at most one point in it. It is kept exactly: as
the number its digits spell without the point, and the count of digits after the point.
-/

namespace ChatAssistant

/-- The number `coefficient / 10 ^ places`, written with `places` digits after the point. -/
structure Decimal where
  coefficient : Nat
  places : Nat
  deriving DecidableEq, Repr, Inhabited

namespace Decimal

def ofNat (n : Nat) : Decimal := ⟨n, 0⟩

def digitValue (c : Char) : Nat := c.toNat - '0'.toNat

def natOfDigits (digits : Text) : Nat := digits.foldl (fun n c => 10 * n + digitValue c) 0

/-- The literal with these digits before and after the point. -/
def ofParts (whole fraction : Text) : Decimal := ⟨natOfDigits (whole ++ fraction), fraction.length⟩

def isLiteralChar (c : Char) : Bool := Text.isDigit c || c == '.'

/-- Reads a run of digits and points, which is a literal if it holds a digit and at most one
point. -/
def ofRun? (run : Text) : Option Decimal :=
  let whole := run.takeWhile Text.isDigit
  match run.dropWhile Text.isDigit with
  | [] => if whole.isEmpty then none else some (ofParts whole [])
  | _ :: fraction =>
    if fraction.all Text.isDigit && !(whole.isEmpty && fraction.isEmpty) then
      some (ofParts whole fraction)
    else none

/-- The digits of a number, most significant first. -/
def digitsOfNat (n : Nat) : Text := Nat.toDigits 10 n

theorem isDigit_of_mem_digitsOfNat {c : Char} {n : Nat} (h : c ∈ digitsOfNat n) :
    Text.isDigit c = true := by
  have hdigit := Nat.isDigit_of_mem_toDigits (by decide) (by decide) h
  simpa [Char.isDigit, Text.isDigit, Char.le_def] using hdigit

/-- `n` in at least `width` digits. -/
def padded (width n : Nat) : Text :=
  let digits := digitsOfNat n
  List.replicate (width - digits.length) '0' ++ digits

/-- `n` with a point before its last `places` digits; no point if there are none. -/
def withPoint (n places : Nat) : Text :=
  let digits := padded (places + 1) n
  if places = 0 then digits
  else
    let whole := digits.length - places
    digits.take whole ++ '.' :: digits.drop whole

/-- The literal written out, with a digit before the point. -/
def toText (d : Decimal) : Text := withPoint d.coefficient d.places

end Decimal
end ChatAssistant
