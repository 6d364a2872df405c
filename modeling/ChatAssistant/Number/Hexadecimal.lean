import ChatAssistant.Text.Blank

/-!
# Hexadecimal digits

Digits to base 16, read in either case.
-/

namespace ChatAssistant
namespace Hexadecimal

/-- The value of a digit in either case. -/
def digitValue? (c : Char) : Option Nat :=
  if '0' ≤ c ∧ c ≤ '9' then some (c.toNat - 48)
  else if 'A' ≤ c ∧ c ≤ 'F' then some (c.toNat - 55)
  else if 'a' ≤ c ∧ c ≤ 'f' then some (c.toNat - 87)
  else none

/-- The digit of a value below 16, with capital letters. -/
def digit (n : Nat) : Char := if n < 10 then Char.ofNat (48 + n) else Char.ofNat (55 + n)

theorem digitValue?_digit {n : Nat} (h : n < 16) : digitValue? (digit n) = some n := by
  have all : ∀ k ∈ List.range 16, digitValue? (digit k) = some k := by decide
  exact all n (List.mem_range.2 h)

/-- The value of digits; a character that is no digit counts as zero. -/
def natOfDigits (digits : Text) : Nat :=
  digits.foldl (fun n c => 16 * n + (digitValue? c).getD 0) 0

/-- A number in digits with small letters. -/
def digitsOfNat (n : Nat) : Text := Nat.toDigits 16 n

end Hexadecimal
end ChatAssistant
