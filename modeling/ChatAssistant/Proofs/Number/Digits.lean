import ChatAssistant.Number.Arithmetic
import Mathlib

/-!
# Numbers in digits

How numbers are written: in digits, with a point at most, and with a minus sign in front at most.
Only a machine number that is infinite, or no number, is written as a word.

* `Decimal.isLiteralChar_of_mem_withPoint` — decimal fractions;
* `Binary64.inDigits_toText`, `Binary64.inDigits_toFixed` — finite machine numbers.
-/

namespace ChatAssistant

open Decimal (isLiteralChar)

variable {c : Char} {n places : Nat}

namespace Decimal

theorem isLiteralChar_of_isDigit (h : Text.isDigit c = true) : isLiteralChar c = true := by
  unfold isLiteralChar
  rw [h, Bool.true_or]

/-- Padding is made of digits, too. -/
theorem isDigit_of_mem_padded {width : Nat} (h : c ∈ padded width n) : Text.isDigit c = true := by
  unfold padded at h
  rcases List.mem_append.1 h with h | h
  · rw [List.eq_of_mem_replicate h]
    decide
  · exact isDigit_of_mem_digitsOfNat h

theorem isLiteralChar_of_mem_withPoint (h : c ∈ withPoint n places) : isLiteralChar c = true := by
  unfold withPoint at h
  dsimp only at h
  split at h
  · exact isLiteralChar_of_isDigit (isDigit_of_mem_padded h)
  · rcases List.mem_append.1 h with h | h
    · exact isLiteralChar_of_isDigit (isDigit_of_mem_padded (List.mem_of_mem_take h))
    · rcases List.mem_cons.1 h with rfl | h
      · decide
      · exact isLiteralChar_of_isDigit (isDigit_of_mem_padded (List.mem_of_mem_drop h))

theorem withPoint_ne_nil (n places : Nat) : withPoint n places ≠ [] := by
  unfold withPoint
  dsimp only
  split
  · unfold padded
    exact List.append_ne_nil_of_right_ne_nil _ Nat.toDigits_ne_nil
  · exact List.append_ne_nil_of_right_ne_nil _ (List.cons_ne_nil _ _)

end Decimal

namespace Binary64

open Float.Model (Format UnpackedFloat)
open Float.Model.UnpackedFloat

variable {x : Float}

/-- A text of digits, with points at most, and with a minus sign in front at most. -/
def InDigits (s : Text) : Prop :=
  ∃ sign digits : Text, s = sign ++ digits ∧ (sign = [] ∨ sign = ['-']) ∧
    digits ≠ [] ∧ ∀ c ∈ digits, isLiteralChar c = true

theorem inDigits_withPoint (negative : Bool) (n places : Nat) :
    InDigits ((if negative then ['-'] else []) ++ Decimal.withPoint n places) := by
  refine ⟨_, _, rfl, ?_, Decimal.withPoint_ne_nil n places, fun c hc =>
    Decimal.isLiteralChar_of_mem_withPoint hc⟩
  cases negative
  · exact .inl rfl
  · exact .inr rfl

/-- A bit pattern whose exponent is all ones is no finite number. -/
theorem exponent_of_isFinite {b : BitVec Format.binary64.numBits}
    (h : (UnpackedFloat.unpack Format.binary64 b).isFinite = true) :
    b.toNat / Nat.pow 2 fractionBits % 0x800 ≠ 0x7FF := by
  intro hones
  have hexponent : unpackExponent b = -1#11 := by
    apply BitVec.eq_of_toNat_eq
    rw [unpackExponent_def, BitVec.extractLsb'_toNat, Nat.shiftRight_eq_div_pow]
    exact hones
  unfold UnpackedFloat.unpack at h
  dsimp only at h
  rw [if_pos hexponent] at h
  split at h <;> cases h

/-- A finite number has a mantissa and an exponent. -/
theorem exists_ofFloat_eq (h : x.isFinite = true) :
    ∃ negative m e, ofFloat x = .finite negative m e := by
  have hexponent : x.toBits.toNat / Nat.pow 2 fractionBits % 0x800 ≠ 0x7FF :=
    exponent_of_isFinite h
  unfold ofFloat ofBits
  dsimp only
  rw [if_neg hexponent]
  split
  · exact ⟨_, _, _, rfl⟩
  · exact ⟨_, _, _, rfl⟩

/-- A finite number is written in digits. -/
theorem inDigits_toText (h : x.isFinite = true) : InDigits (Arithmetic.toText x) := by
  obtain ⟨negative, m, e, hx⟩ := exists_ofFloat_eq h
  show InDigits (ofFloat x).toText
  rw [hx]
  cases m with
  | zero =>
      have hzero : ∀ c ∈ ['0'], isLiteralChar c = true := List.forall_mem_singleton.2 (by decide)
      exact ⟨[], ['0'], rfl, .inl rfl, List.cons_ne_nil _ _, hzero⟩
  | succ m => exact inDigits_withPoint _ _ _

theorem inDigits_toFixed (h : x.isFinite = true) (places : Nat) :
    InDigits (Arithmetic.toFixed places x) := by
  obtain ⟨negative, m, e, hx⟩ := exists_ofFloat_eq h
  show InDigits ((ofFloat x).toFixed places)
  rw [hx]
  exact inDigits_withPoint (negative && _) _ places

end Binary64
end ChatAssistant
