import ChatAssistant.Number.Arithmetic
import Mathlib

/-!
# Signs of machine numbers

A literal has no sign of its own.  With a sign in front of it, it is another number, unless it is a
zero: the two zeros are equal, and it makes no difference which of them is taken away from a
literal.

* `mapSign`, `unpack_neg`, `unpack_abs` — the negative and the size of a number are the number with
  another sign;
* `Unsigned`, `unsigned_toFloat` — the numbers that literals stand for;
* `neg_beq_iff`, `sub_neg_of_zero` — when the sign makes no difference;
* `toText_of_zero` — a zero is shown without its sign.
-/

namespace ChatAssistant
namespace Binary64

open Float.Model (Format UnpackedFloat)
open Float.Model.UnpackedFloat

variable {x y : Float}

/-! ## Other signs -/

/-- What a bit pattern stands for is kept when it is written again. -/
theorem unpack_pack_unpack (b : BitVec Format.binary64.numBits) :
    UnpackedFloat.unpack Format.binary64
        (UnpackedFloat.pack Format.binary64 (UnpackedFloat.unpack Format.binary64 b)) =
      UnpackedFloat.unpack Format.binary64 b := by
  rw [pack_unpack]
  split
  · rename_i hnan
    have hnan' := of_decide_eq_true hnan
    rw [unpack_packedNaN]
    unfold UnpackedFloat.unpack
    simp [hnan'.1, hnan'.2]
  · rfl

/-- The number with another sign, which may depend on its own. -/
def mapSign (f : Sign → Sign) : UnpackedFloat → UnpackedFloat
  | .notANumber => .notANumber
  | .infinity s => .infinity (f s)
  | .zero s => .zero (f s)
  | .finite s m e h => .finite (f s) m e h

/-- Another sign of a bit pattern is another sign of what it stands for. -/
theorem unpack_mapSign (f : Sign → Sign) (b : BitVec Format.binary64.numBits) :
    UnpackedFloat.unpack Format.binary64
        (packComponents Format.binary64 (f (Sign.ofBitVec (unpackSign b))) (unpackExponent b)
          (unpackMantissa b)) =
      mapSign f (UnpackedFloat.unpack Format.binary64 b) := by
  unfold UnpackedFloat.unpack
  simp only [unpackSign_packComponents, unpackExponent_packComponents,
    unpackMantissa_packComponents, Sign.ofBitVec_toBitVec]
  split
  · split <;> rfl
  · split
    · split <;> rfl
    · rfl

/-- What a bit pattern stands for is kept when it is written again with another sign. -/
theorem unpack_pack_mapSign (f : Sign → Sign) (b : BitVec Format.binary64.numBits) :
    UnpackedFloat.unpack Format.binary64
        (UnpackedFloat.pack Format.binary64
          (mapSign f (UnpackedFloat.unpack Format.binary64 b))) =
      mapSign f (UnpackedFloat.unpack Format.binary64 b) := by
  rw [← unpack_mapSign, unpack_pack_unpack]

theorem neg_eq_mapSign (u : UnpackedFloat) : u.neg = mapSign (- ·) u := by
  cases u <;> rfl

theorem abs_eq_mapSign (u : UnpackedFloat) : u.abs = mapSign (fun _ => .positive) u := by
  cases u <;> rfl

theorem unpack_neg (x : Float) : (-x).toModel.unpack = x.toModel.unpack.neg := by
  show UnpackedFloat.unpack _ (UnpackedFloat.pack _ (UnpackedFloat.neg _)) = _
  rw [neg_eq_mapSign]
  exact unpack_pack_mapSign _ _

theorem unpack_abs (x : Float) : x.abs.toModel.unpack = x.toModel.unpack.abs := by
  show UnpackedFloat.unpack _ (UnpackedFloat.pack _ (UnpackedFloat.abs _)) = _
  rw [abs_eq_mapSign]
  exact unpack_pack_mapSign _ _

theorem unpack_zero : (0 : Float).toModel.unpack = .zero .positive := rfl

theorem isFinite_neg (x : Float) : (-x).isFinite = x.isFinite := by
  show (-x).toModel.unpack.isFinite = x.toModel.unpack.isFinite
  rw [unpack_neg]
  cases x.toModel.unpack <;> rfl

theorem beq_self_of_isFinite (h : x.isFinite = true) : (x == x) = true := by
  rw [Float.beq_self_iff]
  rintro rfl
  exact absurd h (by decide +kernel)

/-! ## Numbers without a sign -/

/-- There is no sign in front: neither a number below zero nor the negative zero. -/
inductive Unsigned : UnpackedFloat → Prop where
  | notANumber : Unsigned .notANumber
  | infinity : Unsigned (.infinity .positive)
  | zero : Unsigned (.zero .positive)
  | finite (mantissa : Nat) (exponent : Int) (h : 0 < mantissa) :
      Unsigned (.finite .positive mantissa exponent h)

theorem unsigned_unpack {b : BitVec Format.binary64.numBits} (h : unpackSign b = 0#1) :
    Unsigned (UnpackedFloat.unpack Format.binary64 b) := by
  unfold UnpackedFloat.unpack
  rw [h]
  dsimp only
  split
  · split
    · exact .infinity
    · exact .notANumber
  · split
    · split
      · exact .zero
      · exact .finite _ _ _
    · exact .finite _ _ _

theorem bitsOfDecimal_lt (d : Decimal) : bitsOfDecimal d < Nat.pow 2 63 := by
  unfold bitsOfDecimal bitsOfRatio
  split
  · decide
  · exact lt_of_le_of_lt (min_le_left _ _) (by decide)

theorem unsigned_toFloat (d : Decimal) : Unsigned (toFloat d).toModel.unpack := by
  show Unsigned (UnpackedFloat.unpack _ (UnpackedFloat.pack _ (UnpackedFloat.unpack _ _)))
  rw [unpack_pack_unpack]
  apply unsigned_unpack
  -- the sign is the highest bit
  have hbits : (UInt64.ofNat (bitsOfDecimal d)).toBitVec.toNat < Nat.pow 2 63 :=
    lt_of_le_of_lt (Nat.mod_le _ _) (bitsOfDecimal_lt d)
  rw [unpackSign_def]
  apply BitVec.eq_of_toNat_eq
  rw [BitVec.extractLsb'_toNat, Nat.shiftRight_eq_div_pow]
  show _ / Nat.pow 2 63 % 2 = 0
  rw [Nat.div_eq_of_lt hbits, Nat.zero_mod]

/-! ## Where the sign makes no difference -/

/-- A negative equals a number without a sign only if both are zeros. -/
theorem neg_beq_iff (hx : Unsigned x.toModel.unpack) (hy : Unsigned y.toModel.unpack) :
    (-x == y) = true ↔ (x == 0) = true ∧ (y == 0) = true := by
  show UnpackedFloat.beq (-x).toModel.unpack y.toModel.unpack = true ↔
    UnpackedFloat.beq x.toModel.unpack (0 : Float).toModel.unpack = true ∧
      UnpackedFloat.beq y.toModel.unpack (0 : Float).toModel.unpack = true
  rw [unpack_neg, unpack_zero]
  generalize x.toModel.unpack = u at *
  generalize y.toModel.unpack = v at *
  cases hx with
  | zero =>
      cases hy with
      | zero => exact ⟨fun _ => ⟨rfl, rfl⟩, fun _ => rfl⟩
      | notANumber => exact iff_of_false (by rintro ⟨⟩) (by rintro ⟨-, ⟨⟩⟩)
      | infinity => exact iff_of_false (by rintro ⟨⟩) (by rintro ⟨-, ⟨⟩⟩)
      | finite m e h => exact iff_of_false (by rintro ⟨⟩) (by rintro ⟨-, ⟨⟩⟩)
  | notANumber => exact iff_of_false (by cases hy <;> rintro ⟨⟩) (by rintro ⟨⟨⟩, -⟩)
  | infinity => exact iff_of_false (by cases hy <;> rintro ⟨⟩) (by rintro ⟨⟨⟩, -⟩)
  | finite m e h => exact iff_of_false (by cases hy <;> rintro ⟨⟩) (by rintro ⟨⟨⟩, -⟩)

/-- A number without a sign equals its negative only if it is a zero. -/
theorem neg_beq_self_iff (hx : Unsigned x.toModel.unpack) : (-x == x) = true ↔ (x == 0) = true := by
  rw [neg_beq_iff hx hx, and_self]

/-! ## Zeros -/

theorem unpack_of_zero (h : (x == 0) = true) : ∃ s, x.toModel.unpack = .zero s := by
  obtain ⟨-, -, hcases⟩ := (beq_iff_ne_notANumber_and_eq _ _).1 h
  rcases hcases with heq | ⟨heq, -⟩ | ⟨heq, -⟩
  · exact ⟨.positive, heq.trans unpack_zero⟩
  · exact ⟨.positive, heq⟩
  · exact ⟨.negative, heq⟩

/-- Either zero may be taken away from a number without a sign. -/
theorem sub_neg_of_zero (hx : Unsigned x.toModel.unpack) (hy : (y == 0) = true) :
    x - -y = x - y := by
  obtain ⟨s, hs⟩ := unpack_of_zero hy
  show Float.ofModel (Float.Model.pack (UnpackedFloat.sub _ x.toModel.unpack (-y).toModel.unpack)) =
    Float.ofModel (Float.Model.pack (UnpackedFloat.sub _ x.toModel.unpack y.toModel.unpack))
  rw [unpack_neg, hs]
  generalize x.toModel.unpack = u at *
  cases hx with
  | notANumber => rfl
  | infinity => rfl
  | zero => cases s <;> rfl
  | finite m e h => rfl

/-- No zero is shown with a sign. -/
theorem toText_of_zero (h : (x == 0) = true) : Arithmetic.toText x = ['0'] := by
  obtain ⟨s, hs⟩ := unpack_of_zero h
  have hbits : x.toBits.toBitVec = packedZero Format.binary64 s :=
    (unpack_eq_zero_iff_of_valid x.toModel.valid).1 hs
  show (ofBits x.toBits.toBitVec.toNat).toText = ['0']
  rw [hbits]
  cases s <;> decide +kernel

/-- A literal of zeros only stands for a zero. -/
theorem toFloat_of_coefficient {d : Decimal} (h : d.coefficient = 0) : toFloat d = 0 := by
  unfold toFloat bitsOfDecimal bitsOfRatio
  rw [if_pos h]
  rfl

end Binary64
end ChatAssistant
