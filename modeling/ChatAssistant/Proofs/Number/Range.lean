import ChatAssistant.Proofs.Number.Sign

/-!
# The range of machine numbers

Results of the format are rounded, and those beyond the largest number become infinite.  Which
results stay in the range is a matter of exponents alone: a mantissa may be cut, and it may grow by
one when it is rounded, but it never has more binary digits than the result has room for.

* `InRange`, `isFinite_pack` — what can be packed as a finite number;
* `inRange_round` — what stays in the range when it is rounded;
* `isFinite_mul_degree`, `isFinite_inverse`, `isFinite_sqrt` — results that are always finite.
-/

namespace ChatAssistant
namespace Binary64

open Float.Model (Format UnpackedFloat totalExponent)
open Float.Model.UnpackedFloat

variable {u : UnpackedFloat} {x : Float} {j k m : Nat} {e : Int} {s : Sign}

/-! ## Packing -/

/-- A zero, or a number whose exponent is not too large. -/
inductive InRange : UnpackedFloat → Prop where
  | zero (s : Sign) : InRange (.zero s)
  | finite (s : Sign) (m : Nat) (e : Int) (h : 0 < m) (he : e ≤ 971) : InRange (.finite s m e h)

theorem isFinite_unpack {b : BitVec Format.binary64.numBits} (h : unpackExponent b ≠ -1#_) :
    (UnpackedFloat.unpack Format.binary64 b).isFinite = true := by
  unfold UnpackedFloat.unpack
  dsimp only
  rw [if_neg h]
  split
  · split <;> rfl
  · rfl

/-- Eleven binary digits with a smaller value are not all ones. -/
theorem ofNat_ne_ones {n : Nat} (h : n < 2047) : BitVec.ofNat 11 n ≠ -1#11 := by
  intro hones
  have hvalue := congrArg BitVec.toNat hones
  have hmax : (-1#11).toNat = 2047 := by decide
  rw [BitVec.toNat_ofNat, Nat.mod_eq_of_lt (by omega), hmax] at hvalue
  omega

/-- What is in the range is packed as a finite number. -/
theorem isFinite_pack (h : InRange u) :
    (Float.ofModel (Float.Model.pack u)).isFinite = true := by
  show (UnpackedFloat.unpack _ (UnpackedFloat.pack Format.binary64 u)).isFinite = true
  apply isFinite_unpack
  cases h with
  | zero s =>
      show unpackExponent (packComponents Format.binary64 s 0 0) ≠ _
      rw [unpackExponent_packComponents]
      decide
  | finite s m e h he =>
      have hbiased : (e + Format.binary64.exponentBias +
          Format.binary64.mantissaBitsWithoutImplicit).toNat < 2047 := by
        show (e + 1023 + 52).toNat < 2047
        omega
      unfold UnpackedFloat.pack
      dsimp only
      rw [if_neg (show ¬ 2 ^ 11 ≤ _ + 1 from Nat.not_le.2 (Nat.add_lt_add_right hbiased 1))]
      split
      · rw [unpackExponent_packComponents]
        exact ofNat_ne_ones hbiased
      · rw [unpackExponent_packComponents]
        decide

/-- The numbers of the format have 53 binary digits, at places that are not too high. -/
theorem bounds_of_unpack {b : BitVec Format.binary64.numBits} {h : 0 < m}
    (hb : UnpackedFloat.unpack Format.binary64 b = .finite s m e h) : m < 2 ^ 53 ∧ e ≤ 971 := by
  have hexponent := (unpackExponent b).isLt
  have hmantissa : (unpackMantissa b).toNat < 2 ^ 52 := (unpackMantissa b).isLt
  have hbias : Format.binary64.exponentBias = 1023 := by decide
  unfold UnpackedFloat.unpack at hb
  dsimp only at hb
  split at hb
  · split at hb <;> cases hb
  · rename_i hones
    have hlt : (unpackExponent b).toNat < 2047 := by
      have hmax : (-1#11).toNat = 2047 := by decide
      have hne : (unpackExponent b).toNat ≠ 2047 := by
        rw [← hmax]
        exact mt BitVec.eq_of_toNat_eq hones
      have hbits : (unpackExponent b).toNat < 2048 := hexponent
      omega
    split at hb
    · rename_i hzero
      split at hb
      · cases hb
      · -- a small number has the least exponent
        injection hb with _ hm he
        rw [hzero] at he
        subst hm he
        rw [hbias]
        refine ⟨hmantissa.trans (by decide), ?_⟩
        show (0 : Int) - (1023 + 52) + 1 ≤ 971
        decide
    · injection hb with _ hm he
      subst hm he
      refine ⟨(1#1 ++ unpackMantissa b).isLt, ?_⟩
      rw [hbias]
      omega

/-! ## Rounding -/

/-- Shifting to the right drops binary digits. -/
theorem mantissa_shiftRight (em : ExtendedMantissa) (k : Nat) :
    (em >>> k).mantissa = em.mantissa / 2 ^ k := by
  induction k with
  | zero =>
      rw [pow_zero, Nat.div_one]
      rfl
  | succ k ih =>
      have hstep : (em >>> (k + 1)).mantissa = (em >>> k).mantissa / 2 := rfl
      rw [hstep, ih, Nat.div_div_eq_div_mul, ← pow_succ]

theorem mantissa_ofMantissaAndAccuracy (m : Nat) (a : Accuracy) :
    (ExtendedMantissa.ofMantissaAndAccuracy m a).mantissa = m := by
  unfold ExtendedMantissa.ofMantissaAndAccuracy
  split <;> rfl

/-- Rounding adds one at most. -/
theorem roundedMantissa_le (em : ExtendedMantissa) : em.roundedMantissa ≤ em.mantissa + 1 := by
  unfold ExtendedMantissa.roundedMantissa Accuracy.roundToNearestEven
  split <;> omega

/-- A mantissa is shifted to where the format has room for it: `k` of its digits are dropped. -/
theorem shiftToTargetExponent_eq (m : Nat) (e : Int) (a : Accuracy) :
    ∃ k : Nat,
      (shiftToTargetExponent Format.binary64 m e a).1.mantissa = m / 2 ^ k ∧
      (shiftToTargetExponent Format.binary64 m e a).2 = e + k ∧
      e + k = max e (max (m.log2 - 52 + e) (-1074)) := by
  have htarget : Format.binary64.targetExponent (totalExponent m e) =
      max (m.log2 - 52 + e) (-1074) := by
    have hmin : Format.binary64.minExponent = -1074 := by decide
    have hbits : Format.binary64.mantissaBits = 53 := by decide
    unfold Format.targetExponent totalExponent
    rw [hmin, hbits]
    omega
  refine ⟨(max ((m.log2 : Int) - 52 + e) (-1074) - e).toNat, ?_, ?_, by omega⟩
  · unfold shiftToTargetExponent shiftToExponent
    dsimp only
    rw [htarget, mantissa_shiftRight, mantissa_ofMantissaAndAccuracy]
  · unfold shiftToTargetExponent shiftToExponent
    dsimp only
    rw [htarget]

theorem log2_le_of_le (h : m ≤ 2 ^ j) : m.log2 ≤ j := by
  by_cases hzero : m = 0
  · rw [hzero, Nat.log2_zero]
    exact Nat.zero_le _
  · have hlt : m < 2 ^ (j + 1) := h.trans_lt (Nat.pow_lt_pow_right (by decide) (Nat.lt_succ_self _))
    exact Nat.lt_succ_iff.1 ((Nat.log2_lt hzero).2 hlt)

/-- A number of `j` binary digits stays in the range when it is rounded, unless its highest digit is
at a place that is too high. -/
theorem inRange_round (s : Sign) (a : Accuracy) (hm : m < 2 ^ j) (he : e ≤ 971)
    (hj : j + e ≤ 1023) : InRange (roundWithAccuracy Format.binary64 s m e a) := by
  obtain ⟨k, hmantissa, hexponent, hk⟩ := shiftToTargetExponent_eq m e a
  set em := (shiftToTargetExponent Format.binary64 m e a).1 with hem
  -- what is left has `j - k` digits, and perhaps one more when it is rounded
  have hrounded : em.roundedMantissa ≤ 2 ^ (j - k) := by
    have hle := roundedMantissa_le em
    have hlt : m / 2 ^ k < 2 ^ (j - k) := by
      rw [Nat.div_lt_iff_lt_mul (Nat.two_pow_pos k), ← pow_add]
      exact hm.trans_le (Nat.pow_le_pow_right (by decide) (by omega))
    omega
  have hlog := log2_le_of_le hm.le
  have hlog' := log2_le_of_le hrounded
  obtain ⟨k', -, hexponent', hk'⟩ := shiftToTargetExponent_eq em.roundedMantissa (e + k) .exact
  have hfinal : e + k + k' ≤ 971 := by omega
  unfold roundWithAccuracy
  dsimp only
  rw [hexponent, ← hem]
  split
  · exact .zero s
  · exact .finite _ _ _ _ (hexponent'.trans_le hfinal)

/-! ## Results that stay in the range -/

/-- A finite number is a zero, or it has 53 binary digits at places that are not too high. -/
theorem cases_of_isFinite (h : x.isFinite = true) :
    (∃ s, x.toModel.unpack = .zero s) ∨
      ∃ s m e, ∃ hm : 0 < m, x.toModel.unpack = .finite s m e hm ∧ m < 2 ^ 53 ∧ e ≤ 971 := by
  have hfinite : x.toModel.unpack.isFinite = true := h
  cases hx : x.toModel.unpack with
  | notANumber =>
      rw [hx] at hfinite
      cases hfinite
  | infinity s =>
      rw [hx] at hfinite
      cases hfinite
  | zero s => exact .inl ⟨s, rfl⟩
  | finite s m e hm => exact .inr ⟨s, m, e, hm, rfl, bounds_of_unpack hx⟩

/-- Degrees are finite in radians, too. -/
theorem isFinite_mul_degree (h : x.isFinite = true) : (x * Arithmetic.degree).isFinite = true := by
  have hdegree : Arithmetic.degree.toModel.unpack =
      .finite .positive 0x11DF46A2529D39 (-58) (by decide) := rfl
  apply isFinite_pack
  rw [hdegree]
  rcases cases_of_isFinite h with ⟨s, hx⟩ | ⟨s, m, e, hm, hx, hlt, he⟩
  · rw [hx]
    exact .zero _
  · rw [hx]
    refine inRange_round _ _ (j := 106) ?_ (by omega) (by omega)
    calc
      m * 0x11DF46A2529D39 < 2 ^ 53 * 2 ^ 53 := Nat.mul_lt_mul'' hlt (by decide)
      _ = 2 ^ 106 := by rw [← pow_add]

theorem lt_iff_unpack {y : Float} : x < y ↔ x.toModel.unpack.lt y.toModel.unpack = true := by
  show decide (x.toModel < y.toModel) = true ↔ _
  exact decide_eq_true_iff

/-- What is not negligible has its digits at places that are not too low. -/
theorem exponent_of_not_isNegligible (h : Arithmetic.isNegligible x = false)
    (hfinite : x.isFinite = true) :
    ∃ s m e, ∃ hm : 0 < m, x.toModel.unpack = .finite s m e hm ∧ -86 ≤ e := by
  have hbound : (toFloat ⟨1, 10⟩).toModel.unpack =
      .finite .positive 0x1B7CDFD9D7BDBB (-86) (by decide) := rfl
  have hlarge : ¬ x.abs < toFloat ⟨1, 10⟩ := of_decide_eq_false h
  have hnot : UnpackedFloat.lt x.abs.toModel.unpack (toFloat ⟨1, 10⟩).toModel.unpack = false :=
    Bool.eq_false_iff.2 (mt lt_iff_unpack.2 hlarge)
  rw [unpack_abs, hbound] at hnot
  rcases cases_of_isFinite hfinite with ⟨s, hx⟩ | ⟨s, m, e, hm, hx, -⟩
  · rw [hx] at hnot
    cases hnot
  · refine ⟨s, m, e, hm, hx, ?_⟩
    by_contra he
    rw [hx] at hnot
    have hcompare : compare e (-86) = .lt := Int.compare_eq_lt.2 (by omega)
    simp [UnpackedFloat.abs, UnpackedFloat.lt, UnpackedFloat.compare, hcompare] at hnot

/-- What is not negligible has a finite inverse. -/
theorem isFinite_inverse (h : Arithmetic.isNegligible x = false) (hfinite : x.isFinite = true) :
    (Arithmetic.ofNat 1 / x).isFinite = true := by
  obtain ⟨s, m, e, hm, hx, he⟩ := exponent_of_not_isNegligible h hfinite
  have hone : (Arithmetic.ofNat 1 : Float).toModel.unpack =
      .finite .positive 0x10000000000000 (-52) (by decide) := rfl
  apply isFinite_pack
  rw [hone, hx]
  unfold UnpackedFloat.div divCore
  dsimp only
  generalize Format.binary64.targetExponent _ = target
  generalize hn : (-52 - e - min (-52 - e) target).toNat = n
  refine inRange_round _ _ (j := 53 + n) ?_ (by omega) (by omega)
  calc
    0x10000000000000 <<< n / m ≤ 0x10000000000000 <<< n := Nat.div_le_self _ _
    _ < 2 ^ (53 + n) := by
      rw [Nat.shiftLeft_eq, pow_add]
      exact Nat.mul_lt_mul_of_pos_right (by decide) (Nat.two_pow_pos _)

/-- What has no sign has a finite square root. -/
theorem isFinite_sqrt (h : Unsigned x.toModel.unpack) (hfinite : x.isFinite = true) :
    x.sqrt.isFinite = true := by
  apply isFinite_pack
  rcases cases_of_isFinite hfinite with ⟨s, hx⟩ | ⟨s, m, e, hm, hx, hlt, he⟩
  · rw [hx]
    exact .zero s
  · rw [hx] at h
    obtain ⟨⟩ := h
    rw [hx]
    unfold UnpackedFloat.sqrt sqrtCore
    dsimp only
    generalize Format.binary64.targetExponent _ = target
    generalize hn : (e - 2 * min (e.ediv 2) target).toNat = n
    have hhalf : 2 * e.ediv 2 ≤ e := Int.mul_ediv_self_le (by decide)
    refine inRange_round _ _ (j := (53 + n) / 2 + 1) ?_ (by omega) (by omega)
    -- twice as many digits are enough for the square
    rw [Nat.sqrt_lt', ← pow_mul]
    calc
      m <<< n < 2 ^ (53 + n) := by
        rw [Nat.shiftLeft_eq, pow_add]
        exact Nat.mul_lt_mul_of_pos_right hlt (Nat.two_pow_pos n)
      _ ≤ 2 ^ (((53 + n) / 2 + 1) * 2) := Nat.pow_le_pow_right (by decide) (by omega)

end Binary64
end ChatAssistant
