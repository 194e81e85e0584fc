import Mathlib
import Planar.Scalar

/-! Zero in sums and quotients. Machine doubles and exact numbers agree on it. -/
namespace Planar

/-- What a mean of vanishing differences rests on. -/
class ZeroLaws (α : Type) [Scalar α] : Prop where
  sample_sub_self (v : UInt8) : (v.toNat : α) - (v.toNat : α) = ((0 : Nat) : α)
  zero_mul_zero : ((0 : Nat) : α) * ((0 : Nat) : α) = ((0 : Nat) : α)
  neg_zero_add_zero : -((0 : Nat) : α) + ((0 : Nat) : α) = ((0 : Nat) : α)
  zero_add_zero : ((0 : Nat) : α) + ((0 : Nat) : α) = ((0 : Nat) : α)
  zero_div_count (n : Nat) (h : 0 < n) : (((0 : Nat) : α) / (n : α) == ((0 : Nat) : α)) = true

instance : ZeroLaws Rat where
  sample_sub_self v := by simp
  zero_mul_zero := by simp
  neg_zero_add_zero := by simp
  zero_add_zero := by simp
  zero_div_count n h := by simp

namespace Double
open Float.Model Float.Model.UnpackedFloat

variable {s : Sign} {m : Nat} {e : Int} {x : UnpackedFloat} {acc : Accuracy}

theorem targetExponent_eq (n : Int) : Format.binary64.targetExponent n = max (n - 53) (-1074) := by
  rw [Format.targetExponent]
  rfl

theorem mantissa_shiftRight (em : ExtendedMantissa) (k : Nat) :
    (em >>> k).mantissa = em.mantissa / 2 ^ k := by
  induction k with
  | zero => simp [HShiftRight.hShiftRight, Nat.repeat]
  | succ k ih =>
    have hstep : (em >>> (k + 1)).mantissa = (em >>> k).mantissa / 2 := rfl
    rw [hstep, ih, Nat.div_div_eq_div_mul, Nat.pow_succ]

theorem mantissa_ofMantissaAndAccuracy :
    (ExtendedMantissa.ofMantissaAndAccuracy m acc).mantissa = m := by
  cases acc with
  | exact => rfl
  | inexact side => cases side <;> rfl

theorem mantissa_le_rounded (em : ExtendedMantissa) : em.mantissa ≤ em.roundedMantissa := by
  rw [ExtendedMantissa.roundedMantissa]
  cases em.accuracy with
  | exact => exact le_rfl
  | inexact side => cases side <;> simp [Accuracy.roundToNearestEven]

/-- Numbers of the format other than zero. -/
inductive Nonzero : UnpackedFloat → Prop
  | infinity (s : Sign) : Nonzero (.infinity s)
  | finite (s : Sign) (m : Nat) (e : Int) (h : 0 < m) (hm : m < 2 ^ 53) (he : -1074 ≤ e) :
    Nonzero (.finite s m e h)

/-- The shift to the exponent that a number should have leaves some of its bits, and at most 53. -/
theorem shift_bounds {em : ExtendedMantissa} {e' : Int}
    (hs : shiftToTargetExponent Format.binary64 m e acc = (em, e')) (hm : 0 < m)
    (he : -1074 ≤ m.log2 + e) : 0 < em.mantissa ∧ em.mantissa < 2 ^ 53 ∧ -1074 ≤ e' := by
  obtain ⟨k, hk⟩ : ∃ k, k = (max ((m.log2 : Int) + 1 + e - 53) (-1074) - e).toNat := ⟨_, rfl⟩
  have htarget : k = (Format.binary64.targetExponent (totalExponent m e) - e).toNat := by
    rw [hk, targetExponent_eq, totalExponent]
  rw [shiftToTargetExponent, shiftToExponent, ← htarget] at hs
  obtain ⟨rfl, rfl⟩ := Prod.mk.inj hs
  have hlow : 2 ^ m.log2 ≤ m := Nat.log2_self_le hm.ne'
  have hhigh : m < 2 ^ (m.log2 + 1) := Nat.lt_log2_self
  have hsome : 2 ^ k ≤ 2 ^ m.log2 := Nat.pow_le_pow_right (by decide) (by omega)
  have hmost : 2 ^ (m.log2 + 1) ≤ 2 ^ 53 * 2 ^ k := by
    rw [← Nat.pow_add]
    exact Nat.pow_le_pow_right (by decide) (by omega)
  rw [mantissa_shiftRight, mantissa_ofMantissaAndAccuracy]
  refine ⟨Nat.div_pos (hsome.trans hlow) (Nat.two_pow_pos k), ?_, by omega⟩
  exact (Nat.div_lt_iff_lt_mul (Nat.two_pow_pos k)).mpr (hhigh.trans_le hmost)

theorem nonzero_round (s : Sign) (hm : 0 < m) (he : -1074 ≤ m.log2 + e) :
    Nonzero (roundWithAccuracy Format.binary64 s m e acc) := by
  unfold roundWithAccuracy
  rcases hfirst : shiftToTargetExponent Format.binary64 m e acc with ⟨em, e₁⟩
  obtain ⟨hpos, -, hexp⟩ := shift_bounds hfirst hm he
  have hrounded : 0 < em.roundedMantissa := hpos.trans_le (mantissa_le_rounded em)
  -- Rounding up may carry into one more bit, which a second shift drops.
  rcases hsecond : shiftToTargetExponent Format.binary64 em.roundedMantissa e₁ .exact with ⟨em₂, e₂⟩
  obtain ⟨hpos₂, hlt₂, hexp₂⟩ := shift_bounds hsecond hrounded (by omega)
  simp only [hsecond, dif_neg hpos₂.ne']
  exact .finite s _ e₂ hpos₂ hlt₂ hexp₂

theorem nonzero_unpack_components (s : Sign) {exponent : BitVec 11} {mantissa : BitVec 52}
    (hexponent : exponent ≠ -1#11) (hmantissa : exponent = 0#11 → mantissa ≠ 0#52) :
    Nonzero (UnpackedFloat.unpack Format.binary64
      (packComponents Format.binary64 s exponent mantissa)) := by
  have hbias : Format.binary64.exponentBias = 1023 := rfl
  unfold UnpackedFloat.unpack
  simp only [unpackMantissa_packComponents, unpackExponent_packComponents, if_neg hexponent, hbias]
  split
  · rename_i hsubnormal
    rw [dif_neg (hmantissa hsubnormal), hsubnormal]
    have hlt : mantissa.toNat < 2 ^ 52 := mantissa.isLt
    exact .finite _ _ _ _ (by omega) (by decide)
  · rename_i hnormal
    have hpos : 0 < exponent.toNat :=
      Nat.pos_of_ne_zero fun hz => hnormal (BitVec.eq_of_toNat_eq hz)
    have hlt : (1#1 ++ mantissa).toNat < 2 ^ 53 := (1#1 ++ mantissa).isLt
    exact .finite _ _ _ _ hlt (by omega)

/-- What is packed into bits and unpacked again does not vanish. -/
theorem nonzero_unpack_pack (h : Nonzero x) :
    Nonzero (UnpackedFloat.unpack Format.binary64 (UnpackedFloat.pack Format.binary64 x)) := by
  cases h with
  | infinity s => cases s <;> exact .infinity _
  | finite s m e h hm he =>
    have hbias : Format.binary64.exponentBias = 1023 := rfl
    unfold UnpackedFloat.pack
    dsimp only
    rw [hbias]
    split
    · cases s <;> exact .infinity _
    rename_i hbounded
    obtain ⟨biased, hbiased⟩ : ∃ n, n = (e + (1023 : Nat) + (52 : Nat)).toNat := ⟨_, rfl⟩
    rw [← hbiased] at hbounded ⊢
    split
    · have hexponent : (BitVec.ofNat 11 biased).toNat = biased := by
        rw [BitVec.toNat_ofNat, Nat.mod_eq_of_lt (by omega)]
      refine nonzero_unpack_components s ?_ ?_
      · intro hones
        rw [hones] at hexponent
        have hall : biased = 2047 := hexponent.symm
        omega
      · intro hzero
        rw [hzero] at hexponent
        have hnone : biased = 0 := hexponent.symm
        omega
    · rename_i hsubnormal
      have hbits : Format.binary64.mantissaBits = 53 := rfl
      have hlog : m.log2 < 53 := (Nat.log2_lt h.ne').mpr hm
      have hlt : m < 2 ^ 52 := (Nat.log2_lt h.ne').mp (by omega)
      refine nonzero_unpack_components s (by decide) ?_
      intro _ hzero
      have hmantissa : (BitVec.ofNat 52 m).toNat = 0 := congrArg BitVec.toNat hzero
      rw [BitVec.toNat_ofNat, Nat.mod_eq_of_lt hlt] at hmantissa
      omega

theorem unpack_one : (1 : Float).toModel.unpack =
    .finite .positive (2 ^ 52) (-52) (by decide) := by rfl

theorem log2_shiftLeft_le (hm : 0 < m) (k : Nat) : m.log2 + k ≤ (m <<< k).log2 := by
  have hpos : 0 < m <<< k := Nat.shiftLeft_eq m k ▸ Nat.mul_pos hm (Nat.two_pow_pos k)
  rw [Nat.le_log2 hpos.ne', Nat.shiftLeft_eq, Nat.pow_add]
  exact Nat.mul_le_mul_right _ (Nat.log2_self_le hm.ne')

theorem nonzero_ofNat (hm : 0 < m) : Nonzero (UnpackedFloat.ofNat Format.binary64 m) := by
  have hcompare : compare (m : Int) 0 = .gt := compare_gt_iff_gt.mpr (by omega)
  rw [UnpackedFloat.ofNat, UnpackedFloat.ofInt, UnpackedFloat.normalize.eq_1, hcompare]
  have hshift := fun k => log2_shiftLeft_le hm k
  refine nonzero_round _ ?_ ?_
  · exact Nat.shiftLeft_eq m _ ▸ Nat.mul_pos hm (Nat.two_pow_pos _)
  · dsimp only [Int.toNat_natCast]
    have := hshift (0 - Format.binary64.targetExponent (totalExponent m 0)).toNat
    omega

/-- A factor of at least one keeps a number from vanishing. -/
theorem nonzero_mul {s' : Sign} {m' : Nat} {e' : Int} (hm : 0 < m) (he : -1074 ≤ m.log2 + e)
    (hm' : 0 < m') (he' : 0 ≤ m'.log2 + e') :
    Nonzero (UnpackedFloat.mul Format.binary64 (.finite s m e hm) (.finite s' m' e' hm')) := by
  refine nonzero_round _ (Nat.mul_pos hm hm') ?_
  have hlog : m.log2 + m'.log2 ≤ (m * m').log2 := by
    rw [Nat.le_log2 (Nat.mul_pos hm hm').ne', Nat.pow_add]
    exact Nat.mul_le_mul (Nat.log2_self_le hm.ne') (Nat.log2_self_le hm'.ne')
  omega

theorem nonzero_mul_one (h : Nonzero x) : Nonzero (UnpackedFloat.mul Format.binary64 x
    (.finite .positive (2 ^ 52) (-52) (by decide))) := by
  cases h with
  | infinity s => exact .infinity _
  | finite s m e hm hlt he => exact nonzero_mul hm (by omega) _ (by decide)

theorem zero_div (s : Sign) (h : Nonzero x) :
    ∃ s', UnpackedFloat.div Format.binary64 (.zero s) x = .zero s' := by
  cases h with
  | infinity s' => exact ⟨s / s', rfl⟩
  | finite s' m e hm hlt he => exact ⟨s / s', rfl⟩

/-- A count is no zero as a double, whether it is held exactly, rounded, or too large. -/
theorem nonzero_natCast {n : Nat} (h : 0 < n) : Nonzero (n : Float).toModel.unpack := by
  change Nonzero (Float.ofScientific n false 0).toModel.unpack
  unfold Float.ofScientific
  split
  · rename_i hsmall
    have hword : n.toUInt64.toNat = n := UInt64.toNat_ofNat_of_lt' (by
      have := hsmall.1
      simp only [UInt64.size]
      omega)
    have hcount : Nonzero n.toUInt64.toFloat.toModel.unpack := by
      apply nonzero_unpack_pack
      rw [UnpackedFloat.ofUInt64, hword]
      exact nonzero_ofNat h
    apply nonzero_unpack_pack
    change Nonzero (UnpackedFloat.mul Format.binary64 n.toUInt64.toFloat.toModel.unpack
      (1 : Float).toModel.unpack)
    rw [unpack_one]
    exact nonzero_mul_one hcount
  · apply nonzero_unpack_pack
    have hlarge : ¬ ((0 : Int) > 2 ^ Format.binary64.exponentBits) := by decide
    have hsmall : ¬ ((0 : Int) < -(2 ^ Format.binary64.exponentBits + (n.log2 : Int))) := by
      have : (0 : Int) < 2 ^ Format.binary64.exponentBits := by decide
      omega
    change Nonzero (UnpackedFloat.ofScientific Format.binary64 n 0)
    rw [UnpackedFloat.ofScientific, dif_neg h.ne', if_neg hlarge, if_neg hsmall, if_pos le_rfl]
    have hlog := log2_shiftLeft_le h Format.binary64.mantissaBits
    exact nonzero_mul _ (by omega) _ (by decide)

theorem zero_div_natCast {n : Nat} (h : 0 < n) :
    (((0 : Nat) : Float) / (n : Float) == ((0 : Nat) : Float)) = true := by
  have hzero : ((0 : Nat) : Float).toModel.unpack = .zero .positive := by rfl
  obtain ⟨s, hs⟩ := zero_div .positive (nonzero_natCast h)
  change Float.Model.beq (Float.Model.pack (UnpackedFloat.div Format.binary64
    ((0 : Nat) : Float).toModel.unpack (n : Float).toModel.unpack))
      ((0 : Nat) : Float).toModel = true
  rw [hzero, hs]
  cases s <;> rfl

theorem sample_sub_self (v : UInt8) :
    (v.toNat : Float) - (v.toNat : Float) = ((0 : Nat) : Float) := by
  have hall : ∀ n : Fin 256, ((n.val : Nat) : Float) - (n.val : Float) = ((0 : Nat) : Float) := by
    decide +kernel
  exact hall ⟨v.toNat, v.toNat_lt⟩

end Double

instance : ZeroLaws Float where
  sample_sub_self := Double.sample_sub_self
  zero_mul_zero := by decide
  neg_zero_add_zero := by decide
  zero_add_zero := by decide
  zero_div_count n h := Double.zero_div_natCast h

end Planar
