import Mathlib
import Planar.Grid

/-! Exact numbers that are whole: rounding any way leaves them alone. -/
namespace Planar

theorem floorNat_natCast (n : Nat) : floorNat (n : Rat) = n := by
  have hfloor : (n : Rat).floor = n := Rat.floor_intCast (n : Int)
  change (n : Rat).floor.toNat = n
  omega

theorem ceilNat_natCast (n : Nat) : ceilNat (n : Rat) = n := by
  have hceil : (n : Rat).ceil = n := Rat.ceil_intCast (n : Int)
  change (n : Rat).ceil.toNat = n
  omega

theorem roundNat_natCast (n : Nat) : roundNat (n : Rat) = n := by
  have hhalf : (1 / 2 : Rat).floor = 0 := by decide +kernel
  have hfloor : (1 / 2 + (n : Rat)).floor = (1 / 2 : Rat).floor + n :=
    Rat.floor_add_intCast (y := (n : Int))
  change ((n : Rat) + 1 / 2).floor.toNat = n
  rw [add_comm]
  omega

theorem quantizeSample_natCast (v : UInt8) : quantizeSample (v.toNat : Rat) = v := by
  have hv : v.toNat ≤ 255 := Nat.le_of_lt_succ v.toNat_lt
  rw [quantizeSample, roundNat_natCast, Nat.min_eq_right hv, UInt8.ofNat_toNat]

theorem floorNat_eq_floor (x : Rat) : floorNat x = ⌊x⌋₊ := Int.floor_toNat x

theorem ceilNat_eq_ceil (x : Rat) : ceilNat x = ⌈x⌉₊ := by
  have hceil : x.ceil = ⌈x⌉ := Rat.ceil_eq_neg_floor_neg x
  change x.ceil.toNat = ⌈x⌉₊
  rw [hceil, Int.ceil_toNat]

theorem roundNat_eq_round (x : Rat) : roundNat x = (round x).toNat := by
  rw [round_eq]
  rfl

/-- A value that rounds into the 8-bit range is rounded and nothing else. -/
theorem natCast_quantizeSample {x : Rat} (h₀ : 0 ≤ round x) (h₁ : round x ≤ 255) :
    ((quantizeSample x).toNat : Int) = round x := by
  have hround : min 255 (round x).toNat = (round x).toNat := Nat.min_eq_right (by omega)
  have hlt : (round x).toNat < 256 := by omega
  rw [quantizeSample, roundNat_eq_round, hround, UInt8.toNat_ofNat_of_lt' hlt]
  omega

theorem round_le_round {x y : Rat} (h : x ≤ y) : round x ≤ round y := by
  rw [round_eq, round_eq]
  exact Int.floor_le_floor (add_le_add_left h _)

/-- Rounding does not move two values further apart than a whole number that bounds their
distance. -/
theorem round_le_round_add {x y : Rat} {n : Nat} (h : x ≤ y + n) : round x ≤ round y + n := by
  rw [← round_add_natCast]
  exact round_le_round h

/-- Every value is rounded, then cut off at the ends of the 8-bit range. -/
theorem toNat_quantizeSample (x : Rat) :
    (quantizeSample x).toNat = min 255 (round x).toNat := by
  rw [quantizeSample, roundNat_eq_round]
  exact UInt8.toNat_ofNat_of_lt' (Nat.lt_succ_of_le (Nat.min_le_left _ _))

theorem quantizeSample_mono {x y : Rat} (h : x ≤ y) : quantizeSample x ≤ quantizeSample y := by
  rw [UInt8.le_iff_toNat_le, toNat_quantizeSample, toNat_quantizeSample]
  exact min_le_min_left 255 (Int.toNat_le_toNat (round_le_round h))

theorem abs_quantizeSample_sub_le {x y : Rat} {n : Nat} (h : |x - y| ≤ n) :
    |((quantizeSample x).toNat : Rat) - (quantizeSample y).toNat| ≤ n := by
  obtain ⟨hxy, hyx⟩ := abs_sub_le_iff.mp h
  have hround := round_le_round_add (sub_le_iff_le_add'.mp hxy)
  have hround' := round_le_round_add (sub_le_iff_le_add'.mp hyx)
  have hle : (quantizeSample x).toNat ≤ (quantizeSample y).toNat + n := by
    rw [toNat_quantizeSample, toNat_quantizeSample]
    omega
  have hle' : (quantizeSample y).toNat ≤ (quantizeSample x).toNat + n := by
    rw [toNat_quantizeSample, toNat_quantizeSample]
    omega
  rw [abs_sub_le_iff, sub_le_iff_le_add', sub_le_iff_le_add']
  exact ⟨by exact_mod_cast hle, by exact_mod_cast hle'⟩

namespace Grid

/-- Samples are whole, so nothing is lost on the way to exact numbers and back. -/
theorem quantize_toScalar (g : Grid UInt8) : (g.toScalar : Grid Rat).quantize = g := by
  obtain ⟨shape, samples, hsize⟩ := g
  have hsamples : samples.map (fun v => quantizeSample (v.toNat : Rat)) = samples := by
    simp [quantizeSample_natCast]
  simpa [quantize, toScalar, map, Function.comp_def] using hsamples

end Grid

end Planar
