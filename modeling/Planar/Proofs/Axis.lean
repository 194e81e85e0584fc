import Planar.Proofs.Bilinear

/-! Where the positions of one axis come to lie among those of the source, in exact arithmetic. -/
namespace Planar

/-- Source coordinate of output position `i`. The first and the last positions of both axes lie on
each other, and a single output position lies on the first one. -/
def coordinate (source target i : Nat) : Rat :=
  if target = 1 then 0 else i * ((source : Rat) - 1) / ((target : Rat) - 1)

variable {source target i : Nat}

theorem ratio_mul_eq_coordinate (hs : 0 < source) (ht : 0 < target) (i : Nat) :
    Tap.ratio source target * (i : Rat) = coordinate source target i := by
  unfold coordinate
  split
  · rename_i hone
    subst hone
    exact zero_mul (i : Rat)
  · have hmore : 1 < target := by omega
    have hratio :
        Tap.ratio source target = ((source - 1 : Nat) : Rat) / ((target - 1 : Nat) : Rat) :=
      if_pos hmore
    rw [hratio, Nat.cast_pred hs, Nat.cast_pred ht]
    ring

theorem coordinate_nonneg (hs : 0 < source) (ht : 0 < target) : 0 ≤ coordinate source target i := by
  have hsource : (1 : Rat) ≤ source := by exact_mod_cast hs
  have htarget : (1 : Rat) ≤ target := by exact_mod_cast ht
  unfold coordinate
  split
  · exact le_rfl
  · exact div_nonneg (mul_nonneg (Nat.cast_nonneg i) (by linarith)) (by linarith)

/-- No output position lies past the last source position. -/
theorem coordinate_le (hs : 0 < source) (hi : i < target) :
    coordinate source target i ≤ ((source - 1 : Nat) : Rat) := by
  have hlast : (0 : Rat) ≤ ((source - 1 : Nat) : Rat) := Nat.cast_nonneg _
  unfold coordinate
  split
  · exact hlast
  · have hmore : (1 : Rat) < target := by exact_mod_cast (by omega : 1 < target)
    have hrow : (i : Rat) ≤ (target : Rat) - 1 := by
      rw [← Nat.cast_pred (by omega)]
      exact_mod_cast (by omega : i ≤ target - 1)
    rw [← Nat.cast_pred hs, div_le_iff₀ (by linarith), mul_comm]
    exact mul_le_mul_of_nonneg_left hrow hlast

/-- The weighted mean of two values, the weight being that of the second. -/
def mix (a b w : Rat) : Rat := a * (1 - w) + b * w

theorem min_le_mix {a b w : Rat} (h₀ : 0 ≤ w) (h₁ : w ≤ 1) : min a b ≤ mix a b w := by
  have ha := mul_le_mul_of_nonneg_right (min_le_left a b) (sub_nonneg.mpr h₁)
  have hb := mul_le_mul_of_nonneg_right (min_le_right a b) h₀
  calc min a b = min a b * (1 - w) + min a b * w := by ring
    _ ≤ mix a b w := add_le_add ha hb

theorem mix_le_max {a b w : Rat} (h₀ : 0 ≤ w) (h₁ : w ≤ 1) : mix a b w ≤ max a b := by
  have ha := mul_le_mul_of_nonneg_right (le_max_left a b) (sub_nonneg.mpr h₁)
  have hb := mul_le_mul_of_nonneg_right (le_max_right a b) h₀
  calc mix a b w ≤ max a b * (1 - w) + max a b * w := add_le_add ha hb
    _ = max a b := by ring

theorem mix_affine (p q a b w : Rat) : mix (p + q * a) (p + q * b) w = p + q * mix a b w := by
  unfold mix
  ring

namespace Tap

/-- Blending is mixing along both rows and then between them. -/
theorem blend_eq_mix {rows cols : Nat} (y : Tap Rat rows) (x : Tap Rat cols)
    (sample : Fin rows → Fin cols → Rat) :
    y.blend x sample = mix (mix (sample y.low x.low) (sample y.low x.high) x.weight)
      (mix (sample y.high x.low) (sample y.high x.high) x.weight) y.weight := by
  simp only [blend, mix, Nat.cast_one]
  ring

/-- The tap of a coordinate: the whole positions on either side of it, which are one if it is
whole, and the part of the way from the lower one. -/
structure At {n : Nat} (tap : Tap Rat n) (x : Rat) : Prop where
  low_eq : tap.low.val = ⌊x⌋₊
  high_eq : tap.high.val = ⌈x⌉₊
  weight_eq : tap.weight = x - ⌊x⌋₊

/-- Inside the source both sides of a coordinate are there, so keeping them inside changes
nothing. -/
theorem at_forIndex (hs : 0 < source) (hi : i < target) :
    (forIndex source target hs i : Tap Rat source).At (coordinate source target i) := by
  have hle := coordinate_le hs hi
  have hlow : min ⌊coordinate source target i⌋₊ (source - 1) = ⌊coordinate source target i⌋₊ :=
    Nat.min_eq_left (Nat.floor_le_of_le hle)
  have hhigh : min ⌈coordinate source target i⌉₊ (source - 1) = ⌈coordinate source target i⌉₊ :=
    Nat.min_eq_left (Nat.ceil_le.mpr hle)
  have hposition := ratio_mul_eq_coordinate hs (Nat.zero_lt_of_lt hi) i
  constructor
  · simpa only [forIndex, hposition, floorNat_eq_floor] using hlow
  · simpa only [forIndex, hposition, ceilNat_eq_ceil] using hhigh
  · simp only [forIndex, hposition, floorNat_eq_floor, hlow]

variable {n : Nat} {tap : Tap Rat n} {x : Rat}

theorem At.weight_nonneg (h : tap.At x) (hx : 0 ≤ x) : 0 ≤ tap.weight := by
  rw [h.weight_eq]
  exact sub_nonneg.mpr (Nat.floor_le hx)

theorem At.weight_lt_one (h : tap.At x) : tap.weight < 1 := by
  have hlt := Nat.lt_floor_add_one x
  rw [h.weight_eq]
  linarith

theorem weight_forIndex (hs : 0 < source) (hi : i < target) :
    (forIndex source target hs i : Tap Rat source).weight ∈ Set.Ico 0 1 :=
  ⟨(at_forIndex hs hi).weight_nonneg (coordinate_nonneg hs (Nat.zero_lt_of_lt hi)),
    (at_forIndex hs hi).weight_lt_one⟩

/-- The weighted mean of the two positions is the coordinate itself. -/
theorem At.mix_eq (h : tap.At x) (hx : 0 ≤ x) :
    mix tap.low.val tap.high.val tap.weight = x := by
  rw [mix, h.low_eq, h.high_eq, h.weight_eq]
  have hfloor := Nat.floor_le hx
  rcases hfloor.eq_or_lt with hwhole | hpart
  · rw [hwhole]
    ring
  · have hceil : ⌈x⌉₊ = ⌊x⌋₊ + 1 := by
      apply le_antisymm (Nat.ceil_le_floor_add_one x)
      exact Nat.lt_ceil.mpr hpart
    rw [hceil, Nat.cast_add, Nat.cast_one]
    ring

end Tap

end Planar
