import Planar.Proofs.OrderStatistics

/-! Mean and variance of exact numbers: linearity, the mean square split between the two, and how
far the variance can go. -/
namespace Planar.Statistics
variable {values others : List Rat} {low high : Rat}

theorem mean_map_add (f g : Rat → Rat) (values : List Rat) :
    mean (values.map fun v => f v + g v) = mean (values.map f) + mean (values.map g) := by
  simp only [mean_eq, List.length_map, List.sum_map_add, add_div]

theorem mean_map_mul_left (c : Rat) (f : Rat → Rat) (values : List Rat) :
    mean (values.map fun v => c * f v) = c * mean (values.map f) := by
  simp only [mean_eq, List.length_map, List.sum_map_mul_left, mul_div_assoc]

theorem mean_map_const (c : Rat) (h : 0 < values.length) : mean (values.map fun _ => c) = c := by
  have hlength : (values.length : Rat) ≠ 0 := Nat.cast_ne_zero.mpr h.ne'
  rw [mean_eq, List.map_const', List.sum_replicate, List.length_replicate, nsmul_eq_mul]
  exact mul_div_cancel_left₀ c hlength

theorem mean_map_neg (values : List Rat) : mean (values.map fun v => -v) = -mean values := by
  have h := mean_map_mul_left (-1) id values
  simpa using h

theorem variance_map_neg (values : List Rat) :
    variance (values.map fun v => -v) = variance values := by
  have hsquare : ∀ v : Rat, (-v - -mean values) * (-v - -mean values) =
      (v - mean values) * (v - mean values) := by
    intro v
    ring
  simp only [variance, mean_map_neg, List.map_map, Function.comp_def, hsquare]

theorem variance_nonneg (values : List Rat) : 0 ≤ variance values := by
  apply mean_nonneg
  rw [List.forall_mem_map]
  exact fun v _ => mul_self_nonneg _

/-- The mean square is what the values spread about their mean and the square of that mean. -/
theorem mean_squares (h : 0 < values.length) :
    mean (values.map fun v => v * v) = variance values + mean values * mean values := by
  have hsplit : ∀ v : Rat, v * v = (v - mean values) * (v - mean values) +
      (2 * mean values * v + -(mean values * mean values)) := by
    intro v
    ring
  calc mean (values.map fun v => v * v)
      = variance values + (2 * mean values * mean (values.map fun v => v) +
          -(mean values * mean values)) := by
        rw [List.map_congr_left fun v _ => hsplit v, mean_map_add, mean_map_add,
          mean_map_mul_left, mean_map_const _ h]
        rfl
    _ = variance values + mean values * mean values := by
        rw [List.map_id']
        ring

theorem mul_mean_le_mean_squares (h : 0 < values.length) :
    mean values * mean values ≤ mean (values.map fun v => v * v) := by
  rw [mean_squares h]
  exact le_add_of_nonneg_left (variance_nonneg values)

theorem mean_map_le_mean_map {f g : Rat → Rat} (h : ∀ v ∈ values, f v ≤ g v) :
    mean (values.map f) ≤ mean (values.map g) := by
  apply mean_le_mean
  rw [List.forall₂_map_left_iff, List.forall₂_map_right_iff, List.forall₂_same]
  exact h

theorem mean_le (hsome : 0 < values.length) (h : ∀ v ∈ values, v ≤ high) :
    mean values ≤ high := by
  have hmean : mean (values.map fun v => v) ≤ mean (values.map fun _ => high) :=
    mean_map_le_mean_map h
  rwa [List.map_id', mean_map_const high hsome] at hmean

theorem le_mean (hsome : 0 < values.length) (h : ∀ v ∈ values, low ≤ v) : low ≤ mean values := by
  have hmean : mean (values.map fun _ => low) ≤ mean (values.map fun v => v) :=
    mean_map_le_mean_map h
  rwa [List.map_id', mean_map_const low hsome] at hmean

/-- The mean square of values from zero up to a bound is at most the bound times their mean. -/
theorem mean_squares_le (h : ∀ v ∈ values, 0 ≤ v ∧ v ≤ high) :
    mean (values.map fun v => v * v) ≤ high * mean values := by
  have hmean : mean (values.map fun v => v * v) ≤ mean (values.map fun v => high * v) :=
    mean_map_le_mean_map fun v hv => mul_le_mul_of_nonneg_right (h v hv).2 (h v hv).1
  rwa [mean_map_mul_left, List.map_id'] at hmean

theorem mean_map_eq_zero_iff {f : Rat → Rat} (hsome : 0 < values.length) (hf : ∀ v, 0 ≤ f v) :
    mean (values.map f) = 0 ↔ ∀ v ∈ values, f v = 0 := by
  have hlength : ((values.map f).length : Rat) ≠ 0 := by
    rw [List.length_map]
    exact Nat.cast_ne_zero.mpr hsome.ne'
  have hnonneg : ∀ w ∈ values.map f, 0 ≤ w := List.forall_mem_map.mpr fun v _ => hf v
  have hall : (∀ w ∈ values.map f, w = 0) ↔ ∀ v ∈ values, f v = 0 := List.forall_mem_map
  rw [mean_eq, div_eq_zero_iff, or_iff_left hlength, ← hall]
  constructor
  · intro hsum w hw
    exact List.all_zero_of_le_zero_le_of_sum_eq_zero hnonneg hsum hw
  · exact List.sum_eq_zero

theorem variance_eq_zero_iff (hsome : 0 < values.length) :
    variance values = 0 ↔ ∀ v ∈ values, v = mean values := by
  rw [variance, mean_map_eq_zero_iff hsome fun v => mul_self_nonneg _]
  simp only [mul_self_eq_zero, sub_eq_zero]

/-- Values between two bounds spread most when they lie at the bounds. -/
theorem variance_le (hsome : 0 < values.length) (h : ∀ v ∈ values, low ≤ v ∧ v ≤ high) :
    variance values ≤ (high - mean values) * (mean values - low) := by
  have hproduct : 0 ≤ mean (values.map fun v => (high - v) * (v - low)) := by
    apply mean_nonneg
    rw [List.forall_mem_map]
    exact fun v hv => mul_nonneg (sub_nonneg.mpr (h v hv).2) (sub_nonneg.mpr (h v hv).1)
  have hsplit : ∀ v : Rat, (high - v) * (v - low) =
      -1 * (v * v) + ((high + low) * v + -(high * low)) := by
    intro v
    ring
  rw [List.map_congr_left fun v _ => hsplit v, mean_map_add, mean_map_add, mean_map_mul_left,
    mean_map_mul_left, mean_map_const _ hsome, mean_squares hsome, List.map_id'] at hproduct
  linarith

/-! ### The order of the values does not matter -/

theorem mean_perm (h : values.Perm others) : mean values = mean others := by
  rw [mean_eq, mean_eq, h.sum_eq, h.length_eq]

theorem variance_perm (h : values.Perm others) : variance values = variance others := by
  rw [variance, variance, mean_perm h]
  exact mean_perm (h.map _)

end Planar.Statistics
