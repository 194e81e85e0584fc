import Planar.Proofs.Gaps
import Planar.Proofs.Moments

/-! The error behind a ratio of signal to noise against the statistics of the difference map, and
what becomes of both when the two planes change places. -/
namespace Planar

section
variable {a b : Grid Rat} {map : DifferenceMap Rat}

namespace DifferenceMap

/-- The signed differences, row by row. -/
def differences (map : DifferenceMap Rat) : List Rat := map.signed.samples.toList

/-- The differences of the same planes the other way round. -/
def swapped (map : DifferenceMap Rat) : DifferenceMap Rat := ⟨map.signed.map fun d => -d⟩

theorem toList_absolute (map : DifferenceMap Rat) :
    map.absolute.samples.toList = map.differences.map fun d => |d| := by
  rw [absolute, Grid.map, Array.toList_map]
  exact List.map_congr_left fun d _ => scalarAbs_eq_abs d

theorem differences_swapped (map : DifferenceMap Rat) :
    map.swapped.differences = map.differences.map fun d => -d := by
  rw [differences, swapped, Grid.map, Array.toList_map]
  rfl

/-- Absolute differences do not tell which plane is which. -/
theorem absolute_swapped (map : DifferenceMap Rat) : map.swapped.absolute = map.absolute := by
  have hlist : map.swapped.absolute.samples.toList = map.absolute.samples.toList := by
    rw [toList_absolute, toList_absolute, differences_swapped, List.map_map]
    exact List.map_congr_left fun d _ => abs_neg d
  have hshape : map.swapped.absolute.shape = map.absolute.shape := rfl
  exact Grid.eq_of_samples hshape (Array.toList_inj.mp hlist)

theorem between_of_shape (h : a.shape = b.shape) : ∃ map : DifferenceMap Rat,
    between a b = .ok map ∧ between b a = .ok map.swapped ∧
      map.differences.length = a.samples.size ∧
      meanSquaredError a b = .ok (Statistics.mean (map.differences.map fun d => d * d)) := by
  obtain ⟨shape, f, g, rfl, rfl⟩ := Grid.exists_ofFn_of_shape h
  refine ⟨_, between_ofFn, ?_, ?_, ?_⟩
  · rw [between_ofFn, swapped, Grid.map_ofFn]
    simp only [neg_sub]
  · rw [differences, Array.length_toList, Grid.size_samples, Grid.size_samples]
    rfl
  · rw [meanSquaredError, dif_pos h, Grid.zipWith_ofFn, differences, Grid.toList_ofFn,
      Grid.toList_ofFn, List.map_map]
    rfl

end DifferenceMap

namespace Comparison
variable [Analytic Rat]

theorem between_of_map (h : DifferenceMap.between a b = .ok map) (thresholds : List Rat) :
    between a b thresholds = .ok (ofMap map thresholds) := by
  rw [between, h]
  rfl

theorem measures_ofMap (map : DifferenceMap Rat) (thresholds : List Rat) :
    (ofMap map thresholds).Measures (map.differences.map fun d => |d|) thresholds where
  meanAbs_eq := congrArg Statistics.mean map.toList_absolute
  medianAbs_eq := congrArg Statistics.median map.toList_absolute
  maxAbs_eq := map.peak_eq_foldl_max
  exceeding_eq := congrArg (fun gaps => thresholds.map (share gaps)) map.toList_absolute

/-- No measure tells which plane is which. -/
theorem ofMap_swapped (map : DifferenceMap Rat) (thresholds : List Rat) :
    ofMap map.swapped thresholds = ofMap map thresholds := by
  have hvariance : Statistics.variance map.swapped.differences =
      Statistics.variance map.differences := by
    rw [DifferenceMap.differences_swapped, Statistics.variance_map_neg]
  have hstd : Statistics.stdDev map.swapped.signed.samples.toList =
      Statistics.stdDev map.signed.samples.toList := congrArg sqrt hvariance
  simp only [ofMap, DifferenceMap.peak, DifferenceMap.absolute_swapped, hstd]

/-- A mean squared error as the statistics of the signed differences make it up and as the reported
measures bound it. -/
structure Splits (comparison : Comparison Rat) (mse : Rat) (differences : List Rat) : Prop where
  mean_squares : mse = Statistics.mean (differences.map fun d => d * d)
  variance_add : mse = Statistics.variance differences + Statistics.mean differences ^ 2
  stdSigned_eq : comparison.stdSigned = sqrt (Statistics.variance differences)
  sq_meanAbs_le : comparison.meanAbs ^ 2 ≤ mse
  le_sq_maxAbs : mse ≤ comparison.maxAbs ^ 2
  le_maxAbs_mul_meanAbs : mse ≤ comparison.maxAbs * comparison.meanAbs

theorem splits_ofMap (hsome : 0 < map.differences.length) (thresholds : List Rat) :
    (ofMap map thresholds).Splits (Statistics.mean (map.differences.map fun d => d * d))
      map.differences := by
  have hmeasures := measures_ofMap map thresholds
  obtain ⟨gaps, hgaps⟩ : ∃ gaps, gaps = map.differences.map fun d => |d| := ⟨_, rfl⟩
  rw [← hgaps] at hmeasures
  have hlength : 0 < gaps.length := by
    rwa [hgaps, List.length_map]
  have hsquares : Statistics.mean (map.differences.map fun d => d * d) =
      Statistics.mean (gaps.map fun d => d * d) := by
    rw [hgaps, List.map_map]
    simp only [Function.comp_def, abs_mul_abs_self]
  have hpeak : ∀ d ∈ gaps, 0 ≤ d ∧ d ≤ (ofMap map thresholds).maxAbs := by
    intro d hd
    constructor
    · obtain ⟨e, -, rfl⟩ := List.mem_map.mp (hgaps ▸ hd)
      exact abs_nonneg e
    · rw [hmeasures.maxAbs_eq]
      exact (foldl_max_le_iff.mp le_rfl).2 d hd
  have hnonneg : 0 ≤ (ofMap map thresholds).maxAbs := by
    rw [hmeasures.maxAbs_eq]
    exact (foldl_max_le_iff.mp le_rfl).1
  have hmean : (ofMap map thresholds).meanAbs ≤ (ofMap map thresholds).maxAbs := by
    rw [hmeasures.meanAbs_eq]
    exact Statistics.mean_le hlength fun d hd => (hpeak d hd).2
  have hbound : Statistics.mean (map.differences.map fun d => d * d) ≤
      (ofMap map thresholds).maxAbs * (ofMap map thresholds).meanAbs := by
    rw [hsquares, hmeasures.meanAbs_eq]
    exact Statistics.mean_squares_le hpeak
  constructor
  · rfl
  · rw [Statistics.mean_squares hsome, sq]
  · rfl
  · rw [sq, hsquares, hmeasures.meanAbs_eq]
    exact Statistics.mul_mean_le_mean_squares hlength
  · rw [sq]
    exact hbound.trans (mul_le_mul_of_nonneg_left hmean hnonneg)
  · exact hbound

end Comparison

/-- The error of a ratio of signal to noise is the mean square of the differences, which is their
variance, reported by its root, and the square of their mean. So it lies between the squares of the
mean and of the largest absolute difference. Planes that change places leave every measure as it
is. -/
theorem noise_splits [Analytic Rat] (hsome : 0 < a.samples.size) (h : a.shape = b.shape)
    (thresholds : List Rat) : ∃ map swapped comparison mse,
      (DifferenceMap.between a b = .ok map ∧
        Comparison.between a b thresholds = .ok comparison ∧ meanSquaredError a b = .ok mse ∧
        signalToNoise a b = .ok (Psnr.ofMeanSquare mse)) ∧
      comparison.Splits mse map.differences ∧
      DifferenceMap.between b a = .ok swapped ∧
      Comparison.between b a thresholds = .ok comparison ∧ meanSquaredError b a = .ok mse ∧
      Statistics.variance swapped.differences = Statistics.variance map.differences ∧
      Statistics.mean swapped.differences = -Statistics.mean map.differences := by
  obtain ⟨map, hmap, hswapped, hlength, hmse⟩ := DifferenceMap.between_of_shape h
  obtain ⟨map', hmap', -, -, hmse'⟩ := DifferenceMap.between_of_shape h.symm
  obtain rfl : map' = map.swapped := Except.ok.inj (hmap'.symm.trans hswapped)
  have hcompared := Comparison.between_of_map hmap thresholds
  have hcompared' := Comparison.between_of_map hswapped thresholds
  rw [Comparison.ofMap_swapped] at hcompared'
  rw [DifferenceMap.differences_swapped, List.map_map] at hmse'
  simp only [Function.comp_def, neg_mul_neg] at hmse'
  refine ⟨map, map.swapped, _, _, ⟨hmap, hcompared, hmse, ?_⟩,
    Comparison.splits_ofMap (hlength ▸ hsome) thresholds, hswapped, hcompared', hmse', ?_, ?_⟩
  · rw [signalToNoise, hmse]
    rfl
  · rw [DifferenceMap.differences_swapped, Statistics.variance_map_neg]
  · rw [DifferenceMap.differences_swapped, Statistics.mean_map_neg]

end

/-- Four samples against four others, the differences `0`, `1`, `-3` and `4`, of which the square
mean is six and a half: a quarter for the mean and the rest for the deviation of two and a half. -/
theorem noise_splits_row :
    let a : Grid Rat := ⟨⟨4, 1⟩, #[10, 20, 30, 40], rfl⟩
    let b : Grid Rat := ⟨⟨4, 1⟩, #[10, 19, 33, 36], rfl⟩
    -- The deviation comes out exact.
    let _ : Analytic Rat := ⟨Rat.sqrt, fun x => Int.log 10 x⟩
    (0 < a.samples.size ∧ a.shape = b.shape) ∧
    ∃ map comparison mse, DifferenceMap.between a b = .ok map ∧
      Comparison.between a b [0, 1] = .ok comparison ∧
      Comparison.between b a [0, 1] = .ok comparison ∧
      map.differences = [0, 1, -3, 4] ∧ mse = 13 / 2 ∧ comparison.Splits mse map.differences ∧
      comparison.meanAbs = 2 ∧ comparison.maxAbs = 4 ∧ comparison.stdSigned = 5 / 2 := by
  intro a b analytic
  have hsome : 0 < a.samples.size := by decide
  have hshape : a.shape = b.shape := rfl
  have hmse : meanSquaredError a b = .ok (13 / 2) := by decide +kernel
  have hdifferences : (DifferenceMap.between a b).map DifferenceMap.differences =
      .ok [0, 1, -3, 4] := by decide +kernel
  have hmeasures : (Comparison.between a b [0, 1]).map
      (fun c => (c.meanAbs, c.maxAbs, c.stdSigned)) = .ok (2, 4, 5 / 2) := by decide +kernel
  obtain ⟨map, swapped, comparison, mse, ⟨hmap, hcompared, herror, -⟩, hsplits, -, hcompared', -⟩ :=
    noise_splits hsome hshape [0, 1]
  rw [hmap] at hdifferences
  rw [hcompared] at hmeasures
  obtain ⟨hmean, hmax, hstd⟩ : comparison.meanAbs = 2 ∧ comparison.maxAbs = 4 ∧
      comparison.stdSigned = 5 / 2 := by
    simpa using Except.ok.inj hmeasures
  obtain rfl : mse = 13 / 2 := Except.ok.inj (herror.symm.trans hmse)
  exact ⟨⟨hsome, hshape⟩, map, comparison, _, hmap, hcompared, hcompared',
    Except.ok.inj hdifferences, rfl, hsplits, hmean, hmax, hstd⟩

end Planar
