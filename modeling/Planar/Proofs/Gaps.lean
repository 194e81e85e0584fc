import Planar.Proofs.Differences
import Planar.Proofs.OrderStatistics

/-! What a comparison of two planes measures, in exact arithmetic, told by how far apart they are
at each position. -/
namespace Planar

namespace Grid
variable {shape : Shape} {f g : Fin shape.height → Fin shape.width → Rat} {a b : Grid Rat}

/-- How far apart two equally shaped grids are at a position. -/
def gap (a b : Grid Rat) (h : a.shape = b.shape) (row : Fin a.height) (col : Fin a.width) : Rat :=
  |a.get row col - b.get (row.cast (congrArg Shape.height h)) (col.cast (congrArg Shape.width h))|

/-- The gaps of two equally shaped grids, row by row. -/
def gaps (a b : Grid Rat) (h : a.shape = b.shape) : List Rat :=
  (positions a.shape).map fun (row, col) => a.gap b h row col

theorem length_gaps (h : a.shape = b.shape) : (a.gaps b h).length = a.samples.size := by
  rw [gaps, List.length_map, length_positions, a.size_samples]

theorem gaps_ofFn : (ofFn shape f).gaps (ofFn shape g) rfl =
    (positions shape).map fun (row, col) => |f row col - g row col| := by
  simp only [gaps, gap, funext_get_ofFn]
  rfl

end Grid

/-- Shares come one for each threshold, in their order. -/
theorem Comparison.map_threshold_shares {α : Type} [Scalar α] (absolute thresholds : List α) :
    (thresholds.map (share absolute)).map Share.threshold = thresholds := by
  rw [List.map_map]
  exact List.map_id thresholds

/-- The measures of a comparison as those of a list of gaps. -/
structure Comparison.Measures (comparison : Comparison Rat) (gaps thresholds : List Rat) :
    Prop where
  meanAbs_eq : comparison.meanAbs = Statistics.mean gaps
  medianAbs_eq : comparison.medianAbs = Statistics.median gaps
  maxAbs_eq : comparison.maxAbs = gaps.foldl max 0
  exceeding_eq : comparison.exceeding = thresholds.map (share gaps)

section
variable {shape : Shape} {f g : Fin shape.height → Fin shape.width → Rat} {a b : Grid Rat}

theorem DifferenceMap.toList_absolute_ofFn :
    (⟨Grid.ofFn shape fun row col => f row col - g row col⟩ :
      DifferenceMap Rat).absolute.samples.toList =
        (Grid.ofFn shape f).gaps (Grid.ofFn shape g) rfl := by
  rw [absolute, Grid.map_ofFn, Grid.toList_ofFn, Grid.gaps_ofFn]
  simp only [scalarAbs_eq_abs]

theorem DifferenceMap.peak_ofFn :
    (⟨Grid.ofFn shape fun row col => f row col - g row col⟩ : DifferenceMap Rat).peak =
      ((Grid.ofFn shape f).gaps (Grid.ofFn shape g) rfl).foldl max 0 := by
  rw [peak_eq_foldl_max, Grid.toList_ofFn, List.map_map, Grid.gaps_ofFn]
  rfl

theorem Comparison.exists_measures [Analytic Rat] (h : a.shape = b.shape)
    (thresholds : List Rat) : ∃ comparison, between a b thresholds = .ok comparison ∧
      comparison.Measures (a.gaps b h) thresholds := by
  obtain ⟨shape, f, g, rfl, rfl⟩ := Grid.exists_ofFn_of_shape h
  rw [between, DifferenceMap.between_ofFn]
  refine ⟨_, rfl, ?_⟩
  constructor
  · exact congrArg Statistics.mean DifferenceMap.toList_absolute_ofFn
  · exact congrArg Statistics.median DifferenceMap.toList_absolute_ofFn
  · exact DifferenceMap.peak_ofFn
  · exact congrArg (fun gaps => thresholds.map (share gaps)) DifferenceMap.toList_absolute_ofFn

theorem Comparison.percent_share (gaps : List Rat) (threshold : Rat) :
    (share gaps threshold).percent =
      (gaps.countP (threshold < ·) : Nat) / (gaps.length : Rat) * 100 := by
  rw [share]
  split
  · rename_i hnone
    simp [hnone]
  · rfl

theorem meanSquaredError_eq (h : a.shape = b.shape) :
    meanSquaredError a b = .ok (Statistics.mean ((a.gaps b h).map fun d => d * d)) := by
  obtain ⟨shape, f, g, rfl, rfl⟩ := Grid.exists_ofFn_of_shape h
  rw [Grid.gaps_ofFn, List.map_map, meanSquaredError, dif_pos h, Grid.zipWith_ofFn,
    Grid.toList_ofFn]
  simp only [Function.comp_def, abs_mul_abs_self]

end

end Planar
