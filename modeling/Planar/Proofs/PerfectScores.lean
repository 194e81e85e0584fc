import Planar.Proofs.HeatMaps
import Planar.Proofs.Noise

/-! Two planes of bytes are the same if and only if any one measure of their differences says so. -/
namespace Planar

namespace Grid
variable {α : Type} {v : α} {shape : Shape} {f g : Fin shape.height → Fin shape.width → α}

theorem mem_samples_ofFn : v ∈ (ofFn shape f).samples ↔ ∃ row col, f row col = v := by
  rw [← Array.mem_toList_iff, toList_ofFn, List.mem_map]
  constructor
  · rintro ⟨position, -, hv⟩
    exact ⟨position.1, position.2, hv⟩
  · rintro ⟨row, col, hv⟩
    exact ⟨(row, col), mem_positions _, hv⟩

theorem ofFn_eq_ofFn_iff : ofFn shape f = ofFn shape g ↔ ∀ row col, f row col = g row col := by
  constructor
  · intro h row col
    have hlist : (ofFn shape f).samples.toList = (ofFn shape g).samples.toList := by rw [h]
    rw [toList_ofFn, toList_ofFn, List.map_inj_left] at hlist
    exact hlist (row, col) (mem_positions _)
  · intro h
    exact congrArg (ofFn shape) (funext fun row => funext fun col => h row col)

/-- Blocks show every sample, and nothing else. -/
theorem mem_samples_enlarge (g : Grid α) {scale : Nat} (h : 0 < scale) :
    v ∈ (g.enlarge scale).samples ↔ v ∈ g.samples := by
  obtain ⟨shape, f, rfl⟩ := g.exists_ofFn
  simp only [enlarge, mem_samples_ofFn, funext_get_ofFn]
  constructor
  · rintro ⟨row, col, hv⟩
    exact ⟨_, _, hv⟩
  · rintro ⟨row, col, hv⟩
    refine ⟨⟨scale * row.val, Nat.mul_lt_mul_of_pos_left row.isLt h⟩,
      ⟨scale * col.val, Nat.mul_lt_mul_of_pos_left col.isLt h⟩, ?_⟩
    simp only [Nat.mul_div_cancel_left _ h]
    exact hv

end Grid

section
variable {map : DifferenceMap Rat}

namespace DifferenceMap

/-- No position differs. -/
def Vanishes (map : DifferenceMap Rat) : Prop := ∀ d ∈ map.differences, d = 0

/-- Bytes are exact numbers, so their differences vanish only where they are the same. -/
theorem vanishes_iff_eq {a b : Grid UInt8}
    (h : between (a.toScalar : Grid Rat) b.toScalar = .ok map) (hshape : a.shape = b.shape) :
    map.Vanishes ↔ a = b := by
  obtain ⟨shape, f, g, rfl, rfl⟩ := Grid.exists_ofFn_of_shape hshape
  rw [Grid.toScalar_ofFn, Grid.toScalar_ofFn, between_ofFn] at h
  obtain rfl := Except.ok.inj h
  rw [Vanishes, differences, Grid.toList_ofFn, List.forall_mem_map, Grid.ofFn_eq_ofFn_iff]
  simp only [sub_eq_zero, Nat.cast_inj, UInt8.toNat_inj]
  exact ⟨fun hall row col => hall (row, col) (Grid.mem_positions _), fun hall p _ => hall p.1 p.2⟩

theorem peak_nonneg (map : DifferenceMap Rat) : 0 ≤ map.peak := by
  rw [peak_eq_foldl_max]
  exact (foldl_max_le_iff.mp le_rfl).1

theorem peak_eq_zero_iff : map.peak = 0 ↔ map.Vanishes := by
  rw [← (map.peak_nonneg).ge_iff_eq', peak_eq_foldl_max, foldl_max_le_iff, List.forall_mem_map]
  simp only [abs_nonpos_iff, le_refl, true_and]
  rfl

theorem mean_map_eq_zero_iff {f : Rat → Rat} (hsome : 0 < map.differences.length)
    (hf : ∀ d, 0 ≤ f d) (hzero : ∀ d, f d = 0 ↔ d = 0) :
    Statistics.mean (map.differences.map f) = 0 ↔ map.Vanishes := by
  rw [Statistics.mean_map_eq_zero_iff hsome hf]
  simp only [hzero]
  rfl

/-- The share above zero counts the positions that differ. -/
theorem percent_eq_zero_iff (hsome : 0 < map.differences.length) :
    (Comparison.share (map.differences.map fun d => |d|) 0).percent = 0 ↔ map.Vanishes := by
  have hlength : (map.differences.length : Rat) ≠ 0 := Nat.cast_ne_zero.mpr hsome.ne'
  rw [Comparison.percent_share, List.length_map, mul_eq_zero, div_eq_zero_iff,
    or_iff_left (by norm_num), or_iff_left hlength, Nat.cast_eq_zero, List.countP_eq_zero,
    List.forall_mem_map]
  simp only [decide_eq_true_iff, abs_pos, not_not]
  rfl

end DifferenceMap

namespace HeatMap

/-- A pixel shows how large some difference is next to the largest. -/
theorem mem_samples_render (map : DifferenceMap Rat) (colour : Colour) :
    colour ∈ (render map).samples ↔
      ∃ d ∈ map.differences, ramp (if 0 < map.peak then |d| / map.peak else 0) = colour := by
  have hscale : 0 < scale map.signed.shape := Nat.lt_of_lt_of_le Nat.one_pos (Nat.le_max_left _ _)
  rw [render, Grid.mem_samples_enlarge _ hscale, Grid.map, ← Array.mem_toList_iff,
    Array.toList_map, DifferenceMap.toList_absolute, List.map_map, List.mem_map]
  rfl

/-- The ramp does not come back to its cool end. -/
theorem ramp_one_ne_ramp_zero : ramp (1 : Rat) ≠ ramp (0 : Rat) := by
  decide +kernel

theorem cool_everywhere_iff :
    (∀ colour ∈ (render map).samples, colour = ramp (0 : Rat)) ↔ map.Vanishes := by
  rw [← DifferenceMap.peak_eq_zero_iff]
  constructor
  · intro hcool
    by_contra hpeak
    have hpos : 0 < map.peak := lt_of_le_of_ne map.peak_nonneg (Ne.symm hpeak)
    -- the largest difference is somewhere, and its pixel is at the warm end
    have hlargest : map.peak ∈ 0 :: map.differences.map fun d => |d| := by
      rw [DifferenceMap.peak_eq_foldl_max]
      exact foldl_max_mem
    rcases List.mem_cons.mp hlargest with hzero | hmem
    · exact hpeak hzero
    · obtain ⟨d, hd, habs⟩ := List.mem_map.mp hmem
      have hwarm : ramp (1 : Rat) ∈ (render map).samples := by
        rw [mem_samples_render]
        refine ⟨d, hd, ?_⟩
        rw [if_pos hpos, habs, div_self hpeak]
      exact ramp_one_ne_ramp_zero (hcool _ hwarm)
  · intro hpeak colour hcolour
    obtain ⟨d, -, rfl⟩ := (mem_samples_render map colour).mp hcolour
    rw [if_neg (by rw [hpeak]; exact lt_irrefl 0)]

end HeatMap

theorem Psnr.ofMeanSquare_eq_unbounded_iff [Analytic Rat] {mse : Rat} :
    ofMeanSquare mse = .unbounded ↔ mse = 0 := by
  rw [ofMeanSquare, ite_eq_left_iff]
  simp

end

/-- Two planes of bytes with samples are the same exactly if their ratio of signal to noise is
unbounded, and exactly if any one of these vanishes: the mean squared error, the largest and the
mean absolute difference, the share of differences above zero, and all warmth of the heat map. -/
theorem perfect_iff_eq [Analytic Rat] {a b : Grid UInt8} (hsome : 0 < a.samples.size)
    (h : a.shape = b.shape) {thresholds : List Rat} (hzero : 0 ∈ thresholds) :
    ∃ (map : DifferenceMap Rat) (comparison : Comparison Rat) (mse : Rat) (psnr : Psnr Rat),
      (DifferenceMap.between a.toScalar b.toScalar = .ok map ∧
        Comparison.between a.toScalar b.toScalar thresholds = .ok comparison ∧
        meanSquaredError a.toScalar b.toScalar = .ok mse ∧
        signalToNoise a.toScalar b.toScalar = .ok psnr) ∧
      (psnr = .unbounded ↔ a = b) ∧
      (mse = 0 ↔ a = b) ∧
      (comparison.maxAbs = 0 ↔ a = b) ∧
      (comparison.meanAbs = 0 ↔ a = b) ∧
      (⟨0, 0⟩ ∈ comparison.exceeding ↔ a = b) ∧
      ((∀ colour ∈ (HeatMap.render map).samples, colour = HeatMap.ramp (0 : Rat)) ↔ a = b) := by
  have hscalar : (a.toScalar : Grid Rat).shape = (b.toScalar : Grid Rat).shape := h
  obtain ⟨map, hmap, -, hlength, hmse⟩ := DifferenceMap.between_of_shape hscalar
  have hpos : 0 < map.differences.length := by
    rw [hlength, Grid.size_samples]
    exact a.size_samples ▸ hsome
  have hmeasures := Comparison.measures_ofMap map thresholds
  have hshare : ⟨0, 0⟩ ∈ (Comparison.ofMap map thresholds).exceeding ↔
      (Comparison.share (map.differences.map fun d => |d|) 0).percent = 0 := by
    rw [hmeasures.exceeding_eq, List.mem_map]
    constructor
    · rintro ⟨threshold, -, hshare⟩
      obtain rfl : threshold = 0 := congrArg Share.threshold hshare
      exact congrArg Share.percent hshare
    · intro hpercent
      exact ⟨0, hzero, congrArg (Share.mk 0) hpercent⟩
  have herror : Statistics.mean (map.differences.map fun d => d * d) = 0 ↔ map.Vanishes :=
    DifferenceMap.mean_map_eq_zero_iff hpos mul_self_nonneg fun _ => mul_self_eq_zero
  rw [← DifferenceMap.vanishes_iff_eq hmap h]
  refine ⟨map, _, _, _, ⟨hmap, Comparison.between_of_map hmap thresholds, hmse,
    congrArg (Except.map Psnr.ofMeanSquare) hmse⟩, ?_, ?_, ?_, ?_, ?_, HeatMap.cool_everywhere_iff⟩
  · rw [Psnr.ofMeanSquare_eq_unbounded_iff]
    exact herror
  · exact herror
  · exact DifferenceMap.peak_eq_zero_iff
  · rw [hmeasures.meanAbs_eq]
    exact DifferenceMap.mean_map_eq_zero_iff hpos abs_nonneg fun _ => abs_eq_zero
  · rw [hshare]
    exact DifferenceMap.percent_eq_zero_iff hpos

/-- Two by two samples, the last one off by one against the other plane: every measure tells, and
none does against the plane itself. -/
theorem perfect_iff_eq_square :
    let a : Grid UInt8 := ⟨⟨2, 2⟩, #[0, 255, 7, 7], rfl⟩
    let b : Grid UInt8 := ⟨⟨2, 2⟩, #[0, 255, 7, 8], rfl⟩
    -- The mean squared error is a quarter, whose root comes out exact.
    let _ : Analytic Rat := ⟨Rat.sqrt, fun x => Int.log 10 x⟩
    (0 < a.samples.size ∧ a.shape = b.shape ∧ (0 : Rat) ∈ [0, 1, 5] ∧ a ≠ b) ∧
    (∃ (map : DifferenceMap Rat) (comparison : Comparison Rat),
      DifferenceMap.between a.toScalar b.toScalar = .ok map ∧
      Comparison.between a.toScalar b.toScalar [0, 1, 5] = .ok comparison ∧
      signalToNoise (a.toScalar : Grid Rat) b.toScalar ≠ .ok .unbounded ∧
      meanSquaredError (a.toScalar : Grid Rat) b.toScalar ≠ .ok 0 ∧
      comparison.maxAbs ≠ 0 ∧ comparison.meanAbs ≠ 0 ∧ ⟨0, 0⟩ ∉ comparison.exceeding ∧
      ∃ colour ∈ (HeatMap.render map).samples, colour ≠ HeatMap.ramp (0 : Rat)) ∧
    ∃ (map : DifferenceMap Rat) (comparison : Comparison Rat),
      DifferenceMap.between a.toScalar a.toScalar = .ok map ∧
      Comparison.between a.toScalar a.toScalar [0, 1, 5] = .ok comparison ∧
      signalToNoise (a.toScalar : Grid Rat) a.toScalar = .ok .unbounded ∧
      comparison.maxAbs = 0 ∧ ⟨0, 0⟩ ∈ comparison.exceeding ∧
      ∀ colour ∈ (HeatMap.render map).samples, colour = HeatMap.ramp (0 : Rat) := by
  intro a b analytic
  have hsome : 0 < a.samples.size := by decide
  have hshape : a.shape = b.shape := rfl
  have hzero : (0 : Rat) ∈ [0, 1, 5] := List.mem_cons_self
  have hne : a ≠ b := by decide
  obtain ⟨map, comparison, mse, psnr, ⟨hmap, hcompared, hmse, hratio⟩, hunbounded, herror, hmax,
    hmean, hshare, hcool⟩ := perfect_iff_eq hsome hshape hzero
  obtain ⟨map', comparison', mse', psnr', ⟨hmap', hcompared', -, hratio'⟩, hunbounded', -, hmax',
    -, hshare', hcool'⟩ := perfect_iff_eq hsome (Eq.refl a.shape) hzero
  refine ⟨⟨hsome, hshape, hzero, hne⟩, ⟨map, comparison, hmap, hcompared, ?_, ?_,
    mt hmax.mp hne, mt hmean.mp hne, mt hshare.mp hne, ?_⟩,
    map', comparison', hmap', hcompared', ?_, hmax'.mpr rfl, hshare'.mpr rfl, hcool'.mpr rfl⟩
  · rw [hratio]
    exact fun hsame => hne (hunbounded.mp (Except.ok.inj hsame))
  · rw [hmse]
    exact fun hsame => hne (herror.mp (Except.ok.inj hsame))
  · have hwarm := mt hcool.mp hne
    push Not at hwarm
    exact hwarm
  · rw [hratio', hunbounded'.mpr rfl]

end Planar
