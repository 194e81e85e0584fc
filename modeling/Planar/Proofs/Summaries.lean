import Planar.Proofs.Extremes
import Planar.Proofs.Gaps
import Planar.Proofs.Moments

/-! What holds between the figures of a plane's summary, and that they do not depend on where in the
plane the samples are. -/
namespace Planar

namespace Grid
variable {α : Type} {shape : Shape}

/-- The samples of a grid moved to other positions: what was at `σ p` is now at `p`. -/
def rearranged (g : Grid α) (h : g.shape = shape)
    (σ : Equiv.Perm (Fin shape.height × Fin shape.width)) : Grid α :=
  ofFn shape fun row col =>
    g.get ((σ (row, col)).1.cast (congrArg Shape.height h.symm))
      ((σ (row, col)).2.cast (congrArg Shape.width h.symm))

variable (σ : Equiv.Perm (Fin shape.height × Fin shape.width))

theorem rearranged_ofFn (f : Fin shape.height → Fin shape.width → α)
    (h : (ofFn shape f).shape = shape) : (ofFn shape f).rearranged h σ =
      ofFn shape fun row col => f (σ (row, col)).1 (σ (row, col)).2 := by
  simp only [rearranged, funext_get_ofFn]
  rfl

/-- A permutation goes through all positions, in another order. -/
theorem map_positions_perm : ((positions shape).map σ).Perm (positions shape) := by
  have hnodup : (positions shape).Nodup := by
    apply List.Nodup.of_map flatIndex
    rw [map_flatIndex_positions]
    exact List.nodup_range
  rw [List.perm_ext_iff_of_nodup (hnodup.map σ.injective) hnodup]
  intro p
  refine ⟨fun _ => mem_positions p, fun _ => ?_⟩
  exact List.mem_map.mpr ⟨σ.symm p, mem_positions _, σ.apply_symm_apply p⟩

theorem samples_rearranged_perm (g : Grid α) (h : g.shape = shape) :
    (g.rearranged h σ).samples.toList.Perm g.samples.toList := by
  obtain ⟨own, f, rfl⟩ := g.exists_ofFn
  have hown : own = shape := h
  subst hown
  have hperm := (map_positions_perm σ).map fun p => f p.1 p.2
  rw [List.map_map] at hperm
  rw [rearranged_ofFn, toList_ofFn, toList_ofFn]
  exact hperm

/-- Positions that move together keep their gaps. -/
theorem gaps_rearranged_perm {a b : Grid Rat} (ha : a.shape = shape) (hb : b.shape = shape) :
    ((a.rearranged ha σ).gaps (b.rearranged hb σ) rfl).Perm (a.gaps b (ha.trans hb.symm)) := by
  obtain ⟨own, f, g, rfl, rfl⟩ := exists_ofFn_of_shape (ha.trans hb.symm)
  have hown : own = shape := ha
  subst hown
  have hperm := (map_positions_perm σ).map fun p => |f p.1 p.2 - g p.1 p.2|
  rw [List.map_map] at hperm
  simp only [rearranged_ofFn, gaps_ofFn]
  exact hperm

end Grid

section
variable {grid baseline : Grid Rat} {values : List Rat} {shape : Shape}

theorem meanSquaredError_rearranged (hb : baseline.shape = shape) (hg : grid.shape = shape)
    (σ : Equiv.Perm (Fin shape.height × Fin shape.width)) :
    meanSquaredError (baseline.rearranged hb σ) (grid.rearranged hg σ) =
      meanSquaredError baseline grid := by
  have hshape : (baseline.rearranged hb σ).shape = (grid.rearranged hg σ).shape := rfl
  have hperm := (Grid.gaps_rearranged_perm σ hb hg).map fun d => d * d
  rw [meanSquaredError_eq hshape, meanSquaredError_eq (hb.trans hg.symm),
    Statistics.mean_perm hperm]

namespace Summary

/-- The figures of a summary of some values fit together. -/
structure Consistent (summary : Summary Rat) (values : List Rat) : Prop where
  min_mem : summary.min ∈ values
  max_mem : summary.max ∈ values
  bounds : ∀ v ∈ values, summary.min ≤ v ∧ v ≤ summary.max
  median_mem : summary.median ∈ Set.Icc summary.min summary.max
  mean_mem : summary.mean ∈ Set.Icc summary.min summary.max
  variance_le : Statistics.variance values ≤
    (summary.max - summary.mean) * (summary.mean - summary.min)
  le_sq_range : (summary.max - summary.mean) * (summary.mean - summary.min) ≤
    (summary.max - summary.min) ^ 2 / 4
  variance_eq_zero : Statistics.variance values = 0 ↔ ∀ v ∈ values, ∀ w ∈ values, v = w

theorem consistent_of_figures {summary : Summary Rat} (hsome : 0 < values.length)
    (hmin : summary.min = Statistics.minimum values)
    (hmax : summary.max = Statistics.maximum values)
    (hmean : summary.mean = Statistics.mean values)
    (hmedian : summary.median = Statistics.median values) : summary.Consistent values := by
  obtain ⟨hleast, hlower⟩ := Statistics.isLeast_minimum hsome
  obtain ⟨hgreatest, hupper⟩ := Statistics.isGreatest_maximum hsome
  rw [← hmin] at hleast hlower
  rw [← hmax] at hgreatest hupper
  have hbounds : ∀ v ∈ values, summary.min ≤ v ∧ v ≤ summary.max :=
    fun v hv => ⟨hlower hv, hupper hv⟩
  constructor
  · exact hleast
  · exact hgreatest
  · exact hbounds
  · rw [hmedian]
    exact Statistics.median_mem_Icc hsome hbounds
  · rw [hmean]
    exact ⟨Statistics.le_mean hsome fun v hv => (hbounds v hv).1,
      Statistics.mean_le hsome fun v hv => (hbounds v hv).2⟩
  · rw [hmean]
    exact Statistics.variance_le hsome hbounds
  · -- a product is at most the square of half its factors' sum
    have hhalves := sq_nonneg (summary.max + summary.min - 2 * summary.mean)
    linarith
  · rw [Statistics.variance_eq_zero_iff hsome]
    constructor
    · intro hall v hv w hw
      rw [hall v hv, hall w hw]
    · intro hall v hv
      exact le_antisymm (Statistics.le_mean hsome fun w hw => (hall v hv w hw).le)
        (Statistics.mean_le hsome fun w hw => (hall w hw v hv).le)

variable [Analytic Rat]

theorem of_of_shape (h : grid.shape = baseline.shape) : ∃ psnr, of grid baseline = .ok
    { shape := grid.shape
      min := Statistics.minimum grid.samples.toList
      max := Statistics.maximum grid.samples.toList
      mean := Statistics.mean grid.samples.toList
      median := Statistics.median grid.samples.toList
      stdDev := sqrt (Statistics.variance grid.samples.toList)
      psnr } := by
  have hratio : signalToNoise baseline grid = .ok (Psnr.ofMeanSquare _) :=
    congrArg (Except.map Psnr.ofMeanSquare) (meanSquaredError_eq h.symm)
  exact ⟨_, bind_eq_ok.mpr ⟨_, hratio, rfl⟩⟩

/-- Samples that move together with those of the baseline leave every figure as it is. -/
theorem of_rearranged (h : grid.shape = baseline.shape)
    (σ : Equiv.Perm (Fin grid.shape.height × Fin grid.shape.width)) :
    of (grid.rearranged rfl σ) (baseline.rearranged h.symm σ) = of grid baseline := by
  have hperm := Grid.samples_rearranged_perm σ grid rfl
  have hratio : signalToNoise (baseline.rearranged h.symm σ) (grid.rearranged rfl σ) =
      signalToNoise baseline grid :=
    congrArg (Except.map Psnr.ofMeanSquare) (meanSquaredError_rearranged h.symm rfl σ)
  have hshape : (grid.rearranged rfl σ).shape = grid.shape := rfl
  simp only [of, hratio, hshape, Statistics.stdDev, Statistics.minimum_perm hperm,
    Statistics.maximum_perm hperm, Statistics.mean_perm hperm, Statistics.median_perm hperm,
    Statistics.variance_perm hperm]

end Summary

end

/-- A plane with samples and a baseline of its shape have a summary of which the figures fit
together, and which stays the same, the variance under its deviation included, when one permutation
moves the samples of both. -/
theorem summary_consistent [Analytic Rat] {grid baseline : Grid Rat}
    (hsome : 0 < grid.samples.size) (h : grid.shape = baseline.shape) :
    ∃ summary, Summary.of grid baseline = .ok summary ∧
      summary.stdDev = sqrt (Statistics.variance grid.samples.toList) ∧
      summary.Consistent grid.samples.toList ∧
      ∀ σ : Equiv.Perm (Fin grid.height × Fin grid.width),
        Summary.of (grid.rearranged rfl σ) (baseline.rearranged h.symm σ) = .ok summary ∧
        Statistics.variance (grid.rearranged rfl σ).samples.toList =
          Statistics.variance grid.samples.toList := by
  obtain ⟨psnr, hsummary⟩ := Summary.of_of_shape h
  have hlength : 0 < grid.samples.toList.length := by
    rwa [Array.length_toList]
  refine ⟨_, hsummary, rfl, Summary.consistent_of_figures hlength rfl rfl rfl rfl, ?_⟩
  intro σ
  rw [Summary.of_rearranged h σ]
  exact ⟨hsummary, Statistics.variance_perm (Grid.samples_rearranged_perm σ grid rfl)⟩

/-- Two by two samples with the deviation five, and the same with their first and last exchanged. -/
theorem summary_consistent_square :
    let grid : Grid Rat := ⟨⟨2, 2⟩, #[0, 6, 8, 14], rfl⟩
    let baseline : Grid Rat := ⟨⟨2, 2⟩, #[0, 6, 8, 12], rfl⟩
    -- Whole roots and powers of ten come out exact.
    let _ : Analytic Rat := ⟨Rat.sqrt, fun x => Int.log 10 x⟩
    (0 < grid.samples.size ∧ grid.shape = baseline.shape) ∧
    ∃ summary, Summary.of grid baseline = .ok summary ∧ summary.Consistent [0, 6, 8, 14] ∧
      (summary.min = 0 ∧ summary.max = 14 ∧ summary.mean = 7 ∧ summary.stdDev = 5 ∧
        summary.psnr = .decibels 40) ∧
      Summary.of ⟨⟨2, 2⟩, #[14, 6, 8, 0], rfl⟩ ⟨⟨2, 2⟩, #[12, 6, 8, 0], rfl⟩ = .ok summary := by
  intro grid baseline analytic
  have hsome : 0 < grid.samples.size := by decide
  have hshape : grid.shape = baseline.shape := rfl
  let σ : Equiv.Perm (Fin grid.height × Fin grid.width) := Equiv.swap (0, 0) (1, 1)
  have hgrid : grid.rearranged rfl σ = ⟨⟨2, 2⟩, #[14, 6, 8, 0], rfl⟩ := by decide +kernel
  have hbaseline : baseline.rearranged (rfl : baseline.shape = grid.shape) σ =
      ⟨⟨2, 2⟩, #[12, 6, 8, 0], rfl⟩ := by decide +kernel
  have hfigures : (Summary.of grid baseline).map
      (fun s => (s.min, s.max, s.mean, s.stdDev, s.psnr)) = .ok (0, 14, 7, 5, .decibels 40) := by
    decide +kernel
  obtain ⟨summary, hsummary, -, hconsistent, hmoved⟩ := summary_consistent hsome hshape
  obtain ⟨hmoved, -⟩ := hmoved σ
  rw [hgrid, hbaseline] at hmoved
  rw [hsummary] at hfigures
  have hfigures := Except.ok.inj hfigures
  simp only [Prod.mk.injEq] at hfigures
  exact ⟨⟨hsome, hshape⟩, summary, hsummary, hconsistent, hfigures, hmoved⟩

end Planar
