import Planar.Proofs.Gaps

/-! A candidate that is nowhere further from a plane than another is no worse by any measure. -/
namespace Planar

/-- What a ratio of signal to noise relies on in a square root and a logarithm. -/
structure Analytic.Increasing [Analytic Rat] : Prop where
  sqrt_pos : ∀ x : Rat, 0 < x → 0 < sqrt x
  monotone_sqrt : MonotoneOn (sqrt : Rat → Rat) (Set.Ici 0)
  monotone_log10 : MonotoneOn (log10 : Rat → Rat) (Set.Ioi 0)

namespace Psnr

/-- Ratios in their order, the unbounded one above all others. -/
def toTop : Psnr Rat → WithTop Rat
  | .unbounded => ⊤
  | .decibels value => value

theorem toTop_ofMeanSquare_le [Analytic Rat] (hlaws : Analytic.Increasing) {x y : Rat}
    (hx : 0 ≤ x) (hxy : x ≤ y) : (ofMeanSquare y).toTop ≤ (ofMeanSquare x).toTop := by
  rcases hx.eq_or_lt with rfl | hpos
  · have hunbounded : ofMeanSquare (0 : Rat) = .unbounded := if_pos (by decide)
    rw [hunbounded]
    exact le_top
  · have hfinite : ∀ v : Rat, 0 < v →
        ofMeanSquare v = .decibels (20 * log10 (255 / sqrt v)) := fun v hv =>
      if_neg (by simpa using hv.ne')
    have hroot := hlaws.monotone_sqrt hx (hx.trans hxy) hxy
    have hroot_pos := hlaws.sqrt_pos x hpos
    have hroot_pos' := hlaws.sqrt_pos y (hpos.trans_le hxy)
    have hratio : 255 / sqrt y ≤ 255 / sqrt x :=
      div_le_div_of_nonneg_left (by norm_num) hroot_pos hroot
    have hlog := hlaws.monotone_log10 (Set.mem_Ioi.mpr (div_pos (by norm_num) hroot_pos'))
      (Set.mem_Ioi.mpr (div_pos (by norm_num) hroot_pos)) hratio
    rw [hfinite x hpos, hfinite y (hpos.trans_le hxy)]
    exact WithTop.coe_le_coe.mpr (mul_le_mul_of_nonneg_left hlog (by norm_num))

end Psnr

theorem foldl_max_le_foldl_max {xs ys : List Rat} (h : List.Forall₂ (· ≤ ·) xs ys) {s t : Rat}
    (hst : s ≤ t) : xs.foldl max s ≤ ys.foldl max t := by
  induction h generalizing s t with
  | nil => exact hst
  | cons hxy _ ih => exact ih (max_le_max hst hxy)

/-- Every measure of one comparison is at most the other's, at every threshold too. -/
structure Comparison.AtMost (near far : Comparison Rat) : Prop where
  meanAbs_le : near.meanAbs ≤ far.meanAbs
  medianAbs_le : near.medianAbs ≤ far.medianAbs
  maxAbs_le : near.maxAbs ≤ far.maxAbs
  exceeding_le : List.Forall₂ (fun s t => s.threshold = t.threshold ∧ s.percent ≤ t.percent)
    near.exceeding far.exceeding

section
variable {gaps others : List Rat}

theorem Comparison.percent_share_le (h : List.Forall₂ (· ≤ ·) gaps others) (threshold : Rat) :
    (share gaps threshold).percent ≤ (share others threshold).percent := by
  have hcount : gaps.countP (threshold < ·) ≤ others.countP (threshold < ·) := by
    apply countP_le_of_forall₂
    refine h.imp ?_
    intro d e hde hd
    exact decide_eq_true ((of_decide_eq_true hd).trans_le hde)
  have hcount' : (gaps.countP (threshold < ·) : Rat) ≤ others.countP (threshold < ·) :=
    Nat.cast_le.mpr hcount
  rw [percent_share, percent_share, h.length_eq]
  gcongr

theorem Comparison.Measures.atMost {near far : Comparison Rat} {thresholds : List Rat}
    (hnear : near.Measures gaps thresholds) (hfar : far.Measures others thresholds)
    (h : List.Forall₂ (· ≤ ·) gaps others) (hsome : 0 < gaps.length) : near.AtMost far where
  meanAbs_le := by
    rw [hnear.meanAbs_eq, hfar.meanAbs_eq]
    exact Statistics.mean_le_mean h
  medianAbs_le := by
    rw [hnear.medianAbs_eq, hfar.medianAbs_eq]
    exact Statistics.median_le_median h hsome
  maxAbs_le := by
    rw [hnear.maxAbs_eq, hfar.maxAbs_eq]
    exact foldl_max_le_foldl_max h le_rfl
  exceeding_le := by
    rw [hnear.exceeding_eq, hfar.exceeding_eq, List.forall₂_map_left_iff,
      List.forall₂_map_right_iff, List.forall₂_same]
    intro threshold _
    exact ⟨rfl, percent_share_le h threshold⟩

/-- Squares of gaps keep their order, for gaps are not negative. -/
theorem forall₂_squares (h : List.Forall₂ (fun d e => 0 ≤ d ∧ d ≤ e) gaps others) :
    List.Forall₂ (· ≤ ·) (gaps.map fun d => d * d) (others.map fun e => e * e) := by
  rw [List.forall₂_map_left_iff, List.forall₂_map_right_iff]
  exact h.imp fun d e hde => mul_self_le_mul_self hde.1 hde.2

end

/-- Of two planes compared with the same plane, the one that is nowhere further from it has the
smaller measures, the smaller error and the higher ratio of signal to noise. -/
theorem closer_no_worse [Analytic Rat] (hlaws : Analytic.Increasing) {a b c : Grid Rat}
    (hsome : 0 < a.samples.size) (hb : a.shape = b.shape) (hc : a.shape = c.shape)
    (hcloser : ∀ row col, a.gap b hb row col ≤ a.gap c hc row col) (thresholds : List Rat) :
    (∃ near far, Comparison.between a b thresholds = .ok near ∧
      Comparison.between a c thresholds = .ok far ∧ near.AtMost far ∧
      near.exceeding.map Share.threshold = thresholds) ∧
    (∃ near far, meanSquaredError a b = .ok near ∧ meanSquaredError a c = .ok far ∧ near ≤ far) ∧
    ∃ near far, signalToNoise a b = .ok near ∧ signalToNoise a c = .ok far ∧
      far.toTop ≤ near.toTop := by
  have hgaps : List.Forall₂ (fun d e => 0 ≤ d ∧ d ≤ e) (a.gaps b hb) (a.gaps c hc) := by
    rw [Grid.gaps, Grid.gaps, List.forall₂_map_left_iff, List.forall₂_map_right_iff,
      List.forall₂_same]
    intro position _
    exact ⟨abs_nonneg _, hcloser position.1 position.2⟩
  have hlength : 0 < (a.gaps b hb).length := hsome.trans_eq (Grid.length_gaps hb).symm
  obtain ⟨near, hbetween, hnear⟩ := Comparison.exists_measures hb thresholds
  obtain ⟨far, hbetween', hfar⟩ := Comparison.exists_measures hc thresholds
  have hmse := meanSquaredError_eq hb
  have hmse' := meanSquaredError_eq hc
  have hle := Statistics.mean_le_mean (forall₂_squares hgaps)
  have hnonneg : 0 ≤ Statistics.mean ((a.gaps b hb).map fun d => d * d) := by
    apply Statistics.mean_nonneg
    rw [List.forall_mem_map]
    exact fun d _ => mul_self_nonneg d
  refine ⟨⟨near, far, hbetween, hbetween', ?_, ?_⟩, ⟨_, _, hmse, hmse', hle⟩, _, _,
    congrArg (Except.map Psnr.ofMeanSquare) hmse, congrArg (Except.map Psnr.ofMeanSquare) hmse', ?_⟩
  · exact hnear.atMost hfar (hgaps.imp fun _ _ hde => hde.2) hlength
  · rw [hnear.exceeding_eq]
    exact Comparison.map_threshold_shares _ thresholds
  · exact Psnr.toTop_ofMeanSquare_le hlaws hnonneg hle

/-- Four samples of which one is off, and four that are all off: decibels fall from twenty to none,
and from above all to twenty when the nearer plane is the same one. -/
theorem closer_no_worse_square :
    let a : Grid Rat := ⟨⟨2, 2⟩, #[0, 0, 0, 0], rfl⟩
    let b : Grid Rat := ⟨⟨2, 2⟩, #[51, 0, 0, 0], rfl⟩
    let c : Grid Rat := ⟨⟨2, 2⟩, #[255, 255, 255, 255], rfl⟩
    -- Whole and half roots and powers of ten come out exact.
    let _ : Analytic Rat := ⟨fun x => (Nat.sqrt ⌈4 * x⌉₊ : Rat) / 2, fun x => Int.log 10 x⟩
    (Analytic.Increasing ∧ 0 < a.samples.size ∧ a.shape = b.shape ∧ a.shape = c.shape ∧
      (∀ row col, a.gap b rfl row col ≤ a.gap c rfl row col) ∧
      ∀ row col, a.gap a rfl row col ≤ a.gap b rfl row col) ∧
    (∃ near far, Comparison.between a b [0, 100] = .ok near ∧
      Comparison.between a c [0, 100] = .ok far ∧ near.AtMost far ∧
      near.exceeding.map Share.threshold = [0, 100]) ∧
    (signalToNoise a b = .ok (.decibels 20) ∧ signalToNoise a c = .ok (.decibels 0) ∧
      (Psnr.decibels 0).toTop ≤ (Psnr.decibels 20).toTop) ∧
    signalToNoise a a = .ok .unbounded ∧ (Psnr.decibels 20).toTop ≤ Psnr.unbounded.toTop := by
  intro a b c analytic
  have hlaws : Analytic.Increasing := by
    refine ⟨?_, ?_, ?_⟩
    · intro x hx
      have hceil : 0 < ⌈4 * x⌉₊ := Nat.ceil_pos.mpr (by linarith)
      have hroot : (0 : Rat) < Nat.sqrt ⌈4 * x⌉₊ := Nat.cast_pos.mpr (Nat.sqrt_pos.mpr hceil)
      exact half_pos hroot
    · intro x _ y _ hxy
      have hceil : ⌈4 * x⌉₊ ≤ ⌈4 * y⌉₊ := Nat.ceil_mono (by linarith)
      have hroot : (Nat.sqrt ⌈4 * x⌉₊ : Rat) ≤ Nat.sqrt ⌈4 * y⌉₊ :=
        Nat.cast_le.mpr (Nat.sqrt_le_sqrt hceil)
      exact div_le_div_of_nonneg_right hroot (by norm_num)
    · intro x hx y _ hxy
      exact Int.cast_le.mpr (Int.log_mono_right hx hxy)
  have hsome : 0 < a.samples.size := by decide
  have hb : a.shape = b.shape := rfl
  have hc : a.shape = c.shape := rfl
  have hcloser : ∀ row col, a.gap b rfl row col ≤ a.gap c rfl row col := by decide +kernel
  have hsame : ∀ row col, a.gap a rfl row col ≤ a.gap b rfl row col := by decide +kernel
  have hratio : signalToNoise a b = .ok (.decibels 20) := by decide +kernel
  have hratio' : signalToNoise a c = .ok (.decibels 0) := by decide +kernel
  have hself : signalToNoise a a = .ok .unbounded := by decide +kernel
  obtain ⟨hcompared, -, near, far, hnear, hfar, hle⟩ :=
    closer_no_worse hlaws hsome hb hc hcloser [0, 100]
  obtain ⟨-, -, near', far', hnear', hfar', hle'⟩ :=
    closer_no_worse hlaws hsome (Eq.refl a.shape) hb hsame [0, 100]
  cases hnear.symm.trans hratio
  cases hfar.symm.trans hratio'
  cases hnear'.symm.trans hself
  cases hfar'.symm.trans hratio
  exact ⟨⟨hlaws, hsome, hb, hc, hcloser, hsame⟩, hcompared, ⟨hratio, hratio', hle⟩, hself,
    hle'⟩

end Planar
