import Planar.Proofs.Bars

/-! Bars and axes keep to the plot of a chart, and when the marker does. -/
namespace Planar.Chart

/-- The pixels of the plot and of its two axes. -/
def InPlot (row col : Nat) : Prop := (40 ≤ row ∧ row ≤ 360) ∧ 39 ≤ col ∧ col ≤ 759

instance (row col : Nat) : Decidable (InPlot row col) := inferInstanceAs (Decidable (_ ∧ _))

/-- Nothing is drawn around the plot. -/
def Clean (picture : Picture) : Prop :=
  ∀ row col colour, picture.pixel? row col = some colour → ¬ InPlot row col → colour = background

section
variable {α : Type} [Scalar α] {histogram : Histogram α} {area : Rect} {row col : Nat}

theorem markerRect?_eq_some (h : markerRect? histogram.lower histogram.upper = some area) :
    area.top = 40 ∧ area.bottom = 360 ∧ 40 ≤ area.left ∧ area.right = area.left + 1 := by
  unfold markerRect? at h
  split at h
  · cases h
    exact ⟨rfl, rfl, Nat.le_add_right _ _, rfl⟩
  · cases h

theorem inPlot_of_axis (h : ∃ area ∈ axisRects, area.Covers row col) : InPlot row col := by
  rw [axis_covers_iff] at h
  unfold InPlot
  omega

theorem inPlot_of_bar (h : area ∈ barRects histogram) (htop : 40 ≤ area.top)
    (hcovers : area.Covers row col) : InPlot row col := by
  obtain ⟨i, count, hcount, rfl⟩ := mem_barRects.mp h
  obtain ⟨⟨hrow, hbottom⟩, hspans⟩ := hcovers
  have hbelow : row < 360 := hbottom
  have hcol := mem_plot_of_spans hcount hspans
  unfold InPlot
  omega

theorem exists_cover (h : colourAt histogram row col ≠ background) :
    (∃ area ∈ axisRects, area.Covers row col) ∨
      (∃ area, markerRect? histogram.lower histogram.upper = some area ∧ area.Covers row col) ∨
      ∃ area ∈ barRects histogram, area.Covers row col := by
  unfold colourAt at h
  split at h
  · rename_i haxis
    exact Or.inl haxis
  · split at h
    · rename_i hmarker
      obtain ⟨area, harea, hcovers⟩ := hmarker
      exact Or.inr (Or.inl ⟨area, Option.mem_toList.mp harea, hcovers⟩)
    · split at h
      · rename_i hbar
        exact Or.inr (Or.inr hbar)
      · exact (h rfl).elim

theorem clean_render (hbars : ∀ area ∈ barRects histogram, 40 ≤ area.top)
    (hmarker : ∀ area, markerRect? histogram.lower histogram.upper = some area →
      area.left < 760 ∨ 800 ≤ area.left) : Clean (render histogram) := by
  intro row col colour hpixel hout
  rw [pixel?_render, Option.ite_none_right_eq_some, Option.some.injEq] at hpixel
  obtain ⟨hin, rfl⟩ := hpixel
  by_contra hdrawn
  obtain haxis | ⟨area, harea, hcovers⟩ | ⟨area, harea, hcovers⟩ := exists_cover hdrawn
  · exact hout (inPlot_of_axis haxis)
  · have hleft := hmarker area harea
    have hplace := markerRect?_eq_some harea
    simp only [Rect.Covers, Rect.Spans] at hcovers
    refine hout ?_
    unfold InPlot
    omega
  · exact hout (inPlot_of_bar harea (hbars area harea) hcovers)

/-- A bar that left the plot would show above it, where nothing else is drawn. -/
theorem top_of_clean (h : Clean (render histogram)) :
    ∀ area ∈ barRects histogram, 40 ≤ area.top := by
  intro area harea
  by_contra htop
  obtain ⟨i, count, hcount, rfl⟩ := mem_barRects.mp harea
  have hspans : (barOf histogram i count).Spans (barOf histogram i count).left :=
    ⟨le_rfl, (right_barOf histogram i count).1⟩
  have hcol := mem_plot_of_spans hcount hspans
  have hbottom : (barOf histogram i count).bottom = 360 := rfl
  generalize barOf histogram i count = area at *
  have haxis : ¬ ∃ area' ∈ axisRects, area'.Covers area.top area.left := by
    rw [axis_covers_iff]
    omega
  have hmarker : ¬ ∃ area' ∈ (markerRect? histogram.lower histogram.upper).toList,
      area'.Covers area.top area.left := by
    rintro ⟨area', harea', ⟨hrow, -⟩, -⟩
    have hplace := markerRect?_eq_some (Option.mem_toList.mp harea')
    omega
  have hbar : ∃ area' ∈ barRects histogram, area'.Covers area.top area.left :=
    ⟨area, harea, ⟨le_rfl, by omega⟩, hspans⟩
  have hpixel : (render histogram).pixel? area.top area.left = some bar := by
    rw [pixel?_render, if_pos (by omega), colourAt, if_neg haxis, if_neg hmarker, if_pos hbar]
  have hout : ¬ InPlot area.top area.left := fun hin => htop hin.1.1
  exact absurd (h _ _ _ hpixel hout) (by decide)

/-- The top of a marker to the right of the plot. -/
theorem pixel?_marker (hmarker : markerRect? histogram.lower histogram.upper = some area)
    (hleft : 760 ≤ area.left) (hright : area.left < 800) :
    (render histogram).pixel? 40 area.left = some marker := by
  have hplace := markerRect?_eq_some hmarker
  have haxis : ¬ ∃ area' ∈ axisRects, area'.Covers 40 area.left := by
    rw [axis_covers_iff]
    omega
  have hcovers : ∃ area' ∈ (markerRect? histogram.lower histogram.upper).toList,
      area'.Covers 40 area.left :=
    ⟨area, Option.mem_toList.mpr hmarker, ⟨by omega, by omega⟩, le_rfl, by omega⟩
  rw [pixel?_render, if_pos (by omega), colourAt, if_neg haxis, if_pos hcovers]

theorem left_of_clean (h : Clean (render histogram)) :
    ∀ area, markerRect? histogram.lower histogram.upper = some area →
      area.left < 760 ∨ 800 ≤ area.left := by
  intro area harea
  by_contra hleft
  have hout : ¬ InPlot 40 area.left := by
    unfold InPlot
    omega
  exact absurd (h _ _ _ (pixel?_marker harea (by omega) (by omega)) hout) (by decide)

/-- A chart is clean around its plot exactly if no bar is higher than the plot and the marker is not
between it and the right end of the picture. -/
theorem clean_render_iff : Clean (render histogram) ↔
    (∀ area ∈ barRects histogram, 40 ≤ area.top) ∧
    ∀ area, markerRect? histogram.lower histogram.upper = some area →
      area.left < 760 ∨ 800 ≤ area.left :=
  ⟨fun h => ⟨top_of_clean h, left_of_clean h⟩, fun h => clean_render h.1 h.2⟩

end

section
variable {histogram : Histogram Rat} {area : Rect}

theorem top_of_mem_barRects (h : area ∈ barRects histogram) : 40 ≤ area.top := by
  obtain ⟨i, count, hcount, rfl⟩ := mem_barRects.mp h
  have htall := tall_le (le_peak hcount)
  rw [top_barOf]
  omega

theorem le_roundNat_iff {n : Nat} (x : Rat) (h : 0 < n) :
    n ≤ roundNat x ↔ (n : Rat) ≤ x + 1 / 2 := by
  rw [roundNat_eq_round, round_eq, Int.floor_toNat, Nat.le_floor_iff' h.ne']

/-- The marker is where zero divides the range. -/
theorem left_marker (h : markerRect? histogram.lower histogram.upper = some area) :
    (histogram.lower < 0 ∧ 0 < histogram.upper) ∧ area.left =
      40 + roundNat (-histogram.lower / (histogram.upper - histogram.lower) * 720) := by
  unfold markerRect? at h
  split at h
  · rename_i hrange
    cases h
    have hwidth : ((plotWidth : Nat) : Rat) = 720 := by norm_num [plotWidth, shape, margin]
    exact ⟨hrange, congrArg (fun width : Rat => 40 + roundNat (-histogram.lower /
      (histogram.upper - histogram.lower) * width)) hwidth⟩
  · cases h

theorem left_marker_iff (h : markerRect? histogram.lower histogram.upper = some area) :
    (area.left < 760 ∨ 800 ≤ area.left) ↔ -histogram.lower < 1439 * histogram.upper := by
  obtain ⟨⟨hlower, hupper⟩, hleft⟩ := left_marker h
  have hspan : 0 < histogram.upper - histogram.lower := by linarith
  have hpart : -histogram.lower / (histogram.upper - histogram.lower) ≤ 1 := by
    rw [div_le_one hspan]
    linarith
  have hrange : -histogram.lower / (histogram.upper - histogram.lower) * 720 + 1 / 2 < 720 ↔
      -histogram.lower < 1439 * histogram.upper := by
    rw [← lt_sub_iff_add_lt, div_mul_eq_mul_div, div_lt_iff₀ hspan]
    constructor <;> intro hlt <;> linarith
  rw [hleft, ← hrange]
  generalize -histogram.lower / (histogram.upper - histogram.lower) = part at hpart
  have hplot : 720 ≤ roundNat (part * 720) ↔ ¬ part * 720 + 1 / 2 < 720 := by
    rw [le_roundNat_iff _ (by decide), not_lt]
    rfl
  have hpicture : ¬ 760 ≤ roundNat (part * 720) := by
    rw [le_roundNat_iff _ (by decide)]
    push_cast
    linarith
  rw [← not_iff_not, ← hplot]
  omega

end

/-- In exact arithmetic bars and axes keep to the plot, so a chart is clean around it exactly if the
marker is not on the column after it, where it is if nearly all of the range lies below zero. -/
theorem margins_clean_iff (histogram : Histogram Rat) :
    (∀ area ∈ barRects histogram ++ axisRects, ∀ row col, area.Covers row col → InPlot row col) ∧
    (Clean (render histogram) ↔ ¬ (histogram.lower < 0 ∧ 0 < histogram.upper ∧
      1439 * histogram.upper ≤ -histogram.lower)) := by
  refine ⟨?_, ?_⟩
  · intro area harea row col hcovers
    rcases List.mem_append.mp harea with hbar | haxis
    · exact inPlot_of_bar hbar (top_of_mem_barRects hbar) hcovers
    · exact inPlot_of_axis ⟨area, haxis, hcovers⟩
  · rw [clean_render_iff, and_iff_right fun area => top_of_mem_barRects]
    constructor
    · rintro hmarker ⟨hlower, hupper, hnear⟩
      have harea : markerRect? histogram.lower histogram.upper = some _ := if_pos ⟨hlower, hupper⟩
      exact not_lt.mpr hnear ((left_marker_iff harea).mp (hmarker _ harea))
    · intro hfar area harea
      obtain ⟨hlower, hupper⟩ := (left_marker harea).1
      exact (left_marker_iff harea).mpr (not_le.mp fun hnear => hfar ⟨hlower, hupper, hnear⟩)

/-- A range with zero in the middle, and its highest bar as high as the plot. -/
theorem margins_clean_iff_middle :
    let histogram : Histogram Rat := ⟨-10, 10, #[5, 0, 2]⟩
    (barOf histogram 0 5 ∈ barRects histogram ++ axisRects ∧ (barOf histogram 0 5).Covers 40 40) ∧
    ¬ (histogram.lower < 0 ∧ 0 < histogram.upper ∧ 1439 * histogram.upper ≤ -histogram.lower) ∧
    InPlot 40 40 ∧ Clean (render histogram) := by
  intro histogram
  have hbar : barOf histogram 0 5 ∈ barRects histogram :=
    mem_barRects.mpr ⟨0, 5, rfl, rfl⟩
  have hmem := List.mem_append_left axisRects hbar
  have hcovers : (barOf histogram 0 5).Covers 40 40 := by decide +kernel
  have hfar : ¬ (histogram.lower < 0 ∧ 0 < histogram.upper ∧
      1439 * histogram.upper ≤ -histogram.lower) := by decide +kernel
  obtain ⟨hplot, hclean⟩ := margins_clean_iff histogram
  exact ⟨⟨hmem, hcovers⟩, hfar, hplot _ hmem 40 40 hcovers, hclean.mpr hfar⟩

/-- All but one in two thousand of the range lies below zero: the marker is on the column after the
plot. -/
theorem marker_outside_plot :
    let histogram : Histogram Rat := ⟨-2000, 1, #[0]⟩
    (render histogram).pixel? 40 760 = some marker ∧ ¬ InPlot 40 760 ∧
      ¬ Clean (render histogram) := by
  intro histogram
  have hmarker : markerRect? histogram.lower histogram.upper = some ⟨760, 40, 761, 360⟩ := by
    decide +kernel
  have hpixel := pixel?_marker hmarker (by decide) (by decide)
  have hout : ¬ InPlot 40 760 := by decide
  exact ⟨hpixel, hout, fun hclean => absurd (hclean 40 760 marker hpixel hout) (by decide)⟩

end Planar.Chart
