import Planar.Artifact.Chart
import Planar.Proofs.Differences
import Planar.Proofs.Exact
import Planar.Proofs.Painting

/-! What a bar chart shows in each column of its plot: the largest of the counts whose bars are
there. -/
namespace Planar.Chart

section
variable {α : Type} [Scalar α] {histogram : Histogram α} {area : Rect} {row col i j count : Nat}

/-- The bar of bin `i`, which holds `count` differences. -/
def barOf (histogram : Histogram α) (i count : Nat) : Rect :=
  barRect histogram.counts.size ((max 1 histogram.peak : Nat) : α) i count

theorem mem_barRects : area ∈ barRects histogram ↔
    ∃ i count, histogram.counts[i]? = some count ∧ barOf histogram i count = area := by
  simp only [barRects, List.mem_map, Prod.exists, List.mem_zipIdx_iff_getElem?,
    Array.getElem?_toList]
  exact ⟨fun ⟨count, i, h⟩ => ⟨i, count, h⟩, fun ⟨i, count, h⟩ => ⟨count, i, h⟩⟩

/-- The marker of no difference is in a column. -/
def Marked (histogram : Histogram α) (col : Nat) : Prop :=
  ∃ area, markerRect? histogram.lower histogram.upper = some area ∧ area.Spans col

/-- Axes are drawn over the marker, and the marker over the bars. -/
def colourAt (histogram : Histogram α) (row col : Nat) : Colour :=
  if ∃ area ∈ axisRects, area.Covers row col then axis
  else if ∃ area ∈ (markerRect? histogram.lower histogram.upper).toList,
    area.Covers row col then marker
  else if ∃ area ∈ barRects histogram, area.Covers row col then bar
  else background

theorem pixel?_render (histogram : Histogram α) : (render histogram).pixel? row col =
    if row < 400 ∧ col < 800 then some (colourAt histogram row col) else none := by
  rw [render, marks, List.foldl_append, List.foldl_append, Picture.pixel?_foldl_fill,
    Picture.pixel?_foldl_fill, Picture.pixel?_foldl_fill, Option.map_map, Option.map_map]
  by_cases hin : row < 400 ∧ col < 800
  · rw [Picture.pixel?_blank background hin.1 hin.2, if_pos hin]
    rfl
  · have hout : (Picture.blank shape background).pixel? row col = none :=
      Grid.pixel?_of_not_lt hin
    rw [hout, if_neg hin]
    rfl

theorem axis_covers_iff : (∃ area ∈ axisRects, area.Covers row col) ↔
    row = 360 ∧ 40 ≤ col ∧ col < 760 ∨ col = 39 ∧ 40 ≤ row ∧ row ≤ 360 := by
  simp [axisRects, Rect.Covers, Rect.Spans, margin, baseline, plotWidth, shape]
  omega

/-! ### Where bars stand -/

/-- Columns of the plot before bin `i`. -/
def edge (bins i : Nat) : Nat := i * 720 / bins

theorem edge_mono (bins : Nat) (h : i ≤ j) : edge bins i ≤ edge bins j :=
  Nat.div_le_div_right (Nat.mul_le_mul_right 720 h)

theorem edge_lt {bins : Nat} (h : i < bins) : edge bins i < 720 :=
  Nat.div_lt_of_lt_mul (Nat.mul_lt_mul_of_pos_right h (by decide))

theorem edge_last {bins : Nat} (h : 0 < bins) : edge bins bins = 720 :=
  Nat.mul_div_cancel_left 720 h

/-- Few bins get at least a column each. -/
theorem edge_lt_edge_succ {bins : Nat} (hsome : 0 < bins) (hfew : bins ≤ 720) :
    edge bins i < edge bins (i + 1) := by
  have hstep : i * 720 / bins + 1 = (i * 720 + bins) / bins := (Nat.add_div_right _ hsome).symm
  calc edge bins i + 1 = (i * 720 + bins) / bins := hstep
    _ ≤ edge bins (i + 1) := Nat.div_le_div_right (by omega)

/-- Many bins get at most a column each. -/
theorem edge_succ_le {bins : Nat} (hmany : 720 ≤ bins) : edge bins (i + 1) ≤ edge bins i + 1 := by
  have hstep : i * 720 / bins + 1 = (i * 720 + bins) / bins :=
    (Nat.add_div_right _ (by omega)).symm
  calc edge bins (i + 1) ≤ (i * 720 + bins) / bins := Nat.div_le_div_right (by omega)
    _ = edge bins i + 1 := hstep.symm

theorem exists_edge_eq {bins k : Nat} (hmany : 720 ≤ bins) (hk : k < 720) :
    ∃ i < bins, edge bins i = k := by
  have hlast : k * bins ≤ 719 * bins := Nat.mul_le_mul_right bins (by omega)
  refine ⟨(k * bins + 719) / 720, by omega, ?_⟩
  rw [edge, Nat.div_eq_iff (by omega)]
  have hnext : (k + 1) * bins = k * bins + bins := Nat.succ_mul k bins
  omega

theorem left_barOf : (barOf histogram i count).left = 40 + edge histogram.counts.size i := rfl

/-- A bar has a column, and none beyond the next bin's first, its own first apart. -/
theorem right_barOf (histogram : Histogram α) (i count : Nat) :
    (barOf histogram i count).left < (barOf histogram i count).right ∧
    (barOf histogram i count).right ≤
      max (40 + edge histogram.counts.size (i + 1)) (41 + edge histogram.counts.size i) := by
  have hleft : (barOf histogram i count).left = 40 + edge histogram.counts.size i := rfl
  have hright : (barOf histogram i count).right =
      max (40 + edge histogram.counts.size (i + 1)) (40 + edge histogram.counts.size i + 1) -
        if 2 < max (40 + edge histogram.counts.size (i + 1))
          (40 + edge histogram.counts.size i + 1) - (40 + edge histogram.counts.size i)
        then 1 else 0 := rfl
  rw [hleft, hright]
  split <;> omega

theorem right_barOf_le (count : Nat) (hi : i < histogram.counts.size) :
    (barOf histogram i count).right ≤ 760 := by
  have hedge := edge_lt hi
  have hnext : edge histogram.counts.size (i + 1) ≤ _ := edge_mono _ hi
  have hlast := edge_last (Nat.zero_lt_of_lt hi)
  have hright := (right_barOf histogram i count).2
  omega

theorem mem_plot_of_spans (hcount : histogram.counts[i]? = some count)
    (hspans : (barOf histogram i count).Spans col) : 40 ≤ col ∧ col < 760 := by
  have hright := right_barOf_le count (Array.getElem?_eq_some_iff.mp hcount).1
  obtain ⟨hleft, hcol⟩ := hspans
  rw [left_barOf] at hleft
  omega

/-- Few bars stand side by side, in the order of their bins. -/
theorem right_barOf_le_left (count count' : Nat) (hfew : histogram.counts.size ≤ 720)
    (hi : i < histogram.counts.size) (hij : i < j) :
    (barOf histogram i count).right ≤ (barOf histogram j count').left := by
  have hstep := edge_lt_edge_succ (i := i) (Nat.zero_lt_of_lt hi) hfew
  have hnext : edge histogram.counts.size (i + 1) ≤ _ := edge_mono _ hij
  have hright := (right_barOf histogram i count).2
  rw [left_barOf]
  omega

/-- Many bars are one column wide each. -/
theorem right_barOf_of_many (hmany : 720 ≤ histogram.counts.size) :
    (barOf histogram i count).right = (barOf histogram i count).left + 1 := by
  have hstep := edge_succ_le (i := i) hmany
  obtain ⟨hsome, hright⟩ := right_barOf histogram i count
  rw [left_barOf] at hsome ⊢
  omega

/-! ### What is seen of them -/

theorem pixel?_eq_bar_iff (hleft : 40 ≤ col) (hright : col < 760)
    (hmarked : ¬ Marked histogram col) : (render histogram).pixel? row col = some bar ↔ ∃ i count,
      histogram.counts[i]? = some count ∧ (barOf histogram i count).Covers row col := by
  have hmarker : ¬ ∃ area ∈ (markerRect? histogram.lower histogram.upper).toList,
      area.Covers row col := by
    rintro ⟨area, harea, hcovers⟩
    exact hmarked ⟨area, Option.mem_toList.mp harea, hcovers.2⟩
  have hbars : (∃ area ∈ barRects histogram, area.Covers row col) ↔ ∃ i count,
      histogram.counts[i]? = some count ∧ (barOf histogram i count).Covers row col := by
    constructor
    · rintro ⟨area, harea, hcovers⟩
      obtain ⟨i, count, hcount, rfl⟩ := mem_barRects.mp harea
      exact ⟨i, count, hcount, hcovers⟩
    · rintro ⟨i, count, hcount, hcovers⟩
      exact ⟨_, mem_barRects.mpr ⟨i, count, hcount, rfl⟩, hcovers⟩
  rw [← hbars, pixel?_render, Option.ite_none_right_eq_some, Option.some.injEq, colourAt,
    if_neg hmarker]
  constructor
  · rintro ⟨-, hcolour⟩
    by_contra hnone
    rw [if_neg hnone] at hcolour
    split at hcolour <;> exact absurd hcolour (by decide)
  · intro hcovers
    -- A bar ends above the axis below it and starts to the right of the other one.
    obtain ⟨i, count, -, ⟨-, hbottom⟩, -⟩ := hbars.mp hcovers
    have habove : row < 360 := hbottom
    have haxis : ¬ ∃ area ∈ axisRects, area.Covers row col := by
      rw [axis_covers_iff]
      omega
    rw [if_neg haxis, if_pos hcovers]
    exact ⟨by omega, rfl⟩

end

section
variable {histogram : Histogram Rat} {row col i count count' : Nat}

/-- How many rows a count gets: its part of the plot's 320, rounded. -/
def tall (histogram : Histogram Rat) (count : Nat) : Nat :=
  roundNat (320 * (count : Rat) / ((max 1 histogram.peak : Nat) : Rat))

theorem tall_mono (histogram : Histogram Rat) (h : count ≤ count') :
    tall histogram count ≤ tall histogram count' := by
  rw [tall, tall, roundNat_eq_round, roundNat_eq_round]
  refine Int.toNat_le_toNat (round_le_round ?_)
  have hcount : (count : Rat) ≤ count' := Nat.cast_le.mpr h
  gcongr

theorem tall_peak (hsome : 0 < histogram.peak) : tall histogram histogram.peak = 320 := by
  have hpeak : max 1 histogram.peak = histogram.peak := Nat.max_eq_right hsome
  have hne : (histogram.peak : Rat) ≠ 0 := Nat.cast_ne_zero.mpr hsome.ne'
  rw [tall, hpeak, mul_div_cancel_right₀ _ hne]
  exact roundNat_natCast 320

theorem tall_le (h : count ≤ histogram.peak) : tall histogram count ≤ 320 := by
  rcases Nat.eq_zero_or_pos histogram.peak with hnone | hsome
  · obtain rfl : count = 0 := by omega
    have hzero : tall histogram 0 = 0 := by
      rw [tall, Nat.cast_zero, mul_zero, zero_div]
      exact roundNat_natCast 0
    omega
  · exact (tall_mono histogram h).trans_eq (tall_peak hsome)

theorem top_barOf : (barOf histogram i count).top = 360 - tall histogram count := by
  have hpart : (count : Rat) / ((max 1 histogram.peak : Nat) : Rat) * ((plotHeight : Nat) : Rat) =
      320 * (count : Rat) / ((max 1 histogram.peak : Nat) : Rat) := by
    have hheight : ((plotHeight : Nat) : Rat) = 320 := by norm_num [plotHeight, shape, margin]
    rw [hheight]
    ring
  rw [tall, ← hpart]
  rfl

theorem peak_eq_foldl_max (histogram : Histogram Rat) :
    histogram.peak = histogram.counts.toList.foldl max 0 := by
  rw [Histogram.peak, ← Array.foldl_toList]

theorem le_peak (h : histogram.counts[i]? = some count) : count ≤ histogram.peak := by
  rw [peak_eq_foldl_max]
  refine (foldl_max_le_iff.mp le_rfl).2 count ?_
  exact Array.mem_toList_iff.mpr (Array.mem_of_getElem? h)

theorem isGreatest_peak (hsome : 0 < histogram.counts.size) :
    IsGreatest {count | count ∈ histogram.counts} histogram.peak := by
  have hne : histogram.counts.toList ≠ [] := List.ne_nil_of_length_pos hsome
  have hgreatest := isGreatest_foldl_max hne fun count _ => Nat.zero_le count
  simpa only [peak_eq_foldl_max, Array.mem_toList_iff] using hgreatest

/-- Some bin with a count has its bar in a column. -/
def Shows (histogram : Histogram Rat) (col count : Nat) : Prop :=
  ∃ i, histogram.counts[i]? = some count ∧ (barOf histogram i count).Spans col

/-- What is coloured as a bar in a column is so many pixels, one above the other down to the last
row of the plot. -/
def Run (histogram : Histogram Rat) (col length : Nat) : Prop :=
  ∀ row, (render histogram).pixel? row col = some bar ↔ 360 ≤ row + length ∧ row < 360

theorem pixel?_eq_bar_iff_shows (hleft : 40 ≤ col) (hright : col < 760)
    (hmarked : ¬ Marked histogram col) : (render histogram).pixel? row col = some bar ↔
      ∃ count, Shows histogram col count ∧ 360 ≤ row + tall histogram count ∧ row < 360 := by
  have hcovers : ∀ i count, (barOf histogram i count).Covers row col ↔
      (barOf histogram i count).Spans col ∧ 360 ≤ row + tall histogram count ∧ row < 360 := by
    intro i count
    have hbottom : (barOf histogram i count).bottom = 360 := rfl
    rw [Rect.Covers, top_barOf, hbottom, and_comm]
    refine and_congr_right fun _ => ?_
    omega
  simp only [pixel?_eq_bar_iff hleft hright hmarked, hcovers]
  constructor
  · rintro ⟨i, count, hcount, hspans, hrow⟩
    exact ⟨count, ⟨i, hcount, hspans⟩, hrow⟩
  · rintro ⟨count, ⟨i, hcount, hspans⟩, hrow⟩
    exact ⟨i, count, hcount, hspans, hrow⟩

/-- The largest count hides the others behind it. -/
theorem run_of_isGreatest (hleft : 40 ≤ col) (hright : col < 760)
    (hmarked : ¬ Marked histogram col) (h : IsGreatest {count | Shows histogram col count} count) :
    Run histogram col (tall histogram count) := by
  intro row
  rw [pixel?_eq_bar_iff_shows hleft hright hmarked]
  constructor
  · rintro ⟨count', hshows, hrow, hbottom⟩
    have hle := tall_mono histogram (h.2 hshows)
    exact ⟨by omega, hbottom⟩
  · exact fun hrow => ⟨count, h.1, hrow⟩

theorem run_of_not_shows (hleft : 40 ≤ col) (hright : col < 760)
    (hmarked : ¬ Marked histogram col) (h : ∀ count, ¬ Shows histogram col count) :
    Run histogram col 0 := by
  intro row
  rw [pixel?_eq_bar_iff_shows hleft hright hmarked]
  constructor
  · rintro ⟨count, hshows, -⟩
    exact (h count hshows).elim
  · omega

theorem exists_run (hleft : 40 ≤ col) (hright : col < 760) (hmarked : ¬ Marked histogram col) :
    ∃ length ≤ 320, Run histogram col length ∧
      ((∃ count, IsGreatest {count | Shows histogram col count} count ∧
          length = tall histogram count) ∨
        (∀ count, ¬ Shows histogram col count) ∧ length = 0) := by
  by_cases hnone : ∀ count, ¬ Shows histogram col count
  · exact ⟨0, by decide, run_of_not_shows hleft hright hmarked hnone, Or.inr ⟨hnone, rfl⟩⟩
  · push Not at hnone
    have hbound : BddAbove {count | Shows histogram col count} := by
      refine ⟨histogram.peak, ?_⟩
      rintro count ⟨i, hcount, -⟩
      exact le_peak hcount
    have hgreatest : IsGreatest {count | Shows histogram col count} _ :=
      ⟨Nat.sSup_mem hnone hbound, fun _ hshows => le_csSup hbound hshows⟩
    obtain ⟨i, hcount, -⟩ := hgreatest.1
    exact ⟨_, tall_le (le_peak hcount), run_of_isGreatest hleft hright hmarked hgreatest,
      Or.inl ⟨_, hgreatest, rfl⟩⟩

/-- Few bars do not hide each other. -/
theorem run_of_few (hfew : histogram.counts.size ≤ 720) (hcount : histogram.counts[i]? = some count)
    (hspans : (barOf histogram i count).Spans col) (hmarked : ¬ Marked histogram col) :
    Run histogram col (tall histogram count) := by
  obtain ⟨hleft, hright⟩ := mem_plot_of_spans hcount hspans
  refine run_of_isGreatest hleft hright hmarked ⟨⟨i, hcount, hspans⟩, ?_⟩
  rintro count' ⟨j, hcount', hspans'⟩
  have hi := (Array.getElem?_eq_some_iff.mp hcount).1
  have hj := (Array.getElem?_eq_some_iff.mp hcount').1
  rcases Nat.lt_trichotomy i j with hij | rfl | hji
  · have happart := right_barOf_le_left count count' hfew hi hij
    exact absurd (hspans.2.trans_le happart) (not_lt.mpr hspans'.1)
  · exact (Option.some.inj (hcount'.symm.trans hcount)).le
  · have happart := right_barOf_le_left count' count hfew hj hji
    exact absurd (hspans'.2.trans_le happart) (not_lt.mpr hspans.1)

theorem visible_of_few (hfew : histogram.counts.size ≤ 720)
    (hcount : histogram.counts[i]? = some count) (htall : 0 < tall histogram count) :
    (∃ row col, (barOf histogram i count).Spans col ∧
        (render histogram).pixel? row col = some bar) ∨
      ∀ col, (barOf histogram i count).Spans col → Marked histogram col := by
  by_cases hhidden : ∀ col, (barOf histogram i count).Spans col → Marked histogram col
  · exact Or.inr hhidden
  · push Not at hhidden
    obtain ⟨col, hspans, hmarked⟩ := hhidden
    exact Or.inl ⟨359, col, hspans, (run_of_few hfew hcount hspans hmarked 359).mpr (by omega)⟩

/-- Nothing stands before the bar of the peak, and it takes all rows. -/
theorem run_of_peak (hpeak : 0 < histogram.peak)
    (hcount : histogram.counts[i]? = some histogram.peak)
    (hspans : (barOf histogram i histogram.peak).Spans col) (hmarked : ¬ Marked histogram col) :
    Run histogram col 320 := by
  obtain ⟨hleft, hright⟩ := mem_plot_of_spans hcount hspans
  rw [← tall_peak hpeak]
  refine run_of_isGreatest hleft hright hmarked ⟨⟨i, hcount, hspans⟩, ?_⟩
  rintro count ⟨j, hcount', -⟩
  exact le_peak hcount'

/-- Many bars leave no column of the plot out. -/
theorem exists_spans_of_many (hmany : 720 ≤ histogram.counts.size) (hleft : 40 ≤ col)
    (hright : col < 760) :
    ∃ i count, histogram.counts[i]? = some count ∧ (barOf histogram i count).Spans col := by
  obtain ⟨i, hi, hedge⟩ := exists_edge_eq (k := col - 40) hmany (by omega)
  refine ⟨i, histogram.counts[i], Array.getElem?_eq_getElem hi, ?_⟩
  rw [Rect.Spans, right_barOf_of_many hmany, left_barOf, hedge]
  omega

/-- A number that fits into a word of 32 bits. -/
def word? (n : Nat) : Option Nat := if n < 2 ^ 32 then some n else none

/-- A difference that is not below zero. -/
def difference? (m n : Nat) : Option Nat := if n ≤ m then some (m - n) else none

/-- The bar of a bin worked out in words of 32 bits, none if a number on the way does not fit into
one or something is subtracted from less. -/
def barOf? (histogram : Histogram Rat) (i count : Nat) : Option Rect := do
  let plotWidth ← difference? shape.width (2 * margin)
  let baseline ← difference? shape.height margin
  let bins ← word? histogram.counts.size
  let before ← word? (i * plotWidth)
  let after ← word? ((i + 1) * plotWidth)
  let left ← word? (margin + before / bins)
  let right ← word? (max (margin + after / bins) (left + 1))
  let tall ← word? (tall histogram count)
  let width ← difference? right left
  let top ← difference? baseline tall
  let right ← difference? right (if 2 < width then 1 else 0)
  return ⟨left, top, right, baseline⟩

theorem word?_of_lt {n : Nat} (h : n < 2 ^ 32) : word? n = some n := if_pos h

theorem difference?_of_le {m n : Nat} (h : n ≤ m) : difference? m n = some (m - n) := if_pos h

/-- No number on the way to a bar leaves its word. -/
theorem barOf?_eq_some (hword : histogram.counts.size * 720 < 2 ^ 32)
    (hcount : histogram.counts[i]? = some count) :
    barOf? histogram i count = some (barOf histogram i count) := by
  have hi := (Array.getElem?_eq_some_iff.mp hcount).1
  have hafter : (i + 1) * 720 < 2 ^ 32 := (Nat.mul_le_mul_right 720 hi).trans_lt hword
  have hbefore : i * 720 < 2 ^ 32 := (Nat.mul_le_mul_right 720 (Nat.le_succ i)).trans_lt hafter
  have hleft : i * 720 / histogram.counts.size < 720 := edge_lt hi
  have hright : (i + 1) * 720 / histogram.counts.size ≤ 720 :=
    (edge_mono histogram.counts.size hi).trans_eq (edge_last (Nat.zero_lt_of_lt hi))
  have htall := tall_le (le_peak hcount)
  have hgap : ∀ left right : Nat, left < right → (if 2 < right - left then 1 else 0) ≤ right := by
    intro left right hlt
    split <;> omega
  have hbar : barOf histogram i count = ⟨(barOf histogram i count).left,
      (barOf histogram i count).top, (barOf histogram i count).right, 360⟩ := rfl
  have hwidth : difference? shape.width (2 * margin) = some 720 := rfl
  have hbaseline : difference? shape.height margin = some 360 := rfl
  have hmargin : margin = 40 := rfl
  rw [hbar, top_barOf, barOf?, hwidth, hbaseline, hmargin]
  simp only [Option.bind_eq_bind, Option.bind_some]
  rw [word?_of_lt (by omega), Option.bind_some, word?_of_lt hbefore, Option.bind_some,
    word?_of_lt hafter, Option.bind_some, word?_of_lt (by omega), Option.bind_some,
    word?_of_lt (by omega), Option.bind_some, word?_of_lt (by omega), Option.bind_some,
    difference?_of_le (Nat.le_of_succ_le (Nat.le_max_right _ _)), Option.bind_some,
    difference?_of_le (htall.trans (by decide)), Option.bind_some,
    difference?_of_le (hgap _ _ (Nat.le_max_right _ _))]
  rfl

end

/-- How the bars of a histogram show its counts, in exact arithmetic. Nothing leaves its word on the
way. A column of the plot that the marker is not in shows the largest of the counts whose bars are
there, in proportion to the peak. Bars of up to 720 bins stand side by side, more bars leave no
column out, and the peak reaches the top. -/
theorem bars_show_counts (histogram : Histogram Rat) (hsome : 0 < histogram.counts.size)
    (hword : histogram.counts.size * 720 < 2 ^ 32) :
    IsGreatest {count | count ∈ histogram.counts} histogram.peak ∧
    (1 ≤ margin ∧ 2 * margin ≤ shape.height ∧ ∀ i count, histogram.counts[i]? = some count →
      barOf? histogram i count = some (barOf histogram i count)) ∧
    (∀ col, 40 ≤ col → col < 760 → ¬ Marked histogram col →
      ∃ length ≤ 320, Run histogram col length ∧
        ((∃ count, IsGreatest {count | Shows histogram col count} count ∧
          length = tall histogram count) ∨
        (∀ count, ¬ Shows histogram col count) ∧ length = 0)) ∧
    (histogram.counts.size ≤ 720 → ∀ i count, histogram.counts[i]? = some count →
      (barOf histogram i count).left < (barOf histogram i count).right ∧
      (∀ j count', i < j → histogram.counts[j]? = some count' →
        (barOf histogram i count).right ≤ (barOf histogram j count').left) ∧
      (∀ col, (barOf histogram i count).Spans col → ¬ Marked histogram col →
        Run histogram col (tall histogram count)) ∧
      (0 < tall histogram count →
        (∃ row col, (barOf histogram i count).Spans col ∧
            (render histogram).pixel? row col = some bar) ∨
          ∀ col, (barOf histogram i count).Spans col → Marked histogram col)) ∧
    (720 ≤ histogram.counts.size →
      (∀ i count, histogram.counts[i]? = some count →
        (barOf histogram i count).right = (barOf histogram i count).left + 1) ∧
      ∀ col, 40 ≤ col → col < 760 → ∃ count, Shows histogram col count) ∧
    (0 < histogram.peak → ∀ i, histogram.counts[i]? = some histogram.peak →
      (barOf histogram i histogram.peak).top = 40 ∧
      ∀ col, (barOf histogram i histogram.peak).Spans col → ¬ Marked histogram col →
        Run histogram col 320) := by
  refine ⟨isGreatest_peak hsome, ⟨by decide, by decide, ?_⟩, ?_, ?_, ?_, ?_⟩
  · intro i count hcount
    exact barOf?_eq_some hword hcount
  · intro col hleft hright hmarked
    exact exists_run hleft hright hmarked
  · intro hfew i count hcount
    have hi := (Array.getElem?_eq_some_iff.mp hcount).1
    exact ⟨(right_barOf histogram i count).1,
      fun j count' hij _ => right_barOf_le_left count count' hfew hi hij,
      fun col hspans hmarked => run_of_few hfew hcount hspans hmarked,
      visible_of_few hfew hcount⟩
  · intro hmany
    refine ⟨fun i count _ => right_barOf_of_many hmany, ?_⟩
    intro col hleft hright
    obtain ⟨i, count, hcount, hspans⟩ := exists_spans_of_many hmany hleft hright
    exact ⟨count, i, hcount, hspans⟩
  · intro hpeak i hcount
    refine ⟨?_, fun col hspans hmarked => run_of_peak hpeak hcount hspans hmarked⟩
    rw [top_barOf, tall_peak hpeak]

/-- Four bins with the marker on the third bar, and twice as many bins as columns. -/
theorem bars_show_counts_four :
    let few : Histogram Rat := ⟨-2, 2, #[1, 0, 3, 2]⟩
    let many : Histogram Rat := ⟨0, 2, Array.replicate 1440 5⟩
    (0 < few.counts.size ∧ few.counts.size * 720 < 2 ^ 32 ∧ few.counts.size ≤ 720 ∧
      few.counts[0]? = some 1 ∧ few.counts[2]? = some few.peak ∧ 0 < few.peak ∧
      (barOf few 0 1).Spans 100 ∧ (barOf few 2 few.peak).Spans 401 ∧
      ¬ Marked few 100 ∧ ¬ Marked few 219 ∧ ¬ Marked few 401) ∧
    (0 < many.counts.size ∧ many.counts.size * 720 < 2 ^ 32 ∧ 720 ≤ many.counts.size) ∧
    (barOf? few 0 1 = some (barOf few 0 1) ∧ (∃ length ≤ 320, Run few 219 length) ∧
      Run few 100 107 ∧ Run few 401 320 ∧ (barOf few 0 1).right ≤ (barOf few 2 3).left) ∧
    ∃ count, Shows many 759 count := by
  intro few many
  have hfirst : few.counts[0]? = some 1 := rfl
  have hthird : few.counts[2]? = some few.peak := by decide
  have hpeak : 0 < few.peak := by decide
  have htall : tall few 1 = 107 := by decide +kernel
  have hbar : (barOf few 0 1).Spans 100 := by decide +kernel
  have hbar' : (barOf few 2 few.peak).Spans 401 := by decide +kernel
  have hmarker : markerRect? few.lower few.upper = some ⟨400, 40, 401, 360⟩ := by decide +kernel
  have hmarked : ∀ col, col ≠ 400 → ¬ Marked few col := by
    rintro col hcol ⟨area, harea, hleft, hright⟩
    obtain rfl := Option.some.inj (hmarker.symm.trans harea)
    exact hcol (le_antisymm (Nat.le_of_lt_succ hright) hleft)
  have hmany : many.counts.size = 1440 := Array.size_replicate
  obtain ⟨-, ⟨-, -, hwords⟩, hruns, hside, -, htop⟩ := bars_show_counts few (by decide) (by decide)
  obtain ⟨-, -, -, -, hcovered, -⟩ := bars_show_counts many (by omega) (by omega)
  obtain ⟨-, happart, hrun, -⟩ := hside (by decide) 0 1 hfirst
  obtain ⟨length, hshort, hrun', -⟩ := hruns 219 (by decide) (by decide) (hmarked 219 (by decide))
  refine ⟨⟨by decide, by decide, by decide, hfirst, hthird, hpeak, hbar, hbar',
    hmarked 100 (by decide), hmarked 219 (by decide), hmarked 401 (by decide)⟩,
    ⟨by omega, by omega, by omega⟩, ⟨hwords 0 1 hfirst, ⟨length, hshort, hrun'⟩, ?_, ?_, ?_⟩, ?_⟩
  · exact htall ▸ hrun 100 hbar (hmarked 100 (by decide))
  · exact (htop hpeak 2 hthird).2 401 hbar' (hmarked 401 (by decide))
  · exact happart 2 3 (by decide) rfl
  · exact (hcovered (by omega)).2 759 (by decide) (by decide)

end Planar.Chart
