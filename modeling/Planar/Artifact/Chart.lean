import Planar.Difference
import Planar.Picture

/-! Bar charts of difference histograms. -/
namespace Planar.Chart
variable {α : Type} [Scalar α]

def shape : Shape := ⟨800, 400⟩

def margin : Nat := 40

def plotWidth : Nat := shape.width - 2 * margin

def plotHeight : Nat := shape.height - 2 * margin

/-- The row below the bars. -/
def baseline : Nat := shape.height - margin

def background : Colour := ⟨255, 255, 255⟩

def axis : Colour := ⟨64, 64, 64⟩

def bar : Colour := ⟨70, 130, 180⟩

def marker : Colour := ⟨200, 40, 40⟩

/-- The bar of bin `i`. Bars more than two columns wide leave the last one free. -/
@[specialize] def barRect (bins : Nat) (peak : α) (i count : Nat) : Rect :=
  let left := margin + i * plotWidth / bins
  let right := max (margin + (i + 1) * plotWidth / bins) (left + 1)
  let gap := if 2 < right - left then 1 else 0
  let tall := roundNat ((count : α) / peak * (plotHeight : α))
  ⟨left, baseline - tall, right - gap, baseline⟩

@[specialize] def barRects (histogram : Histogram α) : List Rect :=
  let peak : α := (max 1 histogram.peak : Nat)
  histogram.counts.toList.zipIdx.map fun (count, i) =>
    barRect histogram.counts.size peak i count

/-- The column that marks no difference, if it lies inside the range. -/
@[specialize] def markerRect? (lower upper : α) : Option Rect :=
  if lower < ((0 : Nat) : α) ∧ ((0 : Nat) : α) < upper then
    let left := margin + roundNat (-lower / (upper - lower) * (plotWidth : α))
    some ⟨left, margin, left + 1, baseline⟩
  else none

def axisRects : List Rect :=
  [⟨margin, baseline, margin + plotWidth, baseline + 1⟩, ⟨margin - 1, margin, margin, baseline + 1⟩]

/-- Everything that is drawn, in order. -/
@[specialize] def marks (histogram : Histogram α) : List (Rect × Colour) :=
  (barRects histogram).map (·, bar) ++
    (markerRect? histogram.lower histogram.upper).toList.map (·, marker) ++
    axisRects.map (·, axis)

@[specialize] def render (histogram : Histogram α) : Picture :=
  (marks histogram).foldl (fun picture (area, colour) => picture.fill area colour)
    (Picture.blank shape background)

end Planar.Chart
