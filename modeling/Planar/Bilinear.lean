import Planar.Grid

/-! Bilinear resampling that maps the first and last sample of each axis onto the first and last
source sample. -/
namespace Planar

/-- The two source positions that an output position lies between on one axis, and how far it is
from the lower one. -/
structure Tap (α : Type) (n : Nat) where
  low : Fin n
  high : Fin n
  weight : α

namespace Tap
variable {α : Type} [Scalar α]

/-- Source distance of neighbouring output positions, 0 for a single output position. -/
@[specialize] def ratio (source target : Nat) : α :=
  if 1 < target then ((source - 1 : Nat) : α) / ((target - 1 : Nat) : α) else ((0 : Nat) : α)

/-- The tap of output position `i`, kept inside the source. -/
@[specialize] def forIndex (source target : Nat) (h : 0 < source) (i : Nat) : Tap α source :=
  let position : α := ratio source target * (i : α)
  let low := min (floorNat position) (source - 1)
  { low := ⟨low, by omega⟩
    high := ⟨min (ceilNat position) (source - 1), by omega⟩
    weight := position - (low : α) }

/-- Blends the samples at the corners of two taps. -/
@[specialize] def blend {rows cols : Nat} (y : Tap α rows) (x : Tap α cols)
    (sample : Fin rows → Fin cols → α) : α :=
  let one : α := ((1 : Nat) : α)
  sample y.low x.low * (one - x.weight) * (one - y.weight)
    + sample y.low x.high * x.weight * (one - y.weight)
    + sample y.high x.low * y.weight * (one - x.weight)
    + sample y.high x.high * x.weight * y.weight

end Tap

/-- Resamples a grid to the given shape. -/
@[specialize] def bilinear {α : Type} [Scalar α] (source : Grid α) (target : Shape) :
    Except Fault (Grid α) :=
  if target.height = 0 ∨ target.width = 0 then .error (.badShape target)
  else if h : 0 < source.height ∧ 0 < source.width then
    let xs : Vector (Tap α source.width) target.width :=
      .ofFn fun col => Tap.forIndex source.width target.width h.2 col
    let ys : Vector (Tap α source.height) target.height :=
      .ofFn fun row => Tap.forIndex source.height target.height h.1 row
    .ok (Grid.ofFn target fun row col => ys[row].blend xs[col] source.get)
  else .error (.badShape source.shape)

end Planar
