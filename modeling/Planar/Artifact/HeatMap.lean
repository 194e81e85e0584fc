import Planar.Difference
import Planar.Picture

/-! Heat maps of absolute differences. -/
namespace Planar.HeatMap
variable {α : Type} [Scalar α]

def cool : Colour := ⟨59, 76, 192⟩

def neutral : Colour := ⟨221, 221, 221⟩

def warm : Colour := ⟨180, 4, 38⟩

/-- The byte a given part of the way from one byte to another. -/
@[specialize] def between (start stop : UInt8) (part : α) : UInt8 :=
  let first : α := (start.toNat : α)
  UInt8.ofNat (min 255 (roundNat (first + ((stop.toNat : α) - first) * part)))

@[specialize] def mix (start stop : Colour) (part : α) : Colour :=
  ⟨between start.red stop.red part, between start.green stop.green part,
    between start.blue stop.blue part⟩

/-- The diverging ramp from cool at 0 over neutral at one half to warm at 1. -/
@[specialize] def ramp (t : α) : Colour :=
  let zero : α := ((0 : Nat) : α)
  let one : α := ((1 : Nat) : α)
  let two : α := ((2 : Nat) : α)
  let t := if Scalar.isFinite t then if t < zero then zero else if one < t then one else t
    else zero
  if t < one / two then mix cool neutral (t * two) else mix neutral warm ((t - one / two) * two)

/-- Blocks are as large as keeps the longer side within this many pixels. -/
def side : Nat := 512

def scale (shape : Shape) : Nat := max 1 (side / max 1 (max shape.width shape.height))

/-- Absolute differences on the ramp, relative to the largest. -/
@[specialize] def render (map : DifferenceMap α) : Picture :=
  let peak := map.peak
  let colours := map.absolute.map fun d =>
    ramp (if ((0 : Nat) : α) < peak then d / peak else ((0 : Nat) : α))
  colours.enlarge (scale map.signed.shape)

end Planar.HeatMap
