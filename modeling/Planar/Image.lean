import Planar.Grid

/-! Images decoded into one 8-bit grid per channel. -/
namespace Planar

structure Plane where
  channel : Channel
  grid : Grid UInt8
  deriving DecidableEq

structure Image where
  shape : Shape
  layout : Layout
  planes : List Plane
  deriving DecidableEq

namespace Image

/-- One plane per channel of the layout, each of the layout's shape for it. A one-plane image may
carry any channel. -/
structure WellFormed (image : Image) : Prop where
  count : image.planes.length = image.layout.channels.length
  channels : image.layout ≠ .single → image.planes.map Plane.channel = image.layout.channels
  shapes : ∀ (i : Nat) (p : Plane), image.planes[i]? = some p →
    p.grid.shape = image.layout.planeShape i image.shape

/-- Tags grids with channels, checking each against the layout's shape for its plane. -/
def tagPlanes (layout : Layout) (shape : Shape) (index : Nat) :
    List Channel → List (Grid UInt8) → Except Fault (List Plane)
  | channel :: channels, grid :: grids =>
    let expected := layout.planeShape index shape
    if grid.shape = expected then do
      let rest ← tagPlanes layout shape (index + 1) channels grids
      return ⟨channel, grid⟩ :: rest
    else
      .error (.mismatch (.plane channel expected grid.shape) expected.area grid.samples.size)
  | _, _ => .ok []

/-- An image of the layout made of the given grids, in the layout's channel order. -/
def assemble (shape : Shape) (layout : Layout) (grids : List (Grid UInt8)) :
    Except Fault Image := do
  if grids.length ≠ layout.channels.length then
    throw (.mismatch (.planeCount layout) layout.channels.length grids.length)
  let planes ← tagPlanes layout shape 0 layout.channels grids
  return ⟨shape, layout, planes⟩

def single (channel : Channel) (grid : Grid UInt8) : Image :=
  ⟨grid.shape, .single, [⟨channel, grid⟩]⟩

def plane? (image : Image) (channel : Channel) : Option (Grid UInt8) :=
  (image.planes.find? (·.channel = channel)).map Plane.grid

end Image

end Planar
