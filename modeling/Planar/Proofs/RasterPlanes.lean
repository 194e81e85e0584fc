import Planar.Proofs.Image
import Planar.Proofs.Painting
import Planar.Raster

/-! Planes of a picture: pixel by pixel they hold its components, and red, green and blue give it
back. -/
namespace Planar

namespace Grid
variable {α β : Type} {row col : Nat}

theorem map_map {γ : Type} (g : Grid α) (f : α → β) (f' : β → γ) :
    (g.map f).map f' = g.map fun v => f' (f v) := by
  simp [map, Function.comp_def]

end Grid

namespace Raster
variable {model : ColourModel} {declared : Option Shape} {picture picture' : Picture}
  {image image' : Image} {row col k : Nat}

/-- Component `k` of a pixel in the colour model. -/
def component (model : ColourModel) (k : Nat) (c : Colour) : UInt8 :=
  match k with
  | 0 => (model.split c).1
  | 1 => (model.split c).2.1
  | _ => (model.split c).2.2

/-- Three planes of the picture's shape hold the components of its pixels, each in its place. -/
structure Splits (model : ColourModel) (picture : Picture) (image : Image) : Prop where
  shape_eq : image.shape = picture.shape
  layout_eq : image.layout = model.layout
  count : image.planes.length = 3
  channels : image.planes.map Plane.channel = model.layout.channels
  shapes : ∀ plane ∈ image.planes, plane.grid.shape = picture.shape
  samples : ∀ k plane, image.planes[k]? = some plane → ∀ row col,
    plane.grid.pixel? row col = (picture.pixel? row col).map (component model k)

/-- The planes of a picture's components. -/
def planes (model : ColourModel) (picture : Picture) : List Plane :=
  List.zipWith Plane.mk model.layout.channels
    [picture.map (component model 0), picture.map (component model 1),
      picture.map (component model 2)]

end Raster

end Planar
