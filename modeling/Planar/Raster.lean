import Planar.Codec.Png
import Planar.Codec.Tiff
import Planar.Image

/-! Pictures read as images of three planes. -/
namespace Planar

/-- Finds the picture in a file of any format that it knows. -/
class PictureDecoder where
  decode? : ByteArray → Option Picture

/-- The picture in a PNG or TIFF file. -/
def Picture.decode? (bytes : ByteArray) : Option Picture :=
  match Png.decode? bytes with
  | some picture => some picture
  | none => Tiff.decode? bytes

/-- Files of these two formats are read unless another decoder is given. -/
instance : PictureDecoder := ⟨Picture.decode?⟩

/-- The colours that a picture is split into. -/
inductive ColourModel where
  | rgb
  /-- Full-range luma and two colour differences, by the BT.601 weights. -/
  | ycbcr
  deriving DecidableEq, Repr

namespace ColourModel

def layout : ColourModel → Layout
  | .rgb => .rgb
  | .ycbcr => .ycbcr

/-- Luma and colour differences of a pixel. -/
def toYcbcr (c : Colour) : UInt8 × UInt8 × UInt8 :=
  let r : Float := (c.red.toNat : Float)
  let g : Float := (c.green.toNat : Float)
  let b : Float := (c.blue.toNat : Float)
  (quantizeSample (0.299 * r + 0.587 * g + 0.114 * b),
    quantizeSample (128.0 - 0.168736 * r - 0.331264 * g + 0.5 * b),
    quantizeSample (128.0 + 0.5 * r - 0.418688 * g - 0.081312 * b))

/-- The three samples of a pixel, in the order of the layout's channels. -/
def split : ColourModel → Colour → UInt8 × UInt8 × UInt8
  | .rgb, c => (c.red, c.green, c.blue)
  | .ycbcr, c => toYcbcr c

end ColourModel

namespace Raster

/-- The planes of a picture, which must have the declared shape if there is one. -/
def ofPicture (model : ColourModel) (declared : Option Shape) (picture : Picture) :
    Except Fault Image := do
  if let some shape := declared then
    if shape ≠ picture.shape then
      throw (.mismatch (.raster shape picture.shape) shape.area picture.shape.area)
  let samples := picture.map model.split
  Image.assemble picture.shape model.layout
    [samples.map (·.1), samples.map (·.2.1), samples.map (·.2.2)]

def decode [PictureDecoder] (model : ColourModel) (declared : Option Shape) (bytes : ByteArray) :
    Except Fault Image :=
  match PictureDecoder.decode? bytes with
  | some picture => ofPicture model declared picture
  | none => .error (.decode .unknownRaster)

end Raster

end Planar
