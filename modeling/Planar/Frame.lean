import Planar.Image

/-! Raw 4:2:0 frames: the luma samples, then both chroma planes, one byte per sample. -/
namespace Planar.Frame

/-- Number of bytes in a frame. -/
def length (shape : Shape) : Nat :=
  shape.area + 2 * (shape.width / 2) * (shape.height / 2)

/-- Reads the frame of an image of the given shape. -/
def decode (shape : Shape) (bytes : ByteArray) : Except Fault Image := do
  let half := Layout.yuv420.planeShape 1 shape
  let luma ← sampleCount shape
  let chroma ← sampleCount half
  let expected := luma + 2 * chroma
  if Shape.wordLimit ≤ expected then throw (.badShape shape)
  if bytes.size ≠ expected then throw (.mismatch (.frame shape) expected bytes.size)
  let samples := bytes.data
  let y ← Grid.ofArray shape (samples.extract 0 luma)
  let cb ← Grid.ofArray half (samples.extract luma (luma + chroma))
  let cr ← Grid.ofArray half (samples.extract (luma + chroma) expected)
  Image.assemble shape .yuv420 [y, cb, cr]

/-- The frame of an image, which must have the 4:2:0 layout. -/
def encode (image : Image) : Except Fault ByteArray :=
  if image.layout = .yuv420 then
    .ok ⟨image.planes.foldl (fun bytes plane => bytes ++ plane.grid.samples) #[]⟩
  else .error (.unsupported s!"cannot write {image.layout.name} planes as YUV 4:2:0")

end Planar.Frame
