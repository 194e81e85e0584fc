import Planar.Frame
import Planar.Host
import Planar.Raster
import Planar.Sink

/-! Image files, the formats they are in and the labels they are reported under. -/
namespace Planar

/-- The format of an input. Raw formats need the shape that they do not carry. -/
inductive SourceFormat where
  | dump (shape : Shape) (channel : Channel)
  | frame (shape : Shape)
  | raster (model : ColourModel)
  deriving DecidableEq, Repr

def SourceFormat.decode [PictureDecoder] (format : SourceFormat) (bytes : ByteArray) :
    Except Fault Image :=
  match format with
  | .dump shape channel => (Dump.decode shape bytes).map (Image.single channel)
  | .frame shape => Frame.decode shape bytes
  | .raster model => Raster.decode model none bytes

/-- The format of an output. -/
inductive RawFormat where
  | dump
  | frame
  deriving DecidableEq, Repr

namespace RawFormat

/-- An image of the given shape in this format. -/
def source (format : RawFormat) (shape : Shape) : SourceFormat :=
  match format with
  | .dump => .dump shape .gray
  | .frame => .frame shape

/-- The bytes of an image. A dump has only its first plane. -/
def encode (format : RawFormat) (image : Image) : Except Fault ByteArray :=
  match format with
  | .dump =>
    match image.planes with
    | [] => .error (.unsupported "image has no planes")
    | plane :: _ => .ok (Dump.encode plane.grid)
  | .frame => Frame.encode image

/-- Writes an image to a sink, which stays as it is if the image has no such form. -/
def write (format : RawFormat) (image : Image) (sink : Sink) : Except Fault Unit × Sink :=
  match format.encode image with
  | .error fault => (.error fault, sink)
  | .ok bytes => sink.write bytes

end RawFormat

structure Labelled where
  label : String
  image : Image

structure Source where
  label : String
  path : String
  format : SourceFormat

/-- Reads the image of a source. Faults in its bytes name the file. -/
def Source.load {α : Type} {m : Type → Type} [Monad m] [Host α m] [PictureDecoder]
    (source : Source) : Task m Labelled := do
  let bytes ← Task.readInput source.path
  match source.format.decode bytes with
  | .ok image => return ⟨source.label, image⟩
  | .error fault => throw (fault.inFile source.path)

end Planar
