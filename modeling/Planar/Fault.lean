import Planar.Channel
import Planar.Text.Utf8

/-! Why an operation fails, and the words for it. -/
namespace Planar

/-- What a number of samples was counted in. -/
inductive Subject where
  | grid (shape : Shape)
  | planeCount (layout : Layout)
  | plane (channel : Channel) (expected found : Shape)
  | dump (shape : Shape)
  | frame (shape : Shape)
  | raster (declared decoded : Shape)
  | referenceCount
  | reference (resized reference : Shape)
  | meanSquaredError (a b : Shape)
  | differenceMap (a b : Shape)
  | labelledCount (label other : String)
  | labelledPlane (channel : Channel) (label : String) (shape : Shape) (other : String)
      (otherShape : Shape)
  | nativeCount (label : String)
  | inFile (path : String) (subject : Subject)
  | named (text : String)
  deriving DecidableEq, Repr

def Subject.message : Subject → String
  | .grid shape => s!"{shape} grid"
  | .planeCount layout => s!"{layout.name} plane count"
  | .plane channel expected found =>
    s!"{channel.name} plane ({expected} expected, {found} found)"
  | .dump shape => s!"{shape} channel dump"
  | .frame shape => s!"{shape} YUV 4:2:0 frame"
  | .raster declared decoded => s!"raster image ({declared} declared, {decoded} decoded)"
  | .referenceCount => "divergence reference plane count"
  | .reference resized other =>
    s!"divergence reference ({resized} resized, {other} reference)"
  | .meanSquaredError a b => s!"mean squared error ({a} vs {b})"
  | .differenceMap a b => s!"difference map ({a} vs {b})"
  | .labelledCount label other => s!"plane count of '{label}' vs '{other}'"
  | .labelledPlane channel label shape other otherShape =>
    s!"{channel.name} plane of '{label}' ({shape}) vs '{other}' ({otherShape})"
  | .nativeCount label => s!"plane count of original '{label}'"
  | .inFile path subject => s!"{path}: {subject.message}"
  | .named text => text

/-- Why bytes are not an image. -/
inductive Unreadable where
  | notUtf8 (flaw : Utf8.Flaw)
  | badSample (line : Nat) (word : String)
  | unknownRaster
  | inFile (path : String) (cause : Unreadable)
  | named (text : String)
  deriving DecidableEq, Repr

def Unreadable.message : Unreadable → String
  | .notUtf8 flaw => s!"channel dump is not UTF-8: {flaw.message}"
  | .badSample line word => s!"line {line}: '{word}' is not a sample in 0..=255"
  | .unknownRaster => "The image format could not be determined"
  | .inFile path cause => s!"{path}: {cause.message}"
  | .named text => text

inductive Fault where
  | input (detail : String)
  | output (detail : String)
  | decode (cause : Unreadable)
  | encode (detail : String)
  | mismatch (subject : Subject) (expected actual : Nat)
  /-- A shape no image can have here, or whose area is too large to count. -/
  | badShape (shape : Shape)
  | unsupported (detail : String)
  | device (detail : String)
  deriving DecidableEq, Repr

namespace Fault

def message : Fault → String
  | .input detail => s!"Failed to read input file: {detail}"
  | .output detail => s!"Failed to write output file: {detail}"
  | .decode cause => s!"Failed to decode input: {cause.message}"
  | .encode detail => s!"Failed to encode artifact: {detail}"
  | .mismatch subject expected actual =>
    s!"Dimension mismatch in {subject.message}: expected {expected} samples, got {actual}"
  | .badShape shape =>
    s!"Invalid image dimensions: width={shape.width}, height={shape.height}"
  | .unsupported detail => s!"Unsupported format: {detail}"
  | .device detail => s!"IO error: {detail}"

/-- Names the file that an undecodable image was read from. -/
def inFile (path : String) : Fault → Fault
  | .mismatch subject expected actual => .mismatch (.inFile path subject) expected actual
  | .decode cause => .decode (.inFile path cause)
  | fault => fault

end Fault

end Planar
