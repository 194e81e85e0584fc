import Planar.Bilinear
import Planar.Sink
import Planar.Source

/-! Resizing whole images, from bytes to bytes. -/
namespace Planar

structure ResizeConfig (α : Type) where
  /-- The shape of the result, that of the source for `none`. -/
  target : Option Shape
  /-- Resized values may stray this far from the reference without notice. -/
  threshold : α
  /-- Longest side of a result. -/
  maxSide : Option Nat

namespace ResizeConfig
variable {α : Type}

def default [Scalar α] : ResizeConfig α := ⟨none, Divergence.defaultThreshold, some 50000⟩

def targetFor (config : ResizeConfig α) (source : Shape) : Shape := config.target.getD source

end ResizeConfig

/-- A function that resamples a plane to a shape. -/
abbrev Kernel (α : Type) : Type := Grid UInt8 → Shape → Except Fault (Grid α)

def Kernel.bilinear {α : Type} [Scalar α] : Kernel α :=
  fun source target => Planar.bilinear source.toScalar target

structure Resizer (α : Type) where
  decode : ByteArray → Except Fault Image
  encode : Image → Except Fault ByteArray
  kernel : Kernel α
  config : ResizeConfig α
  /-- An image of the target shape that results are held against. -/
  reference : Option Image

namespace Resizer
variable {α : Type} [Scalar α]

def checkTarget (config : ResizeConfig α) (target : Shape) : Logged α Unit :=
  if target.width = 0 ∨ target.height = 0 then .fail (.badShape target)
  else
    match config.maxSide with
    | some limit =>
      if limit < target.width ∨ limit < target.height then
        ⟨[.targetTooLarge target limit], .error (.badShape target)⟩
      else pure ()
    | none => pure ()

/-- Logs where a resized plane strays from the reference plane of its index. -/
def probe (resizer : Resizer α) (index : Nat) (channel : Channel) (resized : Grid α) :
    Logged α Unit :=
  match resizer.reference with
  | none => pure ()
  | some reference =>
    match reference.planes[index]? with
    | none => .fail (.mismatch .referenceCount (index + 1) reference.planes.length)
    | some plane => do
      let found ← .ofExcept
        (Divergence.scan resizer.config.threshold resized plane.grid.toScalar)
      .tell (found.map (.sampleDiverges channel))
      if found ≠ [] then .tell [.planeDiverges plane.channel found.length]

/-- Resizes a plane to its share of the target. Chroma of a target one sample wide or tall has no
samples. -/
def resizePlane (resizer : Resizer α) (shape : Shape) (index : Nat) (plane : Plane) :
    Logged α (Grid UInt8) :=
  if h : shape.area = 0 then pure ⟨shape, #[], h.symm⟩
  else do
    let resized ← .ofExcept (resizer.kernel plane.grid shape)
    resizer.probe index plane.channel resized
    return resized.quantize

def resizePlanes (resizer : Resizer α) (layout : Layout) (target : Shape) (index : Nat) :
    List Plane → Logged α (List (Grid UInt8))
  | [] => return []
  | plane :: planes => do
    let grid ← resizer.resizePlane (layout.planeShape index target) index plane
    let grids ← resizer.resizePlanes layout target (index + 1) planes
    return grid :: grids

/-- Puts the resized grids of an image together. -/
def gather (image : Image) (target : Shape) (grids : List (Grid UInt8)) : Except Fault Image :=
  match image.layout with
  | .single =>
    match image.planes.head?, grids.getLast? with
    | some plane, some grid => .ok (Image.single plane.channel grid)
    | _, _ => .error (.badShape ⟨0, 0⟩)
  | layout => Image.assemble target layout grids

def resizeImage (resizer : Resizer α) (image : Image) : Logged α Image := do
  let target := resizer.config.targetFor image.shape
  checkTarget resizer.config target
  let grids ← resizer.resizePlanes image.layout target 0 image.planes
  .ofExcept (gather image target grids)

/-- Decodes, resizes and encodes, and gives the resized image with its bytes. -/
def process (resizer : Resizer α) (bytes : ByteArray) : Logged α (Image × ByteArray) := do
  let image ← .ofExcept (resizer.decode bytes)
  let resized ← resizer.resizeImage image
  let encoded ← .ofExcept (resizer.encode resized)
  return (resized, encoded)

/-- Writes the result to a sink once it is complete. -/
def resize (resizer : Resizer α) (bytes : ByteArray) (sink : Sink) : Logged α Image × Sink :=
  let ⟨events, outcome⟩ := resizer.process bytes
  match outcome with
  | .error fault => (⟨events, .error fault⟩, sink)
  | .ok (image, encoded) =>
    let (written, sink) := sink.write encoded
    (⟨events, written.map fun () => image⟩, sink)

section
variable {m : Type → Type} [Monad m] [Host α m]

/-- The stages of `process`, each with its time. -/
def runStages (resizer : Resizer α) (bytes : ByteArray) : Task m (ByteArray × List Timing) := do
  let (image, decoding) ← Task.timed "decode_planes" fun () =>
    Task.report (.ofExcept (resizer.decode bytes))
  let (resized, resizing) ← Task.timed "resize" fun () =>
    Task.report (resizer.resizeImage image)
  let (encoded, encoding) ← Task.timed "encode_planes" fun () =>
    Task.report (.ofExcept (resizer.encode resized))
  return (encoded, [decoding, resizing, encoding])

def resizeTimed (resizer : Resizer α) (bytes : ByteArray) (sink : Sink) :
    m (Except Fault Timings × Sink) := do
  match ← (resizer.runStages bytes).run with
  | .error fault => return (.error fault, sink)
  | .ok (encoded, stages) =>
    let start ← Host.clock
    let (written, sink) := sink.write encoded
    let stop ← Host.clock
    return (written.map fun () => ⟨stages ++ [⟨"write_output", stop - start⟩]⟩, sink)

/-- Resizes one file into another, which is touched only after everything else succeeded. -/
def resizeFile (resizer : Resizer α) (input output : String) : Task m Timings := do
  let (bytes, reading) ← Task.timed "read_input_file" fun () => Task.readInput input
  let (encoded, stages) ← resizer.runStages bytes
  let (_, writing) ← Task.timed "write_output_file" fun () => Task.writeOutput output encoded
  return ⟨reading :: stages ++ [writing]⟩

end

end Resizer

end Planar
