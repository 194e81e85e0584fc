import Planar.Codec.Tiff
import Planar.Command.Arguments
import Planar.Decimal.Reading
import Planar.Source

/-! The commands and their options. -/
namespace Planar.Command

inductive InputKind where
  | text
  | yuv420
  | raster
  deriving DecidableEq, Repr

inductive PictureKind where
  | png
  | tiff
  deriving DecidableEq, Repr

structure ResizeOptions where
  input : String
  kind : InputKind
  width : Option Nat
  height : Option Nat
  colour : ColourModel
  target : Shape
  output : String
  outputFormat : RawFormat
  reference : Option String
  threshold : Float
  timings : Bool

structure CompareOptions where
  native : String
  reference : String
  candidates : List String
  format : RawFormat
  nativeShape : Shape
  shape : Shape
  nativeLabel : String
  referenceLabel : String
  candidateLabels : List String
  folder : String
  pictures : PictureKind
  compression : Tiff.Compression
  writePictures : Bool

structure ExportOptions where
  input : String
  colour : ColourModel
  stem : Option String

inductive Action where
  | resize (options : ResizeOptions)
  | compare (options : CompareOptions)
  | exportChannels (options : ExportOptions)

def natural? (text : String) : Option Nat := Decimal.readNat? Shape.wordLimit text.toList

def inputKind? (text : String) : Option InputKind :=
  [("text", .text), ("yuv420", .yuv420), ("raster", .raster)].lookup text

def rawFormat? (text : String) : Option RawFormat :=
  [("text", .dump), ("yuv420", .frame)].lookup text

def colour? (text : String) : Option ColourModel :=
  [("rgb", .rgb), ("ycbcr", .ycbcr)].lookup text

def pictureKind? (text : String) : Option PictureKind :=
  [("png", .png), ("tiff", .tiff)].lookup text

def compression? (text : String) : Option Tiff.Compression :=
  [("none", .none), ("lzw", .lzw), ("deflate-fast", .deflateFast),
    ("deflate-balanced", .deflateBalanced), ("deflate-best", .deflateBest)].lookup text

def path (name : String) : Rule := ⟨name, .once, (· ≠ "")⟩

def label (name : String) : Rule := ⟨name, .once, fun _ => true⟩

def switch (name : String) : Rule := ⟨name, .switch, fun _ => true⟩

def oneOf {β : Type} (name : String) (read? : String → Option β) : Rule :=
  ⟨name, .once, fun text => (read? text).isSome⟩

def resizeRules : List Rule := [
  path "input", oneOf "format" inputKind?, oneOf "width" natural?, oneOf "height" natural?,
  oneOf "color" colour?, oneOf "out-width" natural?, oneOf "out-height" natural?,
  path "output", oneOf "output-format" rawFormat?, path "reference",
  oneOf "divergence-threshold" Decimal.readFloat?, switch "timings"]

def compareRules : List Rule := [
  path "original", path "reference", { path "candidate" with arity := .many },
  oneOf "format" rawFormat?, oneOf "original-width" natural?, oneOf "original-height" natural?,
  oneOf "width" natural?, oneOf "height" natural?, label "original-label",
  label "reference-label", { label "candidate-label" with arity := .many }, path "out-dir",
  oneOf "artifact-format" pictureKind?, oneOf "tiff-compression" compression?,
  switch "no-artifacts"]

def exportRules : List Rule := [path "input", oneOf "color" colour?, path "stem"]

namespace Bindings

def value? (found : Bindings) (name : String) : Option String := found.lookup name

def values (found : Bindings) (name : String) : List String :=
  found.filterMap fun (key, value) => if key = name then some value else none

def read? {β : Type} (found : Bindings) (name : String) (read : String → Option β) : Option β :=
  (found.value? name).bind read

def shape? (found : Bindings) (width height : String) : Option Shape := do
  return ⟨← found.read? width natural?, ← found.read? height natural?⟩

def has (found : Bindings) (name : String) : Bool := (found.value? name).isSome

end Bindings

def resizeOptions? (found : Bindings) : Option ResizeOptions := do
  return {
    input := ← found.value? "input"
    kind := (found.read? "format" inputKind?).getD .text
    width := found.read? "width" natural?
    height := found.read? "height" natural?
    colour := (found.read? "color" colour?).getD .rgb
    target := ← found.shape? "out-width" "out-height"
    output := ← found.value? "output"
    outputFormat := (found.read? "output-format" rawFormat?).getD .dump
    reference := found.value? "reference"
    threshold := (found.read? "divergence-threshold" Decimal.readFloat?).getD
      Divergence.defaultThreshold
    timings := found.has "timings" }

def compareOptions? (found : Bindings) : Option CompareOptions := do
  let candidates := found.values "candidate"
  guard (candidates ≠ [])
  return {
    native := ← found.value? "original"
    reference := ← found.value? "reference"
    candidates
    format := (found.read? "format" rawFormat?).getD .dump
    nativeShape := ← found.shape? "original-width" "original-height"
    shape := ← found.shape? "width" "height"
    nativeLabel := (found.value? "original-label").getD "Original Image"
    referenceLabel := (found.value? "reference-label").getD "FFmpeg"
    candidateLabels := found.values "candidate-label"
    folder := (found.value? "out-dir").getD "."
    pictures := (found.read? "artifact-format" pictureKind?).getD .png
    compression := (found.read? "tiff-compression" compression?).getD .deflateBalanced
    writePictures := !found.has "no-artifacts" }

def exportOptions? (found : Bindings) : Option ExportOptions := do
  return {
    input := ← found.value? "input"
    colour := (found.read? "color" colour?).getD .rgb
    stem := found.value? "stem" }

/-- Reads the options of one command. -/
def readWith (rules : List Rule) (make? : Bindings → Option Action) (args : List String) :
    Except Halt Action := do
  match make? (← parse rules args) with
  | some action => return action
  | none => throw .usage

/-- Reads a command line without the program's name. -/
def read : List String → Except Halt Action
  | "resize" :: args => readWith resizeRules (fun b => (resizeOptions? b).map .resize) args
  | "compare" :: args => readWith compareRules (fun b => (compareOptions? b).map .compare) args
  | "export-channels" :: args =>
    readWith exportRules (fun b => (exportOptions? b).map .exportChannels) args
  | ["help"] | ["help", "resize"] | ["help", "compare"] | ["help", "export-channels"]
  | "--help" :: _ => .error .help
  | "--version" :: _ => .error .version
  | arg :: _ =>
    if arg.startsWith "-h" then .error .help
    else if arg.startsWith "-V" then .error .version
    else .error .usage
  | [] => .error .usage

end Planar.Command
