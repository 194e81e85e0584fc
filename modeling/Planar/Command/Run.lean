import Planar.Command.Options
import Planar.Comparer
import Planar.Resizer

/-! Running the commands, and what they print. -/
namespace Planar.Command

/-- Why a run ends without success: a fault, perhaps behind the step it occurred in. -/
structure Failure where
  message : String
  cause : Option String
  deriving DecidableEq, Repr

/-- The text of a failure. The lines of a cause are indented. -/
def Failure.render (failure : Failure) : String :=
  match failure.cause with
  | none => s!"Error: {failure.message}\n"
  | some cause =>
    let indented := "\n    ".intercalate (cause.splitOn "\n")
    s!"Error: {failure.message}\n\nCaused by:\n    {indented}\n"

/-- What a finished run leaves behind. -/
structure Output where
  code : Nat
  stdout : String
  stderr : String
  deriving DecidableEq, Repr

abbrev Step (m : Type → Type) (β : Type) : Type := ExceptT Failure m β

section
variable {m : Type → Type} [Monad m] {β : Type}

/-- Faults of a task stand for themselves. -/
def bare (task : Task m β) : Step m β :=
  ExceptT.mk do return (← task.run).mapError fun fault => ⟨fault.message, none⟩

/-- Faults of a task are named after the step. -/
def within (step : String) (task : Task m β) : Step m β :=
  ExceptT.mk do return (← task.run).mapError fun fault => ⟨step, some fault.message⟩

variable [Host Float m] [PictureDecoder]

/-- The content of a file. A fault is named after the step. -/
def readAs (path : String) : Step m ByteArray := do
  match ← (Host.readFile path : m _) with
  | .ok content => return content
  | .error fault => throw ⟨s!"reading {path}", some fault.message⟩

def sourceFormat (kind : InputKind) (colour : ColourModel) (width height : Option Nat) :
    Except Failure SourceFormat :=
  match kind, width, height with
  | .raster, _, _ => .ok (.raster colour)
  | .text, some width, some height => .ok (.dump ⟨width, height⟩ .gray)
  | .yuv420, some width, some height => .ok (.frame ⟨width, height⟩)
  | _, _, _ => .error ⟨"--width and --height are required for raw inputs", none⟩

/-- Resizes a raster file and writes a dump of each channel next to the stem. -/
def resizeToDumps (resizer : Resizer Float) (input stem : String) :
    Step m (Timings × List String) := do
  let start ← (Host.clock : m Nat)
  let bytes ← readAs input
  let stop ← (Host.clock : m Nat)
  let (image, decoding) ← bare <| Task.timed "decode_planes" fun () =>
    Task.report (.ofExcept (resizer.decode bytes))
  let (resized, resizing) ← bare <| Task.timed "resize" fun () =>
    Task.report (resizer.resizeImage image)
  let (paths, writing) ← bare <| Task.timed "write_output_file" fun () =>
    Dump.writePlanes stem resized.planes
  return (⟨[⟨"read_input_file", stop - start⟩, decoding, resizing, writing]⟩, paths)

/-- The resizer that the options ask for. -/
def ResizeOptions.resizer (options : ResizeOptions) (format : SourceFormat)
    (reference : Option Image) : Resizer Float where
  decode := format.decode
  encode := options.outputFormat.encode
  kernel := Kernel.bilinear
  config := { (ResizeConfig.default : ResizeConfig Float) with
    target := some options.target, threshold := options.threshold }
  reference

/-- A dump of each channel is written, and not one file. -/
def ResizeOptions.Splits (options : ResizeOptions) : Prop :=
  options.kind = .raster ∧ options.outputFormat = .dump

instance (options : ResizeOptions) : Decidable options.Splits := inferInstanceAs (Decidable (_ ∧ _))

/-- How a run names a file that it wrote. -/
def ResizeOptions.say (options : ResizeOptions) (path : String) : String :=
  if options.Splits then s!"Resized channel written to {path}\n"
  else s!"Resized image written to {path}\n"

/-- The table of timings, if there is to be one. -/
def ResizeOptions.table (options : ResizeOptions) (timings : Timings) : String :=
  (if options.timings then timings.render?.map (· ++ "\n") else none).getD ""

def loadReference (options : ResizeOptions) : Step m (Option Image) := do
  match options.reference with
  | none => return none
  | some path =>
    let format ← sourceFormat options.kind options.colour (some options.target.width)
      (some options.target.height)
    let loaded ← within s!"loading reference {path}" (Source.load ⟨"reference", path, format⟩)
    return some loaded.image

/-- Resizes the input into the files that the options ask for, and gives their paths. -/
def resizeToFiles (options : ResizeOptions) (resizer : Resizer Float) :
    Step m (Timings × List String) :=
  if options.Splits then
    resizeToDumps resizer options.input (Path.withoutExtension options.output)
  else do
    let timings ← within s!"resizing {options.input}"
      (resizer.resizeFile options.input options.output)
    return (timings, [options.output])

def resize (options : ResizeOptions) : Step m String := do
  let format ← sourceFormat options.kind options.colour options.width options.height
  let reference ← loadReference options
  let (timings, paths) ← resizeToFiles options (options.resizer format reference)
  return String.join (paths.map options.say) ++ options.table timings

/-- The comparison of a candidate under a label. -/
def CompareOptions.job (options : CompareOptions) (path label : String) : Job where
  native := ⟨options.nativeLabel, options.native, options.format.source options.nativeShape⟩
  reference := ⟨options.referenceLabel, options.reference, options.format.source options.shape⟩
  candidate := ⟨label, path, options.format.source options.shape⟩

/-- The comparison of each candidate in turn. Candidates without a label of their own share
one. -/
def jobs (options : CompareOptions) : List Job :=
  options.candidates.zipIdx.map fun (path, i) =>
    options.job path (options.candidateLabels[i]?.getD "Custom Bilinear")

def comparer (options : CompareOptions) : Comparer Float where
  encoder :=
    match options.pictures with
    | .png => PictureEncoder.png
    | .tiff => PictureEncoder.tiff options.compression false
  config := { ComparisonConfig.default with
    folder := options.folder, writePictures := options.writePictures }

def sayResult (job : Job) : Except Fault (Report Float) → String
  | .ok report => report.render ++ "\n"
  | .error fault => s!"Comparison of {job.candidate.path} failed: {fault.message}\n\n"

/-- How a run ends when some of its comparisons failed. -/
def verdict (failed total : Nat) : Except Failure Unit :=
  if failed = 0 then .ok () else .error ⟨s!"{failed} of {total} comparisons failed", none⟩

/-- Compares every candidate and tells how many comparisons failed. -/
def compare (options : CompareOptions) : m (String × Except Failure Unit) := do
  let jobs := jobs options
  let results ← (comparer options).runBatch jobs
  let said := String.join (List.zipWith sayResult jobs results)
  let failed := results.countP fun result => result.toOption.isNone
  return (said, verdict failed jobs.length)

/-- Least, greatest and mean sample of a plane. -/
def sayStatistics (plane : Plane) : String :=
  let samples := plane.grid.samples.toList
  let least := samples.foldl min 255
  let greatest := samples.foldl max 0
  let mean : Float := Statistics.mean (samples.map fun v => (v.toNat : Float))
  s!"{plane.channel.name} channel - Min: {least}, Max: {greatest}, " ++
    s!"Mean: {Decimal.fixed 2 mean}\n"

def exportChannels (options : ExportOptions) : Step m String := do
  let bytes ← readAs options.input
  let image ← within s!"decoding {options.input}"
    (Task.report (α := Float) (.ofExcept (Raster.decode options.colour none bytes)))
  let stem := options.stem.getD (Path.withoutExtension options.input)
  let paths ← bare (Dump.writePlanes stem image.planes)
  return String.join (paths.map fun path => s!"Channel written to {path}\n") ++
    String.join (image.planes.map sayStatistics)

end

def version : String := "resample-bench 0.1.0\n"

def usage : String :=
  "Bilinear resizing and resize quality comparison\n\n" ++
  "Usage: resample-bench <COMMAND>\n\n" ++
  "Commands:\n" ++
  "  resize           Resize a channel dump, YUV 4:2:0 frame, or raster image\n" ++
  "  compare          Compare candidate resizes against a reference resize\n" ++
  "  export-channels  Write every channel of a raster image as a text dump\n"

/-- The output of a run that printed `said`. -/
def Output.ofRun (said : String) : Except Failure Unit → Output
  | .ok () => ⟨0, said, ""⟩
  | .error failure => ⟨1, said, failure.render⟩

def Output.ofStep (result : Except Failure String) : Output :=
  .ofRun (result.toOption.getD "") (result.map fun _ => ())

/-- Runs a command line without the program's name. -/
def run {m : Type → Type} [Monad m] [Host Float m] [PictureDecoder] (args : List String) :
    m Output := do
  match read args with
  | .error .usage => return ⟨2, "", usage⟩
  | .error .help => return ⟨0, usage, ""⟩
  | .error .version => return ⟨0, version, ""⟩
  | .ok (.resize options) => return .ofStep (← (resize options).run)
  | .ok (.exportChannels options) => return .ofStep (← (exportChannels options).run)
  | .ok (.compare options) => do
    let (said, ended) ← compare options
    return .ofRun said ended

end Planar.Command
