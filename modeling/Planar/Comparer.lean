import Planar.Artifact.Chart
import Planar.Artifact.Encoder
import Planar.Artifact.HeatMap
import Planar.Artifact.Name
import Planar.Report
import Planar.Source

/-! Comparing candidates with a reference, both against a native-size source. -/
namespace Planar

structure ComparisonConfig (α : Type) where
  thresholds : List α
  bins : Nat
  range : α × α
  /-- Folder for pictures. -/
  folder : String
  writePictures : Bool

def ComparisonConfig.default {α : Type} [Scalar α] : ComparisonConfig α where
  thresholds := Comparison.defaultThresholds
  bins := Histogram.defaultBins
  range := Histogram.defaultRange
  folder := "."
  writePictures := true

structure Comparer (α : Type) where
  encoder : PictureEncoder
  config : ComparisonConfig α

/-- One comparison: a candidate and a reference of one size, and the image they were made from. -/
structure Job where
  native : Source
  reference : Source
  candidate : Source

/-- A picture that is drawn but not written yet. -/
structure Drawing where
  path : String
  picture : Picture

/-- The channel in the names of a plane's pictures, none if there is only one plane. -/
def Image.named? (image : Image) (plane : Plane) : Option Channel :=
  if 1 < image.planes.length then some plane.channel else none

namespace Comparer
variable {α : Type} [Scalar α] [Analytic α]

/-- The check of one pair of planes. -/
def matchPair (a b : Labelled) (pair : Plane × Plane) : Except Fault Unit :=
  if pair.1.grid.shape = pair.2.grid.shape then .ok ()
  else
    .error (.mismatch
      (.labelledPlane pair.1.channel a.label pair.1.grid.shape b.label pair.2.grid.shape)
      pair.1.grid.samples.size pair.2.grid.samples.size)

/-- Checks two images plane by plane for equal shapes. -/
def matchPlanes (a b : Labelled) : List (Plane × Plane) → Except Fault Unit
  | [] => .ok ()
  | pair :: pairs => do
    matchPair a b pair
    matchPlanes a b pairs

def matchImages (a b : Labelled) : Except Fault Unit :=
  if a.image.planes.length = b.image.planes.length then
    matchPlanes a b (a.image.planes.zip b.image.planes)
  else
    .error (.mismatch (.labelledCount a.label b.label)
      a.image.planes.length b.image.planes.length)

/-- Subsamples each plane of the native image to the shape of the reference's plane. -/
def baselines (native reference : Labelled) : Except Fault (List (Grid UInt8)) :=
  if native.image.planes.length = reference.image.planes.length then
    (native.image.planes.zip reference.image.planes).mapM fun (n, r) =>
      subsample n.grid r.grid.shape
  else
    .error (.mismatch (.nativeCount native.label)
      reference.image.planes.length native.image.planes.length)

def summarize (label : String) (planes : List Plane) (baselines : List (Grid UInt8)) :
    Except Fault (ImageSummary α) := do
  let planes ← (planes.zip baselines).mapM fun (plane, baseline) => do
    let summary ← Summary.of plane.grid.toScalar baseline.toScalar
    return PlaneSummary.mk plane.channel summary
  return ⟨label, planes⟩

/-- The path of a picture of one of the reference's planes. -/
def picturePath (comparer : Comparer α) (reference candidate : Labelled) (kind : Artifact.Kind)
    (plane : Plane) : String :=
  Artifact.path comparer.config.folder kind (reference.image.named? plane) reference.label
    candidate.label comparer.encoder.extension

/-- A picture of the differences of two planes. -/
def picture (comparer : Comparer α) (map : DifferenceMap α) : Artifact.Kind → Picture
  | .histogram => Chart.render (Histogram.ofMap map comparer.config.bins
      comparer.config.range.1 comparer.config.range.2)
  | .heatMap => HeatMap.render map

variable (α) in
/-- The differences of a pair of planes. -/
def difference (pair : Plane × Plane) : Except Fault (DifferenceMap α) :=
  DifferenceMap.between pair.1.grid.toScalar pair.2.grid.toScalar

/-- What is reported of a pair of planes. -/
def comparison (comparer : Comparer α) (pair : Plane × Plane) (map : DifferenceMap α) :
    PlaneComparison α :=
  ⟨pair.1.channel, Comparison.ofMap map comparer.config.thresholds⟩

/-- The pictures of a pair of planes, none unless they are wanted. -/
def drawings (comparer : Comparer α) (reference candidate : Labelled) (pair : Plane × Plane)
    (map : DifferenceMap α) : List Drawing :=
  if comparer.config.writePictures then
    [Artifact.Kind.histogram, .heatMap].map fun kind =>
      ⟨comparer.picturePath reference candidate kind pair.1, comparer.picture map kind⟩
  else []

/-- Statistics and pictures of the differences of paired planes. -/
def comparePlanes (comparer : Comparer α) (reference candidate : Labelled) :
    List (Plane × Plane) → Except Fault (List (PlaneComparison α) × List Drawing)
  | [] => .ok ([], [])
  | pair :: pairs => do
    let map ← difference α pair
    let (comparisons, rest) ← comparer.comparePlanes reference candidate pairs
    return (comparer.comparison pair map :: comparisons,
      comparer.drawings reference candidate pair map ++ rest)

/-- The report of a comparison, which lists no pictures yet, and the pictures to be written. -/
def assess (comparer : Comparer α) (native reference candidate : Labelled) :
    Except Fault (Report α × List Drawing) := do
  matchImages reference candidate
  let baselines ← baselines native reference
  let subsampled := List.zipWith (fun p grid => Plane.mk p.channel grid)
    native.image.planes baselines
  let summaries ← [
    (s!"{native.label} (subsampled)", subsampled),
    (reference.label, reference.image.planes),
    (candidate.label, candidate.image.planes)].mapM fun (label, planes) =>
      summarize label planes baselines
  let (comparisons, drawings) ← comparer.comparePlanes reference candidate
    (reference.image.planes.zip candidate.image.planes)
  return (⟨reference.label, candidate.label, summaries, comparisons, []⟩, drawings)

section
variable {m : Type → Type} [Monad m] [Host α m] [PictureDecoder]

def writeDrawings (comparer : Comparer α) : List Drawing → Task m (List String)
  | [] => return []
  | drawing :: drawings => do
    let bytes ← comparer.encoder.encode drawing.picture
    Task.writeOutput drawing.path bytes
    let paths ← comparer.writeDrawings drawings
    return drawing.path :: paths

/-- Compares three images. Nothing is written unless every statistic could be computed. -/
def compare (comparer : Comparer α) (native reference candidate : Labelled) :
    Task m (Report α) := do
  let (report, drawings) ← comparer.assess native reference candidate
  if drawings ≠ [] then Task.makeFolders comparer.config.folder
  let artifacts ← comparer.writeDrawings drawings
  return { report with artifacts }

def compareFiles (comparer : Comparer α) (job : Job) : Task m (Report α) := do
  let native ← job.native.load
  let reference ← job.reference.load
  let candidate ← job.candidate.load
  comparer.compare native reference candidate

/-- Runs every job. A failing one is logged and does not stop the others. -/
def runBatch (comparer : Comparer α) : List Job → m (List (Except Fault (Report α)))
  | [] => return []
  | job :: jobs => do
    let result ← (comparer.compareFiles job).run
    if let .error fault := result then
      Host.log (Event.comparisonFailed fault job.reference.path job.candidate.path)
    let results ← comparer.runBatch jobs
    return result :: results

end

end Comparer

end Planar
