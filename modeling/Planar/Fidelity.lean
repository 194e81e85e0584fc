import Planar.Difference
import Planar.Statistics

/-! How faithful one plane is to another. -/
namespace Planar

/-- A peak signal-to-noise ratio in decibels, unbounded when there is no noise. -/
inductive Psnr (α : Type) where
  | unbounded
  | decibels (value : α)
  deriving DecidableEq

namespace Psnr
variable {α : Type} [Scalar α]

@[specialize] def ofMeanSquare [Analytic α] (mse : α) : Psnr α :=
  if mse == ((0 : Nat) : α) then .unbounded
  else .decibels (((20 : Nat) : α) * log10 (((255 : Nat) : α) / sqrt mse))

end Psnr

section
variable {α : Type} [Scalar α]

@[specialize] def meanSquaredError (a b : Grid α) : Except Fault α :=
  if h : a.shape = b.shape then
    .ok (Statistics.mean (a.zipWith (fun x y => (x - y) * (x - y)) b h).samples.toList)
  else .error (.mismatch (.meanSquaredError a.shape b.shape) a.samples.size b.samples.size)

@[specialize] def signalToNoise [Analytic α] (clean noisy : Grid α) : Except Fault (Psnr α) :=
  (meanSquaredError clean noisy).map Psnr.ofMeanSquare

/-- Subsamples a plane of native size to the given shape, at the whole steps that fit. -/
def subsample {β : Type} (native : Grid β) (shape : Shape) : Except Fault (Grid β) :=
  if 0 < shape.width ∧ 0 < shape.height ∧ shape.width ≤ native.width ∧
      shape.height ≤ native.height then
    native.strided (native.height / shape.height) (native.width / shape.width) shape
  else .error (.badShape shape)

end

/-- Statistics of one plane, and its ratio of signal to noise against a baseline. -/
structure Summary (α : Type) where
  shape : Shape
  min : α
  max : α
  mean : α
  median : α
  stdDev : α
  psnr : Psnr α

@[specialize] def Summary.of {α : Type} [Scalar α] [Analytic α] (grid baseline : Grid α) :
    Except Fault (Summary α) := do
  let psnr ← signalToNoise baseline grid
  let values := grid.samples.toList
  return {
    shape := grid.shape
    min := Statistics.minimum values
    max := Statistics.maximum values
    mean := Statistics.mean values
    median := Statistics.median values
    stdDev := Statistics.stdDev values
    psnr }

/-- The percentage of positions whose absolute difference exceeds a threshold. -/
structure Share (α : Type) where
  threshold : α
  percent : α
  deriving DecidableEq

/-- Statistics of the differences between two planes. -/
structure Comparison (α : Type) where
  meanAbs : α
  medianAbs : α
  maxAbs : α
  stdSigned : α
  exceeding : List (Share α)
  deriving DecidableEq

namespace Comparison
variable {α : Type} [Scalar α]

def defaultThresholds : List α := [0, 1, 5].map fun n : Nat => (n : α)

@[specialize] def share (absolute : List α) (threshold : α) : Share α :=
  let total : α := (absolute.length : α)
  let exceeding : α := (absolute.countP fun d => threshold < d : Nat)
  { threshold
    percent := if absolute = [] then ((0 : Nat) : α) else exceeding / total * ((100 : Nat) : α) }

@[specialize] def ofMap [Analytic α] (map : DifferenceMap α) (thresholds : List α) :
    Comparison α :=
  let absolute := map.absolute.samples.toList
  { meanAbs := Statistics.mean absolute
    medianAbs := Statistics.median absolute
    maxAbs := map.peak
    stdSigned := Statistics.stdDev map.signed.samples.toList
    exceeding := thresholds.map (share absolute) }

@[specialize] def between [Analytic α] (a b : Grid α) (thresholds : List α) :
    Except Fault (Comparison α) :=
  (DifferenceMap.between a b).map fun map => ofMap map thresholds

end Comparison

end Planar
