import Planar.Grid

/-! Differences of two grids and their histogram. -/
namespace Planar

structure DifferenceMap (α : Type) where
  signed : Grid α
  deriving DecidableEq

namespace DifferenceMap
variable {α : Type} [Scalar α]

@[specialize] def between (a b : Grid α) : Except Fault (DifferenceMap α) :=
  if h : a.shape = b.shape then .ok ⟨a.zipWith (· - ·) b h⟩
  else .error (.mismatch (.differenceMap a.shape b.shape) a.samples.size b.samples.size)

@[specialize] def absolute (map : DifferenceMap α) : Grid α := map.signed.map Scalar.abs

/-- The largest absolute difference, 0 if there is none. -/
@[specialize] def peak (map : DifferenceMap α) : α :=
  map.absolute.samples.foldl (fun greatest d => if greatest < d then d else greatest)
    ((0 : Nat) : α)

end DifferenceMap

/-- Counts of differences in equally wide bins that divide a range. -/
structure Histogram (α : Type) where
  lower : α
  upper : α
  counts : Array Nat
  deriving DecidableEq

namespace Histogram
variable {α : Type} [Scalar α]

def defaultBins : Nat := 100

def defaultRange : α × α := (-((10 : Nat) : α), ((10 : Nat) : α))

def binWidth (histogram : Histogram α) : α :=
  (histogram.upper - histogram.lower) / (histogram.counts.size : α)

def total (histogram : Histogram α) : Nat := histogram.counts.foldl (· + ·) 0

def peak (histogram : Histogram α) : Nat := histogram.counts.foldl max 0

/-- The bin of a difference, none outside the range. The upper end belongs to the last bin. -/
@[specialize] def binOf (lower upper : α) (bins : Nat) (d : α) : Option Nat :=
  let width := (upper - lower) / (bins : α)
  if d < lower ∨ upper < d then none else some (min (floorNat ((d - lower) / width)) (bins - 1))

@[specialize] def ofMap (map : DifferenceMap α) (bins : Nat) (lower upper : α) : Histogram α :=
  let bins := max bins 1
  let counts := map.signed.samples.foldl (fun counts d =>
    match binOf lower upper bins d with
    | some i => counts.modify i (· + 1)
    | none => counts) (Array.replicate bins 0)
  ⟨lower, upper, counts⟩

end Histogram

end Planar
