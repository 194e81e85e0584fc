import Planar.Grid

/-! Resampled values that stray from a reference. -/
namespace Planar

structure Divergence (α : Type) where
  row : Nat
  col : Nat
  resized : α
  reference : α

namespace Divergence
variable {α : Type} [Scalar α]

def delta (d : Divergence α) : α := d.resized - d.reference

def defaultThreshold : α := ((30 : Nat) : α)

/-- Goes through the positions row by row and calls the observer, which has a state of its own,
wherever the values differ by more than the threshold. Gives the number of calls. -/
@[specialize] def observe {σ : Type} (threshold : α) (resized reference : Grid α)
    (observer : σ → Divergence α → σ) (state : σ) : Except Fault Nat × σ :=
  if resized.shape = reference.shape then
    let pairs := (resized.samples.zip reference.samples).zipIdx
    let (count, state) := pairs.foldl (fun (count, state) ((value, expected), i) =>
      if threshold < Scalar.abs (value - expected) then
        (count + 1, observer state ⟨i / resized.width, i % resized.width, value, expected⟩)
      else (count, state)) (0, state)
    (.ok count, state)
  else
    (.error (.mismatch (.reference resized.shape reference.shape)
      resized.samples.size reference.samples.size), state)

/-- The positions, row by row, whose values differ by more than the threshold. -/
@[specialize] def scan (threshold : α) (resized reference : Grid α) :
    Except Fault (List (Divergence α)) :=
  let (outcome, found) := observe threshold resized reference Array.push #[]
  outcome.map fun _ => found.toList

end Divergence

end Planar
