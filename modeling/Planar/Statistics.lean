import Planar.Scalar

/-! Summary statistics of a list of values. -/
namespace Planar.Statistics
variable {α : Type} [Scalar α]

@[specialize] def mean (values : List α) : α := Scalar.sum values / (values.length : α)

/-- Population variance. -/
@[specialize] def variance (values : List α) : α :=
  let m := mean values
  mean (values.map fun v => (v - m) * (v - m))

@[specialize] def stdDev [Analytic α] (values : List α) : α := sqrt (variance values)

/-- The middle value in sorted order, the mean of the middle two if their number is even. -/
@[specialize] def median (values : List α) : α :=
  let sorted := (values.mergeSort Scalar.totalLe).toArray
  let middle := sorted.size / 2
  if h : sorted.size = 0 then ((0 : Nat) : α) / ((0 : Nat) : α)
  else if sorted.size % 2 = 0 then (sorted[middle - 1] + sorted[middle]) / ((2 : Nat) : α)
  else sorted[middle]

/-- Folds the values that are comparable with themselves, or gives the default if none is. -/
@[specialize] def foldDefined (f : α → α → α) (default : α) (values : List α) : α :=
  match values.filter fun v => v == v with
  | [] => default
  | v :: rest => rest.foldl f v

/-- The least value, infinite for no values. -/
@[specialize] def minimum (values : List α) : α :=
  foldDefined (fun least v => if v < least then v else least)
    (((1 : Nat) : α) / ((0 : Nat) : α)) values

/-- The greatest value, minus infinity for no values. -/
@[specialize] def maximum (values : List α) : α :=
  foldDefined (fun greatest v => if greatest < v then v else greatest)
    (-((1 : Nat) : α) / ((0 : Nat) : α)) values

end Planar.Statistics
