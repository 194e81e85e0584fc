import Planar.Fidelity
import Planar.Proofs.Strides
import Planar.Proofs.Zero

/-! Which planes have a baseline, and what a plane measures against one of its shape. -/
namespace Planar

/-- Shapes with samples that a plane of a native shape can be subsampled to. -/
def Shape.FitsIn (shape native : Shape) : Prop :=
  0 < shape.width ∧ 0 < shape.height ∧ shape.width ≤ native.width ∧ shape.height ≤ native.height

instance (shape native : Shape) : Decidable (shape.FitsIn native) :=
  inferInstanceAs (Decidable (_ ∧ _))

section
variable {β : Type} {native grid : Grid β} {shape : Shape}

/-- As many whole steps as fit lead to a position inside. -/
theorem last_step_lt {count length : Nat} (h : 0 < count) (hle : count ≤ length) :
    (count - 1) * (length / count) < length :=
  calc (count - 1) * (length / count)
      < count * (length / count) :=
        Nat.mul_lt_mul_of_pos_right (Nat.sub_one_lt_of_lt h) (Nat.div_pos hle h)
    _ ≤ length := Nat.mul_div_le length count

theorem subsample_of_fits (h : shape.FitsIn native.shape) :
    ∃ grid, subsample native shape = .ok grid ∧ grid.shape = shape := by
  obtain ⟨hwidth, hheight, hwide, hhigh⟩ := h
  have hwithin : shape.StepsWithin native.shape (native.height / shape.height)
      (native.width / shape.width) :=
    Shape.stepsWithin_iff.mpr
      ⟨hheight, hwidth, last_step_lt hheight hhigh, last_step_lt hwidth hwide⟩
  obtain ⟨grid, hgrid⟩ := Grid.strided_of_within hwithin
  rw [subsample, if_pos ⟨hwidth, hheight, hwide, hhigh⟩]
  exact ⟨grid, hgrid, (Grid.strided_eq_ok_iff.mp hgrid).2.1⟩

theorem subsample_of_not_fits (h : ¬ shape.FitsIn native.shape) :
    subsample native shape = .error (.badShape shape) := if_neg h

theorem subsample_eq_ok (h : subsample native shape = .ok grid) :
    shape.FitsIn native.shape ∧ grid.shape = shape := by
  by_cases hfits : shape.FitsIn native.shape
  · obtain ⟨other, hother, hshape⟩ := subsample_of_fits hfits
    cases hother.symm.trans h
    exact ⟨hfits, hshape⟩
  · cases (subsample_of_not_fits hfits).symm.trans h

end

variable {α : Type} [Scalar α] {grid baseline : Grid UInt8} {n : Nat}

theorem differenceMap_of_shape (h : grid.shape = baseline.shape) :
    ∃ map, DifferenceMap.between (α := α) grid.toScalar baseline.toScalar = .ok map :=
  ⟨_, dif_pos h⟩

theorem meanSquaredError_of_shape (h : baseline.shape = grid.shape) :
    ∃ mse, meanSquaredError (α := α) baseline.toScalar grid.toScalar = .ok mse :=
  ⟨_, dif_pos h⟩

/-- The ratio in a summary is that of its noise. -/
theorem psnr_of_summary [Analytic α] {summary : Summary α} {mse : α}
    (hmse : meanSquaredError baseline.toScalar grid.toScalar = .ok mse)
    (h : Summary.of grid.toScalar baseline.toScalar = .ok summary) :
    summary.psnr = Psnr.ofMeanSquare mse := by
  obtain ⟨psnr, hpsnr, h⟩ := bind_eq_ok.mp h
  rw [signalToNoise, hmse] at hpsnr
  cases hpsnr
  cases h
  rfl

theorem summary_of_shape [Analytic α] (h : grid.shape = baseline.shape) :
    ∃ summary, Summary.of (α := α) grid.toScalar baseline.toScalar = .ok summary := by
  obtain ⟨mse, hmse⟩ := meanSquaredError_of_shape (α := α) h.symm
  refine ⟨_, bind_eq_ok.mpr ⟨Psnr.ofMeanSquare mse, ?_, rfl⟩⟩
  rw [signalToNoise, hmse]
  rfl

variable [ZeroLaws α]

theorem foldl_add_zero (n : Nat) :
    (List.replicate n ((0 : Nat) : α)).foldl (· + ·) ((0 : Nat) : α) = ((0 : Nat) : α) := by
  induction n with
  | zero => rfl
  | succ n ih => rw [List.replicate_succ, List.foldl_cons, ZeroLaws.zero_add_zero, ih]

/-- Some zeros, not none, outweigh the minus zero that sums start from. -/
theorem sum_replicate_zero (h : 0 < n) :
    Scalar.sum (List.replicate n ((0 : Nat) : α)) = ((0 : Nat) : α) := by
  obtain ⟨n, rfl⟩ := Nat.exists_eq_succ_of_ne_zero h.ne'
  rw [Scalar.sum, List.replicate_succ, List.foldl_cons, ZeroLaws.neg_zero_add_zero, foldl_add_zero]

theorem meanSquaredError_self (h : 0 < grid.samples.size) :
    ∃ mse, meanSquaredError (α := α) grid.toScalar grid.toScalar = .ok mse ∧
      (mse == ((0 : Nat) : α)) = true := by
  refine ⟨_, dif_pos rfl, ?_⟩
  have hsquares : (Grid.zipWith (fun x y : α => (x - y) * (x - y)) grid.toScalar grid.toScalar
      rfl).samples.toList = List.replicate grid.samples.size ((0 : Nat) : α) := by
    have hsquare : ∀ v : UInt8, ((v.toNat : α) - (v.toNat : α)) * ((v.toNat : α) - (v.toNat : α)) =
        ((0 : Nat) : α) := by
      intro v
      rw [ZeroLaws.sample_sub_self, ZeroLaws.zero_mul_zero]
    simp only [Grid.zipWith, Grid.toScalar, Grid.map, Array.toList_zipWith, Array.toList_map,
      List.zipWith_self, List.map_map, Function.comp_def, hsquare, List.map_const',
      Array.length_toList]
  rw [hsquares, Statistics.mean, sum_replicate_zero h, List.length_replicate]
  exact ZeroLaws.zero_div_count _ h

/-- A plane with samples is no noise to itself. -/
theorem psnr_of_self [Analytic α] {summary : Summary α} (hs : 0 < grid.samples.size)
    (h : Summary.of grid.toScalar grid.toScalar = .ok summary) : summary.psnr = .unbounded := by
  obtain ⟨mse, hmse, hzero⟩ := meanSquaredError_self (α := α) hs
  rw [psnr_of_summary hmse h, Psnr.ofMeanSquare, if_pos hzero]

end Planar
