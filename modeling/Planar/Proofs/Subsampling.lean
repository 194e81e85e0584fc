import Planar.Proofs.Fidelity

/-! A plane subsampled at whole steps: which shapes it can have, which samples it holds, and how
large the numbers are that lead to them. -/
namespace Planar

variable {β : Type} {native grid : Grid β} {shape : Shape}

theorem subsample_eq_strided (h : shape.FitsIn native.shape) : subsample native shape =
    native.strided (native.height / shape.height) (native.width / shape.width) shape := if_pos h

/-- What a plane subsampled from a native one is: the shape asked for, with samples at whole steps,
each found by its flat index and also in the slice of its own row. -/
structure Subsampled (native : Grid β) (shape : Shape) (grid : Grid β) : Prop extends
    native.Strided (native.height / shape.height) (native.width / shape.width) grid where
  shape_eq : grid.shape = shape
  size_samples : grid.samples.size = shape.width * shape.height
  flat : ∀ (row : Fin grid.height) (col : Fin grid.width),
    native.get? (row * (native.height / shape.height)) (col * (native.width / shape.width)) =
      some (grid.get row col)
  slice : ∀ (row : Fin grid.height) (col : Fin grid.width),
    ∃ samples, native.row? (row * (native.height / shape.height)) = some samples ∧
      samples[col * (native.width / shape.width)]? = some (grid.get row col)
  numbers_lt : native.shape.area < Shape.wordLimit →
    ∀ row < shape.height, ∀ col < shape.width, ∀ n ∈ Grid.strideNumbers native.shape shape
      (native.height / shape.height) (native.width / shape.width) row col, n < Shape.wordLimit

theorem subsampled_of_subsample (h : subsample native shape = .ok grid) :
    Subsampled native shape grid := by
  have hfits := (subsample_eq_ok h).1
  rw [subsample_eq_strided hfits] at h
  obtain ⟨-, rfl, hstrided⟩ := Grid.strided_eq_ok_iff.mp h
  refine ⟨hstrided, rfl, grid.size_samples, hstrided.flat, hstrided.slice, ?_⟩
  intro harea row hrow col hcol
  have hcount : grid.shape.area ≤ native.shape.area := Nat.mul_le_mul hfits.2.2.1 hfits.2.2.2
  exact hstrided.numbers_lt harea (hcount.trans_lt harea) ⟨row, hrow⟩ ⟨col, hcol⟩

theorem subsample_self (hwidth : 0 < native.width) (hheight : 0 < native.height) :
    subsample native native.shape = .ok native := by
  rw [subsample_eq_strided ⟨hwidth, hheight, le_rfl, le_rfl⟩, Nat.div_self hwidth,
    Nat.div_self hheight]
  exact Grid.strided_one hwidth hheight

/-- Subsampling succeeds for exactly the shapes with samples that fit into the native one. It reads
at whole steps, inside the native plane and with numbers that a word holds. A plane subsampled to
its own shape is itself. -/
theorem subsample_exact {β : Type} (native : Grid β) (shape : Shape) :
    ((∃ grid, subsample native shape = .ok grid) ↔ shape.FitsIn native.shape) ∧
    (¬ shape.FitsIn native.shape → subsample native shape = .error (.badShape shape)) ∧
    (∀ grid, subsample native shape = .ok grid → Subsampled native shape grid) ∧
    (0 < native.width → 0 < native.height → subsample native native.shape = .ok native) := by
  refine ⟨⟨?_, ?_⟩, subsample_of_not_fits, fun _ => subsampled_of_subsample, subsample_self⟩
  · rintro ⟨grid, hgrid⟩
    exact (subsample_eq_ok hgrid).1
  · intro hfits
    obtain ⟨grid, hgrid, -⟩ := subsample_of_fits hfits
    exact ⟨grid, hgrid⟩

/-- Five columns and three rows at steps of two columns and one row. -/
theorem subsample_exact_uneven :
    let native : Grid UInt8 := ⟨⟨5, 3⟩, #[0, 1, 2, 3, 4, 5, 6, 7, 8, 9, 10, 11, 12, 13, 14], rfl⟩
    let grid : Grid UInt8 := ⟨⟨2, 2⟩, #[0, 2, 5, 7], rfl⟩
    (subsample native ⟨2, 2⟩ = .ok grid ∧ ¬ Shape.FitsIn ⟨6, 1⟩ native.shape ∧
      native.shape.area < Shape.wordLimit ∧ 0 < native.width ∧ 0 < native.height) ∧
    Subsampled native ⟨2, 2⟩ grid ∧
    (∀ n ∈ Grid.strideNumbers native.shape ⟨2, 2⟩ (native.height / 2) (native.width / 2) 1 1,
      n < Shape.wordLimit) ∧
    subsample native ⟨6, 1⟩ = .error (.badShape ⟨6, 1⟩) ∧
    subsample native ⟨5, 3⟩ = .ok native := by
  intro native grid
  have hok : subsample native ⟨2, 2⟩ = .ok grid := by decide
  have hwide : ¬ Shape.FitsIn ⟨6, 1⟩ native.shape := by decide
  have harea : native.shape.area < Shape.wordLimit := by decide
  obtain ⟨-, -, hsubsampled, hself⟩ := subsample_exact native ⟨2, 2⟩
  obtain ⟨-, hrefused, -, -⟩ := subsample_exact native ⟨6, 1⟩
  have hholds := hsubsampled grid hok
  exact ⟨⟨hok, hwide, harea, by decide, by decide⟩, hholds,
    hholds.numbers_lt harea 1 (by decide) 1 (by decide), hrefused hwide,
    hself (by decide) (by decide)⟩

end Planar
