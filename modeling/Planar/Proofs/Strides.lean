import Planar.Proofs.Grid

/-! Samples of a grid at whole steps: which requests stay inside it, what they read, and how large
the numbers are that lead there. -/
namespace Planar

/-- Rows and columns at whole steps from the origin, some of each and all inside a native shape. -/
def Shape.StepsWithin (shape native : Shape) (rowStep colStep : Nat) : Prop :=
  0 < shape.height ∧ 0 < shape.width ∧
    ∀ row < shape.height, ∀ col < shape.width,
      row * rowStep < native.height ∧ col * colStep < native.width

/-- The last row and column are the farthest. -/
theorem Shape.stepsWithin_iff {shape native : Shape} {rowStep colStep : Nat} :
    shape.StepsWithin native rowStep colStep ↔
      0 < shape.height ∧ 0 < shape.width ∧ (shape.height - 1) * rowStep < native.height ∧
        (shape.width - 1) * colStep < native.width := by
  constructor
  · rintro ⟨hheight, hwidth, hinside⟩
    exact ⟨hheight, hwidth,
      hinside _ (Nat.sub_one_lt_of_lt hheight) _ (Nat.sub_one_lt_of_lt hwidth)⟩
  · rintro ⟨hheight, hwidth, hrow, hcol⟩
    refine ⟨hheight, hwidth, ?_⟩
    intro row hlower col hleft
    exact ⟨Grid.mul_lt_of_last hrow ⟨row, hlower⟩, Grid.mul_lt_of_last hcol ⟨col, hleft⟩⟩

instance (shape native : Shape) (rowStep colStep : Nat) :
    Decidable (shape.StepsWithin native rowStep colStep) :=
  decidable_of_iff' _ Shape.stepsWithin_iff

namespace Grid
variable {β : Type} {native grid middle : Grid β} {shape : Shape}
  {rowStep colStep rowStep' colStep' : Nat}

/-- Every `rowStep`-th row and `colStep`-th column of a native grid, none of them outside it. -/
structure Strided (native : Grid β) (rowStep colStep : Nat) (grid : Grid β) : Prop where
  row_lt : ∀ row : Fin grid.height, row.val * rowStep < native.height
  col_lt : ∀ col : Fin grid.width, col.val * colStep < native.width
  get_eq : ∀ row col, grid.get row col = native.get ⟨_, row_lt row⟩ ⟨_, col_lt col⟩

/-- A request fixes the grid that it gives. -/
theorem strided_eq_ok_iff : native.strided rowStep colStep shape = .ok grid ↔
    shape.StepsWithin native.shape rowStep colStep ∧ grid.shape = shape ∧
      native.Strided rowStep colStep grid := by
  rw [Shape.stepsWithin_iff]
  unfold strided
  split
  · rename_i hlast
    constructor
    · intro h
      cases h
      exact ⟨hlast, rfl, mul_lt_of_last hlast.2.2.1, mul_lt_of_last hlast.2.2.2, get_ofFn _⟩
    · rintro ⟨-, rfl, hstrided⟩
      refine congrArg Except.ok (Eq.trans ?_ grid.ofFn_get)
      congr 1
      funext row col
      exact (hstrided.get_eq row col).symm
  · rename_i hlast
    constructor
    · intro h
      cases h
    · exact fun h => (hlast h.1).elim

theorem strided_of_not_within (h : ¬ shape.StepsWithin native.shape rowStep colStep) :
    native.strided rowStep colStep shape = .error (.badShape shape) :=
  dif_neg (Shape.stepsWithin_iff.not.mp h)

theorem strided_of_within (h : shape.StepsWithin native.shape rowStep colStep) :
    ∃ grid, native.strided rowStep colStep shape = .ok grid :=
  ⟨_, dif_pos (Shape.stepsWithin_iff.mp h)⟩

theorem get?_eq_some (g : Grid β) (row : Fin g.height) (col : Fin g.width) :
    g.get? row col = some (g.get row col) :=
  getElem?_pos g.samples _ (g.size_samples ▸ index_lt row col)

/-! ### What a strided grid holds -/

namespace Strided

/-- The flat index of a sample is the native index of its row and column. -/
theorem flat (h : native.Strided rowStep colStep grid) (row : Fin grid.height)
    (col : Fin grid.width) :
    native.get? (row * rowStep) (col * colStep) = some (grid.get row col) := by
  rw [h.get_eq]
  exact native.get?_eq_some ⟨_, h.row_lt row⟩ ⟨_, h.col_lt col⟩

/-- A sample is in the slice of its own row. -/
theorem slice (h : native.Strided rowStep colStep grid) (row : Fin grid.height)
    (col : Fin grid.width) : ∃ samples, native.row? (row * rowStep) = some samples ∧
      samples[col * colStep]? = some (grid.get row col) := by
  obtain ⟨samples, hrow, hsamples⟩ := native.row?_eq_some ⟨_, h.row_lt row⟩
  refine ⟨samples, hrow, ?_⟩
  rw [h.get_eq]
  exact hsamples ⟨_, h.col_lt col⟩

/-- Steps taken on strided samples are steps of the product on the native ones. -/
theorem trans (h : native.Strided rowStep colStep middle)
    (h' : middle.Strided rowStep' colStep' grid) :
    native.Strided (rowStep * rowStep') (colStep * colStep') grid := by
  have hrow : ∀ row : Fin grid.height,
      row.val * rowStep' * rowStep = row.val * (rowStep * rowStep') := by
    intro row
    rw [Nat.mul_assoc, Nat.mul_comm rowStep']
  have hcol : ∀ col : Fin grid.width,
      col.val * colStep' * colStep = col.val * (colStep * colStep') := by
    intro col
    rw [Nat.mul_assoc, Nat.mul_comm colStep']
  refine ⟨?_, ?_, ?_⟩
  · intro row
    rw [← hrow]
    exact h.row_lt ⟨_, h'.row_lt row⟩
  · intro col
    rw [← hcol]
    exact h.col_lt ⟨_, h'.col_lt col⟩
  · intro row col
    rw [h'.get_eq, h.get_eq]
    simp only [hrow, hcol]

end Strided

/-- The numbers formed on the way to one sample of a strided grid: the last row and column, the
count of samples, the place asked for, the start of its row and its flat index. -/
def strideNumbers (native shape : Shape) (rowStep colStep row col : Nat) : List Nat :=
  [(shape.height - 1) * rowStep, (shape.width - 1) * colStep, shape.width * shape.height,
    row * rowStep, col * colStep, row * rowStep * native.width,
    row * rowStep * native.width + col * colStep]

/-- No number on the way to a sample is above the areas of both grids. -/
theorem Strided.numbers_lt {bound : Nat} (h : native.Strided rowStep colStep grid)
    (hnative : native.shape.area < bound) (hgrid : grid.shape.area < bound)
    (row : Fin grid.height) (col : Fin grid.width) :
    ∀ n ∈ strideNumbers native.shape grid.shape rowStep colStep row col, n < bound := by
  have hrow := h.row_lt row
  have hcol := h.col_lt col
  have hlastRow : (grid.shape.height - 1) * rowStep < native.height :=
    h.row_lt ⟨_, Nat.sub_one_lt_of_lt row.isLt⟩
  have hlastCol : (grid.shape.width - 1) * colStep < native.width :=
    h.col_lt ⟨_, Nat.sub_one_lt_of_lt col.isLt⟩
  have hrows : native.height ≤ native.shape.area :=
    Nat.le_mul_of_pos_left _ (Nat.zero_lt_of_lt hcol)
  have hcols : native.width ≤ native.shape.area :=
    Nat.le_mul_of_pos_right _ (Nat.zero_lt_of_lt hrow)
  have hcount : grid.shape.width * grid.shape.height < bound := hgrid
  have hflat : row.val * rowStep * native.shape.width + col.val * colStep < native.shape.area :=
    index_lt ⟨_, hrow⟩ ⟨_, hcol⟩
  simp only [strideNumbers, List.forall_mem_cons, List.not_mem_nil, false_implies, implies_true,
    and_true]
  omega

/-- Steps of one row and one column leave out nothing. -/
theorem strided_one (hwidth : 0 < native.width) (hheight : 0 < native.height) :
    native.strided 1 1 native.shape = .ok native := by
  have hrow : ∀ row : Fin native.height, row.val * 1 < native.height := by
    intro row
    rw [Nat.mul_one]
    exact row.isLt
  have hcol : ∀ col : Fin native.width, col.val * 1 < native.width := by
    intro col
    rw [Nat.mul_one]
    exact col.isLt
  refine strided_eq_ok_iff.mpr ⟨⟨hheight, hwidth, ?_⟩, rfl, hrow, hcol, ?_⟩
  · intro row hlower col hleft
    exact ⟨hrow ⟨row, hlower⟩, hcol ⟨col, hleft⟩⟩
  · intro row col
    simp only [Nat.mul_one]

theorem strided_strided {shape' : Shape} (h : native.strided rowStep colStep shape = .ok middle)
    (h' : middle.strided rowStep' colStep' shape' = .ok grid) :
    native.strided (rowStep * rowStep') (colStep * colStep') shape' = .ok grid := by
  obtain ⟨-, -, hmiddle⟩ := strided_eq_ok_iff.mp h
  obtain ⟨⟨hheight, hwidth, -⟩, rfl, hgrid⟩ := strided_eq_ok_iff.mp h'
  have hstrided := hmiddle.trans hgrid
  refine strided_eq_ok_iff.mpr ⟨⟨hheight, hwidth, ?_⟩, rfl, hstrided⟩
  intro row hrow col hcol
  exact ⟨hstrided.row_lt ⟨row, hrow⟩, hstrided.col_lt ⟨col, hcol⟩⟩

end Grid

/-- A request for samples at whole steps is granted if it stays inside the native grid, and else
refused with the shape asked for. What is granted has that shape and the samples of exactly those
rows and columns, never of another row that a flat index runs into, and if the samples can be
counted a word holds every number that leads to them. Steps on what was granted are steps of the
product on the native grid. -/
theorem strided_exact {β : Type} (native : Grid β) (rowStep colStep : Nat) (shape : Shape) :
    ((∃ grid, native.strided rowStep colStep shape = .ok grid) ↔
      shape.StepsWithin native.shape rowStep colStep) ∧
    (¬ shape.StepsWithin native.shape rowStep colStep →
      native.strided rowStep colStep shape = .error (.badShape shape)) ∧
    (∀ grid, native.strided rowStep colStep shape = .ok grid →
      grid.shape = shape ∧ grid.samples.size = shape.width * shape.height ∧
      native.Strided rowStep colStep grid ∧
      (∀ (row : Fin grid.height) (col : Fin grid.width),
        native.get? (row * rowStep) (col * colStep) = some (grid.get row col) ∧
        ∃ samples, native.row? (row * rowStep) = some samples ∧
          samples[col * colStep]? = some (grid.get row col)) ∧
      (native.shape.area < Shape.wordLimit → shape.area < Shape.wordLimit →
        ∀ row < shape.height, ∀ col < shape.width,
          ∀ n ∈ Grid.strideNumbers native.shape shape rowStep colStep row col,
            n < Shape.wordLimit) ∧
      ∀ (rowStep' colStep' : Nat) (shape' : Shape) (inner : Grid β),
        grid.strided rowStep' colStep' shape' = .ok inner →
          native.strided (rowStep * rowStep') (colStep * colStep') shape' = .ok inner) := by
  refine ⟨⟨?_, Grid.strided_of_within⟩, Grid.strided_of_not_within, ?_⟩
  · rintro ⟨grid, hgrid⟩
    exact (Grid.strided_eq_ok_iff.mp hgrid).1
  · intro grid hgrid
    obtain ⟨-, rfl, hstrided⟩ := Grid.strided_eq_ok_iff.mp hgrid
    refine ⟨rfl, grid.size_samples, hstrided, ?_, ?_, ?_⟩
    · intro row col
      exact ⟨hstrided.flat row col, hstrided.slice row col⟩
    · intro hnative hcount row hrow col hcol
      exact hstrided.numbers_lt hnative hcount ⟨row, hrow⟩ ⟨col, hcol⟩
    · intro rowStep' colStep' shape' inner hinner
      exact Grid.strided_strided hgrid hinner

/-- The first row twice at every second column, then every second of these. Three columns at steps
of three are refused, though the flat index of the last one is inside the samples. -/
theorem strided_exact_repeated :
    let native : Grid UInt8 := ⟨⟨5, 3⟩, #[0, 1, 2, 3, 4, 5, 6, 7, 8, 9, 10, 11, 12, 13, 14], rfl⟩
    let grid : Grid UInt8 := ⟨⟨3, 2⟩, #[0, 2, 4, 0, 2, 4], rfl⟩
    let inner : Grid UInt8 := ⟨⟨2, 2⟩, #[0, 4, 0, 4], rfl⟩
    (native.strided 0 2 ⟨3, 2⟩ = .ok grid ∧ grid.strided 1 2 ⟨2, 2⟩ = .ok inner ∧
      ¬ Shape.StepsWithin ⟨3, 1⟩ native.shape 1 3 ∧ native.shape.area < Shape.wordLimit ∧
      grid.shape.area < Shape.wordLimit) ∧
    native.Strided 0 2 grid ∧
    (∀ n ∈ Grid.strideNumbers native.shape ⟨3, 2⟩ 0 2 1 2, n < Shape.wordLimit) ∧
    native.strided 0 4 ⟨2, 2⟩ = .ok inner ∧
    native.strided 1 3 ⟨3, 1⟩ = .error (.badShape ⟨3, 1⟩) := by
  intro native grid inner
  have hok : native.strided 0 2 ⟨3, 2⟩ = .ok grid := by decide
  have hinner : grid.strided 1 2 ⟨2, 2⟩ = .ok inner := by decide
  have houtside : ¬ Shape.StepsWithin ⟨3, 1⟩ native.shape 1 3 := by decide
  have hnative : native.shape.area < Shape.wordLimit := by decide
  have hcount : grid.shape.area < Shape.wordLimit := by decide
  obtain ⟨-, -, hgranted⟩ := strided_exact native 0 2 ⟨3, 2⟩
  obtain ⟨-, hrefused, -⟩ := strided_exact native 1 3 ⟨3, 1⟩
  obtain ⟨-, -, hstrided, -, hnumbers, hsteps⟩ := hgranted grid hok
  exact ⟨⟨hok, hinner, houtside, hnative, hcount⟩, hstrided,
    hnumbers hnative hcount 1 (by decide) 2 (by decide), hsteps 1 2 ⟨2, 2⟩ inner hinner,
    hrefused houtside⟩

end Planar
