import Planar.Fault
import Planar.Scalar

/-! Row-major sample grids. -/
namespace Planar

structure Grid (α : Type) where
  shape : Shape
  samples : Array α
  size_samples : samples.size = shape.area
  deriving DecidableEq

/-- The area of a shape, if a 64-bit word holds it. -/
def sampleCount (shape : Shape) : Except Fault Nat :=
  if shape.area < Shape.wordLimit then .ok shape.area else .error (.badShape shape)

namespace Grid
variable {α β : Type}

abbrev width (g : Grid α) : Nat := g.shape.width

abbrev height (g : Grid α) : Nat := g.shape.height

def ofArray (shape : Shape) (samples : Array α) : Except Fault (Grid α) := do
  let count ← sampleCount shape
  if h : samples.size = shape.area then .ok ⟨shape, samples, h⟩
  else .error (.mismatch (.grid shape) count samples.size)

theorem index_lt {shape : Shape} (row : Fin shape.height) (col : Fin shape.width) :
    row.val * shape.width + col.val < shape.area :=
  calc row.val * shape.width + col.val
      < row.val * shape.width + shape.width := Nat.add_lt_add_left col.isLt _
    _ = (row.val + 1) * shape.width := (Nat.succ_mul _ _).symm
    _ ≤ shape.height * shape.width := Nat.mul_le_mul_right _ row.isLt
    _ = shape.area := Nat.mul_comm _ _

/-- Row of the sample at a flat index. -/
def rowOf {shape : Shape} (i : Fin shape.area) : Fin shape.height :=
  ⟨i.val / shape.width, Nat.div_lt_of_lt_mul i.isLt⟩

/-- Column of the sample at a flat index. -/
def colOf {shape : Shape} (i : Fin shape.area) : Fin shape.width :=
  ⟨i.val % shape.width, Nat.mod_lt _ (Nat.pos_of_mul_pos_right (Nat.zero_lt_of_lt i.isLt))⟩

/-- The grid whose sample at each row and column is given by `f`. -/
@[specialize] def ofFn (shape : Shape) (f : Fin shape.height → Fin shape.width → α) : Grid α :=
  ⟨shape, Array.ofFn fun i : Fin shape.area => f (rowOf i) (colOf i), Array.size_ofFn⟩

def get (g : Grid α) (row : Fin g.height) (col : Fin g.width) : α :=
  have := g.size_samples ▸ index_lt row col
  g.samples[row.val * g.width + col.val]

/-- The sample at the flat index of a row and column. The column may run past its row, into the
rows below. -/
def get? (g : Grid α) (row col : Nat) : Option α := g.samples[row * g.width + col]?

def row? (g : Grid α) (row : Nat) : Option (Array α) :=
  let start := row * g.width
  if start + g.width ≤ g.samples.size then some (g.samples.extract start (start + g.width))
  else none

/-- The rows from the top, none when they are empty. -/
def rows (g : Grid α) : List (Array α) :=
  if g.width = 0 then []
  else (List.range g.height).map fun r => g.samples.extract (r * g.width) ((r + 1) * g.width)

@[specialize] def map (f : α → β) (g : Grid α) : Grid β :=
  ⟨g.shape, g.samples.map f, by simp [g.size_samples]⟩

/-- Combines two equally shaped grids sample by sample. -/
@[specialize] def zipWith {γ : Type} (f : α → β → γ) (a : Grid α) (b : Grid β)
    (h : a.shape = b.shape) : Grid γ :=
  ⟨a.shape, Array.zipWith f a.samples b.samples, by
    simp [a.size_samples, b.size_samples, h]⟩

def transpose (g : Grid α) : Grid α := ofFn g.shape.transpose fun row col => g.get col row

theorem mul_lt_of_last {n step bound : Nat} (h : (n - 1) * step < bound) (i : Fin n) :
    i.val * step < bound :=
  Nat.lt_of_le_of_lt (Nat.mul_le_mul_right _ (Nat.le_sub_one_of_lt i.isLt)) h

/-- Every `rowStep`-th row and `colStep`-th column from the origin on, `shape.height` rows of
`shape.width` samples. -/
def strided (g : Grid α) (rowStep colStep : Nat) (shape : Shape) : Except Fault (Grid α) :=
  if h : 0 < shape.height ∧ 0 < shape.width ∧ (shape.height - 1) * rowStep < g.height ∧
      (shape.width - 1) * colStep < g.width then
    .ok (ofFn shape fun row col =>
      g.get ⟨_, mul_lt_of_last h.2.2.1 row⟩ ⟨_, mul_lt_of_last h.2.2.2 col⟩)
  else .error (.badShape shape)

/-- The grid with the sample at a row and column replaced, if it has that position. -/
def put (g : Grid α) (row col : Nat) (value : α) : Grid α :=
  if col < g.width then
    ⟨g.shape, g.samples.setIfInBounds (row * g.width + col) value, by simp [g.size_samples]⟩
  else g

/-- Every sample as a square block of `scale` rows and columns. -/
def enlarge (g : Grid α) (scale : Nat) : Grid α :=
  ofFn ⟨scale * g.width, scale * g.height⟩ fun row col =>
    g.get ⟨row.val / scale, Nat.div_lt_of_lt_mul row.isLt⟩
      ⟨col.val / scale, Nat.div_lt_of_lt_mul col.isLt⟩

end Grid

/-- The 8-bit sample nearest to a value. -/
@[specialize] def quantizeSample {α : Type} [Scalar α] (x : α) : UInt8 :=
  UInt8.ofNat (min 255 (roundNat x))

namespace Grid
variable {α : Type} [Scalar α]

/-- Exact values of 8-bit samples. -/
@[specialize] def toScalar (g : Grid UInt8) : Grid α := g.map fun v => (v.toNat : α)

@[specialize] def quantize (g : Grid α) : Grid UInt8 := g.map quantizeSample

end Grid

end Planar
