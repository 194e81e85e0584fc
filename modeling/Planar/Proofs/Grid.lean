import Planar.Grid
import Planar.Proofs.Traversal

/-! When grids can be made of samples, and what their rows and positions hold. -/
namespace Planar

variable {α : Type} {shape : Shape} {fault : Fault}

theorem sampleCount_of_lt (h : shape.area < Shape.wordLimit) :
    sampleCount shape = .ok shape.area := if_pos h

theorem sampleCount_eq_ok {n : Nat} :
    sampleCount shape = .ok n ↔ shape.area < Shape.wordLimit ∧ n = shape.area := by
  unfold sampleCount
  split
  · rename_i h
    rw [Except.ok.injEq]
    exact ⟨fun hn => ⟨h, hn.symm⟩, fun hn => hn.2.symm⟩
  · rename_i h
    constructor
    · intro hn
      cases hn
    · exact fun hn => (h hn.1).elim

theorem sampleCount_eq_error :
    sampleCount shape = .error fault ↔ Shape.wordLimit ≤ shape.area ∧ fault = .badShape shape := by
  unfold sampleCount
  split
  · rename_i h
    constructor
    · intro hf
      cases hf
    · intro hf
      have := hf.1
      omega
  · rename_i h
    rw [Except.error.injEq]
    exact ⟨fun hf => ⟨Nat.le_of_not_lt h, hf.symm⟩, fun hf => hf.2.symm⟩

theorem Shape.area_eq_zero : shape.area = 0 ↔ shape.width = 0 ∨ shape.height = 0 :=
  Nat.mul_eq_zero

namespace Grid

theorem ofArray_eq_ok {samples : Array α} {g : Grid α} :
    ofArray shape samples = .ok g ↔
      shape.area < Shape.wordLimit ∧ g.shape = shape ∧ g.samples = samples := by
  unfold ofArray
  rw [bind_eq_ok]
  constructor
  · rintro ⟨n, hn, h⟩
    split at h
    · cases h
      exact ⟨(sampleCount_eq_ok.mp hn).1, rfl, rfl⟩
    · cases h
  · rintro ⟨hlt, rfl, rfl⟩
    refine ⟨_, sampleCount_eq_ok.mpr ⟨hlt, rfl⟩, ?_⟩
    rw [dif_pos g.size_samples]

/-- A grid's own samples make it again, as long as they can be counted. -/
theorem ofArray_samples {g : Grid α} (h : g.shape.area < Shape.wordLimit) :
    ofArray g.shape g.samples = .ok g :=
  ofArray_eq_ok.mpr ⟨h, rfl, rfl⟩

theorem flatten_take_rows (samples : Array α) (width n : Nat) :
    ((List.range n).map fun r => (samples.extract (r * width) ((r + 1) * width)).toList).flatten =
      samples.toList.take (n * width) := by
  induction n with
  | zero => simp
  | succ n ih =>
    have hw : (n + 1) * width - n * width = width := by rw [Nat.succ_mul]; omega
    rw [List.range_succ, List.map_append, List.flatten_append, ih, List.map_singleton,
      List.flatten_singleton, Array.toList_extract, List.extract_eq_take_drop, hw, Nat.succ_mul,
      List.take_add]

/-- Rows hold every sample once, in order, also when there are none. -/
theorem flatten_rows (g : Grid α) : (g.rows.map Array.toList).flatten = g.samples.toList := by
  have hsize : g.samples.toList.length = g.height * g.width := by
    rw [Array.length_toList, g.size_samples, Shape.area, Nat.mul_comm]
  unfold rows
  split
  · rename_i hw
    rw [hw, Nat.mul_zero, List.length_eq_zero_iff] at hsize
    rw [hsize]
    rfl
  · rw [List.map_map, Function.comp_def, flatten_take_rows, ← hsize, List.take_length]

theorem eq_of_samples {a b : Grid α} (hshape : a.shape = b.shape)
    (hsamples : a.samples = b.samples) : a = b := by
  cases a
  cases b
  simp_all

theorem samples_eq_empty {g : Grid α} (h : g.width = 0 ∨ g.height = 0) : g.samples = #[] := by
  apply Array.eq_empty_of_size_eq_zero
  rw [g.size_samples]
  exact Shape.area_eq_zero.mpr h

variable {g : Grid α} {row : Nat}

theorem rowEnd_le (h : row < g.height) : (row + 1) * g.width ≤ g.samples.size := by
  rw [g.size_samples, Shape.area, Nat.mul_comm g.shape.width]
  exact Nat.mul_le_mul_right _ h

theorem size_extract_row (h : row < g.height) :
    (g.samples.extract (row * g.width) ((row + 1) * g.width)).size = g.width := by
  have hend := rowEnd_le h
  rw [Array.size_extract, Nat.min_eq_left hend, Nat.succ_mul]
  omega

theorem row?_of_lt (h : row < g.height) : ∃ samples, g.row? row = some samples ∧
    samples.size = g.width := by
  have hend := rowEnd_le h
  refine ⟨_, ?_, size_extract_row h⟩
  rw [Nat.succ_mul] at hend
  rw [row?, if_pos hend, Nat.succ_mul]

theorem size_of_mem_rows {samples : Array α} (h : samples ∈ g.rows) : samples.size = g.width := by
  unfold rows at h
  split at h
  · cases h
  · obtain ⟨row, hrow, rfl⟩ := List.mem_map.mp h
    exact size_extract_row (List.mem_range.mp hrow)

/-! ### Samples by row and column -/

theorem get_of_flat (i : Fin g.shape.area) :
    g.samples[i.val]? = some (g.get (rowOf i) (colOf i)) := by
  have hi : i.val < g.samples.size := lt_of_lt_of_eq i.isLt g.size_samples.symm
  simp [get, rowOf, colOf, Nat.div_add_mod', hi]

theorem ofFn_get (g : Grid α) : ofFn g.shape g.get = g := by
  obtain ⟨shape, samples, hsize⟩ := g
  have hsamples : (ofFn shape (Grid.mk shape samples hsize).get).samples = samples := by
    apply Array.ext
    · simp [ofFn, hsize]
    · intro i hi hi'
      simp [ofFn, get, rowOf, colOf, Nat.div_add_mod']
  simpa [ofFn] using hsamples

theorem get_ofFn {shape : Shape} (f : Fin shape.height → Fin shape.width → α)
    (row : Fin shape.height) (col : Fin shape.width) : (ofFn shape f).get row col = f row col := by
  have hpos : 0 < shape.width := Nat.zero_lt_of_lt col.isLt
  have hrow : (row.val * shape.width + col.val) / shape.width = row.val := by
    rw [Nat.mul_comm, Nat.mul_add_div hpos, Nat.div_eq_of_lt col.isLt, Nat.add_zero]
  have hcol : (row.val * shape.width + col.val) % shape.width = col.val := by
    rw [Nat.mul_comm, Nat.mul_add_mod, Nat.mod_eq_of_lt col.isLt]
  simp [get, ofFn, rowOf, colOf, hrow, hcol]

theorem funext_get_ofFn {shape : Shape} (f : Fin shape.height → Fin shape.width → α) :
    (ofFn shape f).get = f :=
  funext fun row => funext fun col => get_ofFn f row col

/-- Every grid is given by its samples by row and column. -/
theorem exists_ofFn (g : Grid α) :
    ∃ (shape : Shape) (f : Fin shape.height → Fin shape.width → α), g = ofFn shape f :=
  ⟨g.shape, g.get, g.ofFn_get.symm⟩

theorem exists_ofFn_of_shape {β : Type} {a : Grid α} {b : Grid β} (h : a.shape = b.shape) :
    ∃ (shape : Shape) (f : Fin shape.height → Fin shape.width → α)
      (f' : Fin shape.height → Fin shape.width → β), a = ofFn shape f ∧ b = ofFn shape f' := by
  obtain ⟨shape, f, rfl⟩ := a.exists_ofFn
  obtain ⟨shape', f', rfl⟩ := b.exists_ofFn
  obtain rfl : shape = shape' := h
  exact ⟨shape, f, f', rfl, rfl⟩

theorem zipWith_ofFn {β γ : Type} {shape : Shape} (k : α → β → γ)
    (f : Fin shape.height → Fin shape.width → α) (f' : Fin shape.height → Fin shape.width → β) :
    (ofFn shape f).zipWith k (ofFn shape f') rfl =
      ofFn shape fun row col => k (f row col) (f' row col) := by
  refine eq_of_samples rfl ?_
  apply Array.ext
  · simp [zipWith, ofFn]
  · intro i hi hi'
    simp [zipWith, ofFn]

theorem map_ofFn {β : Type} {shape : Shape} (f : Fin shape.height → Fin shape.width → α)
    (k : α → β) : (ofFn shape f).map k = ofFn shape fun row col => k (f row col) := by
  simp [map, ofFn, Function.comp_def]

theorem toScalar_ofFn [Scalar α] {shape : Shape} (f : Fin shape.height → Fin shape.width → UInt8) :
    ((ofFn shape f).toScalar : Grid α) = ofFn shape fun row col => ((f row col).toNat : α) :=
  map_ofFn f _

theorem quantize_ofFn [Scalar α] {shape : Shape} (f : Fin shape.height → Fin shape.width → α) :
    (ofFn shape f).quantize = ofFn shape fun row col => quantizeSample (f row col) :=
  map_ofFn f _

theorem get_map {β : Type} (g : Grid α) (k : α → β) :
    (g.map k).get = fun row col => k (g.get row col) := by
  funext row col
  simp [get, map]

/-- Reading a row as a slice and a sample of it by its column finds the sample of that place. -/
theorem row?_eq_some (g : Grid α) (row : Fin g.height) :
    ∃ samples, g.row? row = some samples ∧
      ∀ col : Fin g.width, samples[col.val]? = some (g.get row col) := by
  have hend := rowEnd_le row.isLt
  rw [Nat.succ_mul] at hend
  refine ⟨_, if_pos hend, ?_⟩
  intro col
  have hindex : row.val * g.width + col.val < g.samples.size :=
    lt_of_lt_of_eq (index_lt row col) g.size_samples.symm
  rw [Array.getElem?_extract_of_lt (by omega)]
  rfl

/-- Equally shaped grids whose samples in the same place are related. -/
structure Related {β : Type} (r : α → β → Prop) (a : Grid α) (b : Grid β) : Prop where
  shape_eq : a.shape = b.shape
  holds : ∀ row col, r (a.get row col) (b.get (row.cast (congrArg Shape.height shape_eq))
    (col.cast (congrArg Shape.width shape_eq)))

theorem related_ofFn {β : Type} {shape : Shape} {r : α → β → Prop}
    {f : Fin shape.height → Fin shape.width → α} {f' : Fin shape.height → Fin shape.width → β} :
    Related r (ofFn shape f) (ofFn shape f') ↔ ∀ row col, r (f row col) (f' row col) := by
  have hget : ∀ (row : Fin shape.height) (col : Fin shape.width),
      r ((ofFn shape f).get row col) ((ofFn shape f').get row col) ↔
        r (f row col) (f' row col) := by
    intro row col
    rw [get_ofFn, get_ofFn]
  constructor
  · intro h row col
    exact (hget row col).mp (h.holds row col)
  · intro h
    exact ⟨rfl, fun row col => (hget row col).mpr (h row col)⟩

end Grid

end Planar
