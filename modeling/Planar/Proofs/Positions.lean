import Mathlib
import Planar.Grid

/-! The positions of a grid row by row, which is the order of its samples. -/
namespace Planar.Grid
variable {shape : Shape}

/-- Rows from the top, each from left to right. -/
def positions (shape : Shape) : List (Fin shape.height × Fin shape.width) :=
  (List.finRange shape.height).flatMap fun row =>
    (List.finRange shape.width).map fun col => (row, col)

/-- The flat index of a position. -/
def flatIndex (position : Fin shape.height × Fin shape.width) : Nat :=
  position.1.val * shape.width + position.2.val

theorem range_mul (height width : Nat) :
    List.range (height * width) = (List.range height).flatMap fun row =>
      (List.range width).map fun col => row * width + col := by
  induction height with
  | zero => simp
  | succ height ih =>
    rw [Nat.succ_mul, List.range_add, ih, List.range_succ, List.flatMap_append]
    simp

theorem flatIndex_injective :
    Function.Injective (flatIndex : Fin shape.height × Fin shape.width → Nat) := by
  rintro ⟨row, col⟩ ⟨row', col'⟩ h
  have hpos : 0 < shape.width := Nat.zero_lt_of_lt col.isLt
  have hcol : col.val = col'.val := by
    have hmod := congrArg (· % shape.width) h
    simpa [flatIndex, Nat.add_mod, Nat.mod_eq_of_lt] using hmod
  have hrow : row.val = row'.val := by
    simp only [flatIndex] at h
    have hmul : row.val * shape.width = row'.val * shape.width := by omega
    exact Nat.eq_of_mul_eq_mul_right hpos hmul
  exact Prod.ext (Fin.ext hrow) (Fin.ext hcol)

theorem map_flatIndex_positions :
    (positions shape).map flatIndex = List.range (shape.height * shape.width) := by
  rw [range_mul, positions, List.map_flatMap]
  simp only [← List.map_coe_finRange_eq_range, List.flatMap_map, List.map_map]
  rfl

/-- Flat indices run through the positions row by row. -/
theorem map_finRange_positions :
    (List.finRange shape.area).map (fun i => (rowOf i, colOf i)) = positions shape := by
  apply List.map_injective_iff.mpr flatIndex_injective
  rw [map_flatIndex_positions, List.map_map, ← Nat.mul_comm]
  have hindex : ∀ i : Fin shape.area, flatIndex (rowOf i, colOf i) = i.val := by
    intro i
    simp [flatIndex, rowOf, colOf, Nat.div_add_mod']
  simp only [Function.comp_def, hindex]
  exact List.map_coe_finRange_eq_range

theorem mem_positions (position : Fin shape.height × Fin shape.width) :
    position ∈ positions shape := by
  simp [positions]

theorem length_positions : (positions shape).length = shape.area := by
  rw [← map_finRange_positions, List.length_map, List.length_finRange]

/-- Samples are held position by position. -/
theorem toList_ofFn {α : Type} (f : Fin shape.height → Fin shape.width → α) :
    (ofFn shape f).samples.toList = (positions shape).map fun (row, col) => f row col := by
  rw [← map_finRange_positions, List.map_map, ofFn, Array.toList_ofFn, List.ofFn_eq_map]
  rfl

/-- Positions come in their order, none twice. -/
theorem pairwise_positions : (positions shape).Pairwise fun p q =>
    p.1 < q.1 ∨ p.1 = q.1 ∧ p.2 < q.2 := by
  rw [positions, List.pairwise_flatMap]
  constructor
  · intro row _
    rw [List.pairwise_map]
    exact (List.pairwise_lt_finRange _).imp fun hcol => Or.inr ⟨rfl, hcol⟩
  · refine (List.pairwise_lt_finRange _).imp ?_
    intro row row' hrow p hp q hq
    obtain ⟨col, -, rfl⟩ := List.mem_map.mp hp
    obtain ⟨col', -, rfl⟩ := List.mem_map.mp hq
    exact Or.inl hrow

end Planar.Grid
