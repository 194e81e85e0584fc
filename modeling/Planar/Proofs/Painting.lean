import Planar.Picture
import Planar.Proofs.Grid
import Planar.Proofs.Positions

/-! What painting leaves at each pixel: the colour of the last rectangle that covers it. -/
namespace Planar

namespace Grid
variable {α : Type} {g : Grid α} {v : α} {row col : Nat}

/-- The sample at a row and column, none outside the grid. -/
def pixel? (g : Grid α) (row col : Nat) : Option α :=
  if col < g.width then g.get? row col else none

theorem pixel?_eq_get (g : Grid α) (row : Fin g.height) (col : Fin g.width) :
    g.pixel? row col = some (g.get row col) := by
  rw [pixel?, if_pos col.isLt]
  exact getElem?_pos g.samples _ (g.size_samples ▸ index_lt row col)

theorem pixel?_of_not_lt (h : ¬ (row < g.height ∧ col < g.width)) : g.pixel? row col = none := by
  by_cases hcol : col < g.width
  · have hrow : g.height ≤ row := by omega
    have hend := Nat.mul_le_mul_right g.width hrow
    rw [pixel?, if_pos hcol, get?, Array.getElem?_eq_none]
    rw [g.size_samples, Shape.area, Nat.mul_comm]
    exact Nat.le_add_right_of_le hend
  · exact if_neg hcol

theorem lt_of_pixel? (h : g.pixel? row col = some v) : row < g.height ∧ col < g.width := by
  by_contra hout
  cases (pixel?_of_not_lt hout).symm.trans h

theorem pixel?_eq_some : g.pixel? row col = some v ↔
    ∃ (hrow : row < g.height) (hcol : col < g.width), g.get ⟨row, hrow⟩ ⟨col, hcol⟩ = v := by
  constructor
  · intro h
    obtain ⟨hrow, hcol⟩ := lt_of_pixel? h
    exact ⟨hrow, hcol, Option.some.inj ((g.pixel?_eq_get ⟨row, hrow⟩ ⟨col, hcol⟩).symm.trans h)⟩
  · rintro ⟨hrow, hcol, rfl⟩
    exact g.pixel?_eq_get ⟨row, hrow⟩ ⟨col, hcol⟩

theorem pixel?_ofFn {shape : Shape} (f : Fin shape.height → Fin shape.width → α)
    (hrow : row < shape.height) (hcol : col < shape.width) :
    (ofFn shape f).pixel? row col = some (f ⟨row, hrow⟩ ⟨col, hcol⟩) :=
  pixel?_eq_some.mpr ⟨hrow, hcol, get_ofFn f ⟨row, hrow⟩ ⟨col, hcol⟩⟩

theorem flat_eq_iff {width row' col' : Nat} (hcol : col < width) (hcol' : col' < width) :
    row' * width + col' = row * width + col ↔ row = row' ∧ col = col' := by
  constructor
  · intro h
    have hsame : col' = col := by
      have hmod := congrArg (· % width) h
      simpa [Nat.mul_add_mod', Nat.mod_eq_of_lt, hcol, hcol'] using hmod
    subst hsame
    have hrows : row' * width = row * width := Nat.add_right_cancel h
    exact ⟨(Nat.eq_of_mul_eq_mul_right (Nat.zero_lt_of_lt hcol) hrows).symm, rfl⟩
  · rintro ⟨rfl, rfl⟩
    rfl

theorem shape_put (g : Grid α) (row col : Nat) (v : α) : (g.put row col v).shape = g.shape := by
  unfold put
  split <;> rfl

theorem pixel?_put (g : Grid α) (row' col' : Nat) (v : α) :
    (g.put row' col' v).pixel? row col = (g.pixel? row col).map fun under =>
      if row = row' ∧ col = col' then v else under := by
  by_cases hcol : col < g.width
  · unfold put
    split
    · rename_i hcol'
      simp only [pixel?, get?, if_pos hcol, Array.getElem?_setIfInBounds, flat_eq_iff hcol hcol']
      split
      · rename_i hsame
        obtain ⟨rfl, rfl⟩ := hsame
        by_cases hindex : row * g.width + col < g.samples.size <;> simp [hindex]
      · simp
    · have hne : ¬ (row = row' ∧ col = col') := by omega
      simp [hne]
  · have hnone : ∀ g' : Grid α, g'.shape = g.shape → g'.pixel? row col = none := by
      intro g' hshape
      exact pixel?_of_not_lt (by rw [Grid.width, hshape]; exact fun h => hcol h.2)
    rw [hnone _ (g.shape_put row' col' v), hnone g rfl]
    rfl

end Grid

/-! ### Rectangles -/

namespace Rect

/-- The rectangle has pixels in a column. -/
def Spans (area : Rect) (col : Nat) : Prop := area.left ≤ col ∧ col < area.right

def Covers (area : Rect) (row col : Nat) : Prop :=
  (area.top ≤ row ∧ row < area.bottom) ∧ area.Spans col

instance (area : Rect) (col : Nat) : Decidable (area.Spans col) :=
  inferInstanceAs (Decidable (_ ∧ _))

instance (area : Rect) (row col : Nat) : Decidable (area.Covers row col) :=
  inferInstanceAs (Decidable (_ ∧ _))

end Rect

namespace Picture
variable {row col : Nat}

/-- Strokes of one colour, one after the other, colour what any of them covers. -/
theorem pixel?_foldl {β : Type} (paint : Picture → β → Picture) (covers : β → Prop)
    [DecidablePred covers] (colour : Colour)
    (h : ∀ picture mark, (paint picture mark).pixel? row col =
      (picture.pixel? row col).map fun under => if covers mark then colour else under)
    (marks : List β) (picture : Picture) : (marks.foldl paint picture).pixel? row col =
      (picture.pixel? row col).map fun under =>
        if ∃ mark ∈ marks, covers mark then colour else under := by
  induction marks generalizing picture with
  | nil => simp
  | cons mark marks ih =>
    rw [List.foldl_cons, ih, h, Option.map_map]
    congr 1
    funext under
    by_cases hmark : covers mark <;> simp [hmark]

theorem pixel?_fill (picture : Picture) (area : Rect) (colour : Colour) :
    (picture.fill area colour).pixel? row col = (picture.pixel? row col).map fun under =>
      if area.Covers row col then colour else under := by
  unfold fill
  rw [pixel?_foldl _ _ colour fun picture row' =>
    pixel?_foldl _ _ colour (fun picture col' => picture.pixel?_put row' col' colour) _ picture]
  by_cases hin : row < picture.height ∧ col < picture.width
  · have hcovers : (∃ row' ∈ List.range' area.top (min area.bottom picture.height - area.top),
        ∃ col' ∈ List.range' area.left (min area.right picture.width - area.left),
          row = row' ∧ col = col') ↔ area.Covers row col := by
      simp only [List.mem_range'_1, Rect.Covers, Rect.Spans]
      constructor
      · rintro ⟨_, hrow, _, hcol, rfl, rfl⟩
        omega
      · intro h
        exact ⟨row, by omega, col, by omega, rfl, rfl⟩
    simp only [hcovers]
  · rw [Grid.pixel?_of_not_lt hin]
    rfl

theorem pixel?_foldl_fill (areas : List Rect) (colour : Colour) (picture : Picture) :
    ((areas.map (·, colour)).foldl (fun picture (area, colour) => picture.fill area colour)
      picture).pixel? row col = (picture.pixel? row col).map fun under =>
        if ∃ area ∈ areas, area.Covers row col then colour else under := by
  rw [List.foldl_map]
  exact pixel?_foldl _ _ colour (fun picture area => picture.pixel?_fill area colour) areas picture

theorem pixel?_blank {shape : Shape} (colour : Colour) (hrow : row < shape.height)
    (hcol : col < shape.width) : (blank shape colour).pixel? row col = some colour :=
  Grid.pixel?_ofFn _ hrow hcol

end Picture

end Planar
