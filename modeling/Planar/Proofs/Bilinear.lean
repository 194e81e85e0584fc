import Planar.Bilinear
import Planar.Proofs.Exact
import Planar.Proofs.Grid

/-! Bilinear resampling sample by sample, and where exact resampling gives a source sample. -/
namespace Planar

namespace Tap
variable {source target rows cols i k : Nat}

/-- A position on a source sample lies between that sample and itself. -/
theorem forIndex_of_position (h : 0 < source) (hk : k < source)
    (hposition : ratio source target * (i : Rat) = k) :
    forIndex source target h i = (⟨⟨k, hk⟩, ⟨k, hk⟩, 0⟩ : Tap Rat source) := by
  have hlast : min k (source - 1) = k := by omega
  simp only [forIndex, hposition, floorNat_natCast, ceilNat_natCast, hlast]
  congr
  exact sub_self (k : Rat)

theorem blend_of_weights {y : Tap Rat rows} {x : Tap Rat cols} (hy : y.weight = 0)
    (hx : x.weight = 0) (sample : Fin rows → Fin cols → Rat) :
    y.blend x sample = sample y.low x.low := by
  simp [blend, hy, hx]

/-- Positions of an axis that keeps its length are the source's own, also for the single position
of an axis of length one. -/
theorem ratio_self_mul {n : Nat} (h : i < n) : ratio n n * (i : Rat) = i := by
  by_cases hn : 1 < n
  · have hpos : ((n - 1 : Nat) : Rat) ≠ 0 := by
      rw [Nat.cast_ne_zero]
      omega
    have hone : ratio n n = (1 : Rat) := by
      rw [ratio, if_pos hn]
      exact div_self hpos
    rw [hone, one_mul]
  · have hi : i = 0 := by omega
    subst hi
    simp

theorem forIndex_self {n : Nat} (h : 0 < n) (i : Fin n) :
    forIndex n n h i = (⟨i, i, 0⟩ : Tap Rat n) :=
  forIndex_of_position h i.isLt (ratio_self_mul i.isLt)

end Tap

/-- Each sample blends the source samples around its position. -/
theorem bilinear_eq_ofFn {α : Type} [Scalar α] {source : Grid α} {target : Shape}
    (ht : 0 < target.height ∧ 0 < target.width) (hs : 0 < source.height ∧ 0 < source.width) :
    bilinear source target = .ok (Grid.ofFn target fun row col =>
      (Tap.forIndex source.height target.height hs.1 row).blend
        (Tap.forIndex source.width target.width hs.2 col) source.get) := by
  have ht' : ¬ (target.height = 0 ∨ target.width = 0) := by omega
  rw [bilinear, if_neg ht', dif_pos hs]
  simp only [Fin.getElem_fin, Vector.getElem_ofFn]

theorem bilinear_self {g : Grid Rat} (h : 0 < g.height ∧ 0 < g.width) :
    bilinear g g.shape = .ok g := by
  have hsample : ∀ (row : Fin g.height) (col : Fin g.width),
      (Tap.forIndex g.height g.height h.1 row).blend (Tap.forIndex g.width g.width h.2 col) g.get =
        g.get row col := by
    intro row col
    rw [Tap.forIndex_self, Tap.forIndex_self]
    exact Tap.blend_of_weights rfl rfl g.get
  rw [bilinear_eq_ofFn h h]
  simp only [hsample]
  exact congrArg Except.ok g.ofFn_get

end Planar
