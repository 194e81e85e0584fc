import Planar.Fidelity
import Planar.Proofs.Grid
import Planar.Proofs.Positions

/-! Differences of two grids position by position, and the largest of them, in exact arithmetic. -/
namespace Planar

theorem scalarAbs_eq_abs (x : Rat) : Scalar.abs x = |x| := by
  change (if x < 0 then -x else x) = |x|
  split
  · rename_i hneg
    exact (abs_of_neg hneg).symm
  · rename_i hpos
    exact (abs_of_nonneg (not_lt.mp hpos)).symm

section
variable {T : Type} [LinearOrder T] {values : List T} {start bound : T}

theorem foldl_max_le_iff :
    values.foldl max start ≤ bound ↔ start ≤ bound ∧ ∀ v ∈ values, v ≤ bound := by
  induction values generalizing start with
  | nil => simp
  | cons v values ih =>
    rw [List.foldl_cons, ih, max_le_iff, List.forall_mem_cons, and_assoc]

theorem foldl_max_mem : values.foldl max start ∈ start :: values := by
  induction values generalizing start with
  | nil => exact List.mem_cons_self
  | cons v values ih =>
    rw [List.foldl_cons]
    rcases List.mem_cons.mp ih with h | h
    · rw [h]
      rcases max_choice start v with hmax | hmax <;> simp [hmax]
    · exact List.mem_cons_of_mem start (List.mem_cons_of_mem v h)

/-- From a start that none is below, the largest is one of the values. -/
theorem isGreatest_foldl_max (hsome : values ≠ []) (hstart : ∀ v ∈ values, start ≤ v) :
    IsGreatest {v | v ∈ values} (values.foldl max start) := by
  have hbound : ∀ v ∈ values, v ≤ values.foldl max start := (foldl_max_le_iff.mp le_rfl).2
  refine ⟨?_, hbound⟩
  rcases List.mem_cons.mp (foldl_max_mem (T := T)) with hequal | hmem
  · obtain ⟨v, hv⟩ := List.exists_mem_of_ne_nil values hsome
    have hv' : v = values.foldl max start := le_antisymm (hbound v hv) (hequal ▸ hstart v hv)
    exact hv' ▸ hv
  · exact hmem

end

namespace DifferenceMap
variable {shape : Shape} {f g : Fin shape.height → Fin shape.width → Rat} {bound : Rat}

theorem between_ofFn : between (Grid.ofFn shape f) (Grid.ofFn shape g) =
    .ok ⟨Grid.ofFn shape fun row col => f row col - g row col⟩ :=
  (dif_pos rfl).trans
    (congrArg (fun signed => Except.ok (DifferenceMap.mk signed)) (Grid.zipWith_ofFn _ f g))

theorem peak_eq_foldl_max (map : DifferenceMap Rat) :
    map.peak = (map.signed.samples.toList.map fun d => |d|).foldl max 0 := by
  have hstep : (fun greatest d : Rat => if greatest < d then d else greatest) = max := by
    funext greatest d
    split
    · rename_i h
      exact (max_eq_right h.le).symm
    · rename_i h
      exact (max_eq_left (not_lt.mp h)).symm
  have habs : (fun d : Rat => Scalar.abs d) = fun d => |d| := funext scalarAbs_eq_abs
  rw [peak, absolute, Grid.map, ← Array.foldl_toList, Array.toList_map]
  change List.foldl (fun greatest d : Rat => if greatest < d then d else greatest) 0
    (map.signed.samples.toList.map fun d => Scalar.abs d) = _
  rw [hstep, habs]

/-- The peak bounds every difference, and no bound of them all is below it. -/
theorem peak_le_iff : (⟨Grid.ofFn shape f⟩ : DifferenceMap Rat).peak ≤ bound ↔
    0 ≤ bound ∧ ∀ row col, |f row col| ≤ bound := by
  rw [peak_eq_foldl_max, foldl_max_le_iff, Grid.toList_ofFn, List.forall_mem_map,
    List.forall_mem_map]
  exact and_congr_right fun _ =>
    ⟨fun h row col => h (row, col) (Grid.mem_positions _), fun h p _ => h p.1 p.2⟩

/-- Differences of bytes are whole, and so is the largest. -/
theorem exists_natCast_peak (f g : Fin shape.height → Fin shape.width → UInt8) :
    ∃ n : Nat, (⟨Grid.ofFn shape fun row col => ((f row col).toNat : Rat) - (g row col).toNat⟩ :
      DifferenceMap Rat).peak = n := by
  rw [peak_eq_foldl_max, Grid.toList_ofFn]
  rcases List.mem_cons.mp (foldl_max_mem (T := Rat)) with hzero | hsome
  · exact ⟨0, hzero.trans Nat.cast_zero.symm⟩
  · obtain ⟨d, hd, hpeak⟩ := List.mem_map.mp hsome
    obtain ⟨p, -, rfl⟩ := List.mem_map.mp hd
    refine ⟨(((f p.1 p.2).toNat : Int) - (g p.1 p.2).toNat).natAbs, hpeak.symm.trans ?_⟩
    rw [Nat.cast_natAbs]
    push_cast
    rfl

end DifferenceMap

theorem Comparison.between_ofFn [Analytic Rat] {shape : Shape}
    (f g : Fin shape.height → Fin shape.width → Rat) (thresholds : List Rat) :
    ∃ comparison, between (Grid.ofFn shape f) (Grid.ofFn shape g) thresholds = .ok comparison ∧
      comparison.maxAbs =
        (⟨Grid.ofFn shape fun row col => f row col - g row col⟩ : DifferenceMap Rat).peak := by
  rw [between, DifferenceMap.between_ofFn]
  exact ⟨_, rfl, rfl⟩

end Planar
