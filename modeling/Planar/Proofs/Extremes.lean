import Planar.Proofs.Differences
import Planar.Proofs.OrderStatistics

/-! The least and the greatest of exact numbers, and the median between them, in whatever order the
numbers come. -/
namespace Planar.Statistics
variable {values others : List Rat} {low high : Rat}

/-- Every exact number is defined. -/
theorem foldDefined_cons (f : Rat → Rat → Rat) (default v : Rat) (rest : List Rat) :
    foldDefined f default (v :: rest) = rest.foldl f v := by
  have hall : (v :: rest).filter (fun v => v == v) = v :: rest := by
    rw [List.filter_eq_self]
    exact fun v _ => beq_self_eq_true v
  rw [foldDefined, hall]

theorem maximum_cons (v : Rat) (rest : List Rat) : maximum (v :: rest) = rest.foldl max v := by
  have hstep : (fun greatest v : Rat => if greatest < v then v else greatest) = max := by
    funext greatest v
    rw [max_def_lt]
  rw [maximum, foldDefined_cons, hstep]

theorem minimum_cons (v : Rat) (rest : List Rat) : minimum (v :: rest) = rest.foldl min v := by
  have hstep : (fun least v : Rat => if v < least then v else least) = min := by
    funext least v
    rw [min_comm, min_def_lt]
  rw [minimum, foldDefined_cons, hstep]

theorem isGreatest_maximum (hsome : 0 < values.length) :
    IsGreatest {v | v ∈ values} (maximum values) := by
  obtain ⟨v, rest, rfl⟩ := List.exists_cons_of_length_pos hsome
  rw [maximum_cons]
  have hbounds : v ≤ rest.foldl max v ∧ ∀ w ∈ rest, w ≤ rest.foldl max v :=
    foldl_max_le_iff.mp le_rfl
  exact ⟨foldl_max_mem, List.forall_mem_cons.mpr hbounds⟩

/-- The least value is the greatest in the order turned round. -/
theorem isLeast_minimum (hsome : 0 < values.length) :
    IsLeast {v | v ∈ values} (minimum values) := by
  obtain ⟨v, rest, rfl⟩ := List.exists_cons_of_length_pos hsome
  rw [minimum_cons]
  have hmem : rest.foldl min v ∈ v :: rest := foldl_max_mem (T := Ratᵒᵈ)
  have hbounds : rest.foldl min v ≤ v ∧ ∀ w ∈ rest, rest.foldl min v ≤ w :=
    (foldl_max_le_iff (T := Ratᵒᵈ)).mp le_rfl
  exact ⟨hmem, List.forall_mem_cons.mpr hbounds⟩

theorem ranked_mem (k : Fin values.length) : ranked values k ∈ values :=
  List.mem_mergeSort.mp (List.get_mem _ _)

theorem median_mem_Icc (hsome : 0 < values.length) (h : ∀ v ∈ values, low ≤ v ∧ v ≤ high) :
    median values ∈ Set.Icc low high := by
  have hlower := h _ (ranked_mem ⟨(values.length - 1) / 2, by omega⟩)
  have hupper := h _ (ranked_mem ⟨values.length / 2, by omega⟩)
  rw [median_eq hsome]
  constructor <;> linarith

/-! ### The order of the values does not matter -/

theorem maximum_perm (h : values.Perm others) : maximum values = maximum others := by
  rcases Nat.eq_zero_or_pos values.length with hnone | hsome
  · obtain rfl := List.eq_nil_of_length_eq_zero hnone
    rw [h.nil_eq]
  · have hothers := isGreatest_maximum (h.length_eq ▸ hsome)
    simp only [← h.mem_iff] at hothers
    exact (isGreatest_maximum hsome).unique hothers

theorem minimum_perm (h : values.Perm others) : minimum values = minimum others := by
  rcases Nat.eq_zero_or_pos values.length with hnone | hsome
  · obtain rfl := List.eq_nil_of_length_eq_zero hnone
    rw [h.nil_eq]
  · have hothers := isLeast_minimum (h.length_eq ▸ hsome)
    simp only [← h.mem_iff] at hothers
    exact (isLeast_minimum hsome).unique hothers

/-- Sorting forgets the order that the values came in. -/
theorem median_perm (h : values.Perm others) : median values = median others := by
  have hsorted : values.mergeSort Scalar.totalLe = others.mergeSort Scalar.totalLe := by
    refine List.Perm.eq_of_pairwise ?_ (pairwise_sorted values) (pairwise_sorted others) ?_
    · exact fun _ _ _ _ => le_antisymm
    · exact ((List.mergeSort_perm _ _).trans h).trans (List.mergeSort_perm _ _).symm
  simp only [median, hsorted]

end Planar.Statistics
