import Planar.Proofs.Extremes

/-! The median as the middle of the values in sorted order, with as many values on either side of
it. -/
namespace Planar.Statistics
variable {values sorted : List Rat} {middle : Rat}

/-- What a median is made of: of an odd number of sorted values the one halfway, of an even number
the two that meet there. Each of them is found at its place. -/
inductive Middle (sorted : List Rat) : Rat → Prop
  | one {value : Rat} (odd : sorted.length % 2 = 1)
      (halfway : sorted[sorted.length / 2]? = some value) : Middle sorted value
  | two {below above : Rat} (even : sorted.length % 2 = 0) (pos : 0 < sorted.length / 2)
      (before : sorted[sorted.length / 2 - 1]? = some below)
      (halfway : sorted[sorted.length / 2]? = some above) : Middle sorted ((below + above) / 2)

theorem Middle.mem_of_odd (h : Middle sorted middle) (hodd : sorted.length % 2 = 1) :
    middle ∈ sorted := by
  cases h with
  | one _ halfway => exact List.mem_of_getElem? halfway
  | two even => omega

theorem getElem?_sorted {i : Nat} (k : Fin values.length) (h : i = k.val) :
    (values.mergeSort Scalar.totalLe)[i]? = some (ranked values k) := by
  subst h
  exact List.getElem?_eq_getElem _

theorem middle_median (hsome : 0 < values.length) :
    Middle (values.mergeSort Scalar.totalLe) (median values) := by
  have hlength : (values.mergeSort Scalar.totalLe).length = values.length :=
    List.length_mergeSort values
  have hhalfway : (values.mergeSort Scalar.totalLe).length / 2 = values.length / 2 :=
    congrArg (· / 2) hlength
  rw [median_eq hsome]
  rcases Nat.mod_two_eq_zero_or_one values.length with heven | hodd
  · have hbefore : (values.mergeSort Scalar.totalLe).length / 2 - 1 = (values.length - 1) / 2 := by
      omega
    exact .two (by omega) (by omega) (getElem?_sorted _ hbefore) (getElem?_sorted _ hhalfway)
  · have hsame : (values.length - 1) / 2 = values.length / 2 := by omega
    simp only [hsame, add_self_div_two]
    exact .one (by omega) (getElem?_sorted _ hhalfway)

/-! ### Ranks -/

theorem ranked_mono {j k : Fin values.length} (h : j.val ≤ k.val) :
    ranked values j ≤ ranked values k :=
  (ranked_le_iff j).mpr (h.trans_lt ((ranked_le_iff k).mp le_rfl))

/-- Adding a constant to all values adds it to the value of each rank, since it does to every bound
on that value. -/
theorem ranked_map_add {c : Rat} {j : Fin (values.map (· + c)).length} {k : Fin values.length}
    (h : j.val = k.val) : ranked (values.map (· + c)) j = ranked values k + c := by
  apply eq_of_forall_ge_iff
  intro bound
  rw [ranked_le_iff, h, List.countP_map, ← le_sub_iff_add_le, ranked_le_iff]
  simp only [Function.comp_def, le_sub_iff_add_le]

theorem median_map_add (hsome : 0 < values.length) (c : Rat) :
    median (values.map (· + c)) = median values + c := by
  have hlength : (values.map (· + c)).length = values.length := List.length_map _
  have hmap : 0 < (values.map (· + c)).length := hlength ▸ hsome
  have hlow : ranked (values.map (· + c)) ⟨((values.map (· + c)).length - 1) / 2, by omega⟩ =
      ranked values ⟨(values.length - 1) / 2, by omega⟩ + c :=
    ranked_map_add (congrArg (fun n => (n - 1) / 2) hlength)
  have hhigh : ranked (values.map (· + c)) ⟨(values.map (· + c)).length / 2, by omega⟩ =
      ranked values ⟨values.length / 2, by omega⟩ + c :=
    ranked_map_add (congrArg (· / 2) hlength)
  rw [median_eq hsome, median_eq hmap, hlow, hhigh]
  ring

theorem median_mem_ranked (values : List Rat) (hlow : (values.length - 1) / 2 < values.length)
    (hhigh : values.length / 2 < values.length) :
    median values ∈ Set.Icc (ranked values ⟨_, hlow⟩) (ranked values ⟨_, hhigh⟩) := by
  have hmono : ranked values ⟨_, hlow⟩ ≤ ranked values ⟨_, hhigh⟩ :=
    ranked_mono (Nat.div_le_div_right (Nat.sub_le _ _))
  rw [median_eq (Nat.zero_lt_of_lt hhigh)]
  constructor <;> linarith

theorem half_le_countP_le (hsome : 0 < values.length) :
    (values.length + 1) / 2 ≤ values.countP (· ≤ median values) := by
  have hmem := median_mem_ranked values (by omega) (by omega)
  have hlow : (values.length - 1) / 2 < values.countP (· ≤ median values) :=
    (ranked_le_iff _).mp hmem.1
  omega

/-- The values that are not at least the median have ranks below the upper middle. -/
theorem half_le_countP_ge (hsome : 0 < values.length) :
    (values.length + 1) / 2 ≤ values.countP (median values ≤ ·) := by
  have hmem := median_mem_ranked values (by omega) (by omega)
  have hhigh : values.countP (· < median values) ≤ values.length / 2 :=
    not_lt.mp fun h => hmem.2.not_gt ((ranked_lt_iff _).mpr h)
  have hsplit := values.length_eq_countP_add_countP (p := (· < median values))
  simp only [decide_eq_true_eq, not_lt] at hsplit
  omega

/-- The median of some values is the middle of them in sorted order, each read inside the sorted
list, and one of the values if their number is odd. Half of the values or more are at most it and
half or more at least it. It is the same in whatever order the values come, and moves with them
when a constant is added to all. -/
theorem median_order_statistic (hsome : 0 < values.length) :
    (∃ sorted : List Rat, sorted.Perm values ∧ sorted.Pairwise (· ≤ ·) ∧
      Middle sorted (median values)) ∧
    (values.length % 2 = 1 → median values ∈ values) ∧
    (values.length + 1) / 2 ≤ values.countP (· ≤ median values) ∧
    (values.length + 1) / 2 ≤ values.countP (median values ≤ ·) ∧
    (∀ others, values.Perm others → median others = median values) ∧
    ∀ c, median (values.map (· + c)) = median values + c := by
  have hperm := List.mergeSort_perm values Scalar.totalLe
  have hmiddle := middle_median hsome
  refine ⟨⟨_, hperm, pairwise_sorted values, hmiddle⟩, ?_, half_le_countP_le hsome,
    half_le_countP_ge hsome, ?_, median_map_add hsome⟩
  · intro hodd
    exact hperm.mem_iff.mp (hmiddle.mem_of_odd (hperm.length_eq ▸ hodd))
  · intro others hothers
    exact (median_perm hothers).symm

/-- The median of four values is none of them, that of the first three is. -/
theorem median_order_statistic_four :
    let values : List Rat := [9, 1, 4, 2]
    let three : List Rat := [9, 1, 4]
    (0 < values.length ∧ median values = 3 ∧ values.Perm [1, 2, 4, 9] ∧
      0 < three.length ∧ three.length % 2 = 1) ∧
    (∃ sorted : List Rat, sorted.Perm values ∧ sorted.Pairwise (· ≤ ·) ∧ Middle sorted 3) ∧
    2 ≤ values.countP (· ≤ 3) ∧ 2 ≤ values.countP (3 ≤ ·) ∧
    median [1, 2, 4, 9] = (3 : Rat) ∧ median [19, 11, 14, 12] = (13 : Rat) ∧
    median three ∈ three := by
  intro values three
  have hsome : 0 < values.length := by decide
  have hthree : 0 < three.length := by decide
  have hodd : three.length % 2 = 1 := by decide
  have hmedian : median values = 3 := by cbv
  have hperm : values.Perm [1, 2, 4, 9] := by decide
  have hhalf : (values.length + 1) / 2 = 2 := by decide
  have hadd : values.map (· + 10) = [19, 11, 14, 12] := by decide +kernel
  obtain ⟨hmiddle, -, hbelow, habove, hsame, hmoves⟩ := median_order_statistic hsome
  obtain ⟨-, hmem, -⟩ := median_order_statistic hthree
  have hshift := hmoves 10
  rw [hadd, hmedian] at hshift
  rw [hmedian] at hmiddle hbelow habove hsame
  rw [hhalf] at hbelow habove
  refine ⟨⟨hsome, hmedian, hperm, hthree, hodd⟩, hmiddle, hbelow, habove, hsame _ hperm, ?_,
    hmem hodd⟩
  rw [hshift]
  decide +kernel

end Planar.Statistics
